/-
  Dumps that have texts where they are due. What `Dump.ofJson` takes out of a value is also what
  the program loads, whose `Json.asShown` leaves texts as they are: `Refines` says that what
  comes of the strict reading comes of the other one, for each way to take a field and for each
  record, up to `refines_ofJson`.

  * `loadTyped_eq_ok`: `Dump.loadTyped` gives the dump that `Dump.ofJson` finds in the value of
    the file, and nothing else.
  * `untold_iff`: the other dumps that can be loaded, and texts with an unpaired surrogate, are
    `Untold`; on those and on no others loading ends with a fault that leaves open what the
    program does.
-/
import ShaderBindings.Proofs.Dump.Load

namespace ShaderBindings.Dump

open Fallible

/-! ## Reading strictly -/

/-- What comes of the first comes of the second. -/
def Refines {α : Type} (x y : Except DumpFault α) : Prop := ∀ a, x = .ok a → y = .ok a

section

variable {α β : Type} {v : Json} {name : String}

theorem refines_self (x : Except DumpFault α) : Refines x x := fun _ h => h

theorem refines_bind {x y : Except DumpFault α} {f g : α → Except DumpFault β}
    (hxy : Refines x y) (hfg : ∀ a, Refines (f a) (g a)) : Refines (x >>= f) (y >>= g) := by
  intro b h
  obtain ⟨a, ha, hb⟩ := bind_eq_ok.mp h
  exact bind_eq_ok.mpr ⟨a, hxy a ha, hfg a b hb⟩

theorem refines_mapM {f g : α → Except DumpFault β} (h : ∀ a, Refines (f a) (g a)) (as : List α) :
    Refines (as.mapM f) (as.mapM g) := by
  intro bs hbs
  exact mapM_eq_ok.mpr ((mapM_eq_ok.mp hbs).imp fun a b hab => h a b hab)

/-! ## Fields -/

theorem refines_asText (v : Json) : Refines v.asText v.asShown := by
  intro s h
  unfold Json.asText at h
  split at h
  · exact h
  · cases h

theorem refines_textField :
    Refines (v.textField Json.asText name) (v.textField Json.asShown name) :=
  refines_bind (refines_self _) refines_asText

theorem refines_textFieldOr {default : String} : Refines (v.textFieldOr Json.asText name default)
    (v.textFieldOr Json.asShown name default) :=
  refines_bind (refines_self _) refines_asText

theorem refines_listField {f g : Json → Except DumpFault α} (h : ∀ x, Refines (f x) (g x)) :
    Refines (v.listField name f) (v.listField name g) :=
  refines_bind (refines_self _) fun _ => refines_bind (refines_self _) (refines_mapM h)

theorem refines_asNamed : Refines (v.asNamed Json.asText) (v.asNamed Json.asShown) := by
  unfold Json.asNamed
  split
  · exact refines_self _
  · refine refines_bind (refines_self _) fun pairs => refines_bind (refines_self _) ?_
    exact refines_mapM fun e => refines_bind (refines_asText e.1) fun _ => refines_self _

end

/-! ## Records -/

section

variable (v : Json)

theorem refines_attr : Refines (attr Json.asText v) (attr Json.asShown v) := by
  refine refines_bind (refines_self _) fun slot => ?_
  refine refines_bind refines_textField fun name => ?_
  exact refines_bind refines_textFieldOr fun semName => refines_self _

theorem refines_uniform : Refines (uniform Json.asText v) (uniform Json.asShown v) := by
  refine refines_bind refines_textField fun name => ?_
  exact refines_bind refines_textField fun type => refines_self _

theorem refines_uniformBlock :
    Refines (uniformBlock Json.asText v) (uniformBlock Json.asShown v) := by
  refine refines_bind (refines_self _) fun slot => ?_
  refine refines_bind (refines_self _) fun size => ?_
  refine refines_bind refines_textField fun structName => ?_
  refine refines_bind refines_textFieldOr fun instName => ?_
  refine refines_bind (refines_self _) fun flattened => ?_
  exact refines_bind (refines_listField refines_uniform) fun uniforms => refines_self _

theorem refines_image : Refines (image Json.asText v) (image Json.asShown v) := by
  refine refines_bind (refines_self _) fun slot => ?_
  refine refines_bind refines_textField fun name => ?_
  refine refines_bind refines_textFieldOr fun type => ?_
  exact refines_bind refines_textFieldOr fun sampleType => refines_self _

theorem refines_sampler : Refines (sampler Json.asText v) (sampler Json.asShown v) := by
  refine refines_bind (refines_self _) fun slot => ?_
  refine refines_bind refines_textField fun name => ?_
  exact refines_bind refines_textFieldOr fun type => refines_self _

theorem refines_imageSampler :
    Refines (imageSampler Json.asText v) (imageSampler Json.asShown v) := by
  refine refines_bind (refines_self _) fun slot => ?_
  refine refines_bind refines_textField fun name => ?_
  refine refines_bind refines_textField fun imageName => ?_
  exact refines_bind refines_textField fun samplerName => refines_self _

theorem refines_reflection : Refines (reflection Json.asText v) (reflection Json.asShown v) := by
  refine refines_bind refines_textField fun stage => ?_
  refine refines_bind refines_textFieldOr fun entryPoint => ?_
  refine refines_bind (refines_listField refines_attr) fun inputs => ?_
  refine refines_bind (refines_listField refines_uniformBlock) fun blocks => ?_
  refine refines_bind (refines_listField refines_image) fun images => ?_
  refine refines_bind (refines_listField refines_sampler) fun samplers => ?_
  exact refines_bind (refines_listField refines_imageSampler) fun pairs => refines_self _

theorem refines_stageSource :
    Refines (stageSource Json.asText v) (stageSource Json.asShown v) := by
  refine refines_bind refines_textField fun snippet => ?_
  refine refines_bind refines_textField fun source => ?_
  refine refines_bind (refines_self _) fun field => ?_
  exact refines_bind (refines_reflection field) fun r => refines_self _

theorem refines_backend (slang : Slang) :
    Refines (backend Json.asText slang v) (backend Json.asShown slang v) :=
  refines_bind (refines_listField refines_stageSource) fun _ => refines_self _

theorem refines_namedBackend (entry : String × Json) :
    Refines (namedBackend Json.asText entry) (namedBackend Json.asShown entry) := by
  unfold namedBackend
  split
  · exact refines_self _
  · exact refines_bind (refines_backend _ _) fun b => refines_self _

theorem refines_snippet : Refines (snippet Json.asText v) (snippet Json.asShown v) := by
  refine refines_bind refines_textField fun name => ?_
  exact refines_bind refines_textField fun stage => refines_self _

theorem refines_program : Refines (program Json.asText v) (program Json.asShown v) := by
  refine refines_bind refines_textField fun name => ?_
  refine refines_bind refines_textField fun vsName => ?_
  exact refines_bind refines_textField fun fsName => refines_self _

/-- A dump with texts where they are due is loaded as it is. -/
theorem refines_ofJson (basePath : String) :
    Refines (ofJson basePath v) (ofJsonBy Json.asShown basePath v) := by
  refine refines_bind refines_textFieldOr fun path => ?_
  refine refines_bind (refines_self _) fun name => ?_
  refine refines_bind (refines_listField refines_snippet) fun snippets => ?_
  refine refines_bind (refines_listField refines_program) fun programs => ?_
  refine refines_bind (refines_self _) fun output => ?_
  refine refines_bind (refines_self _) fun fs => ?_
  refine refines_bind (refines_mapM refines_namedBackend fs) fun backends => ?_
  refine refines_bind (refines_self _) fun headers => ?_
  refine refines_bind (refines_self _) fun verbatim => ?_
  refine refines_bind (refines_self _) fun ctypes => ?_
  exact refines_bind refines_asNamed fun hosts => refines_self _

end

/-! ## Loading -/

section

variable {t : FileTree} {path : PathName} {d : Dump}

/-- What is loaded is what the value of the file says. -/
theorem loadTyped_eq_ok :
    loadTyped t path = .ok d ↔ ∃ v, readValue t path = .ok v ∧ ofJson path.text v = .ok d := by
  unfold loadTyped
  simp only [bind_eq_ok, mapError_eq_ok]
  refine exists_congr fun v => and_congr_right fun _ => ?_
  constructor
  · rintro ⟨found, hfound, h⟩
    split at h
    · next htyped =>
      obtain rfl := pure_eq_ok.mp h
      obtain ⟨d, hd⟩ := exists_eq_ok_of_toBool htyped
      rw [refines_ofJson v path.text d hd] at hfound
      rw [hd, hfound]
    · cases h
  · intro hd
    refine ⟨d, refines_ofJson v path.text d hd, ?_⟩
    rw [hd]
    rfl

end

/-- The dump in a file is one with an unpaired surrogate, or one that is loaded although something
else than a text stands where one is due. -/
inductive Untold (t : FileTree) (path : PathName) : Prop
  | unpaired {bytes : Bytes} {s : String} (hread : t.read path = .ok bytes)
      (htext : Bytes.text? bytes = some s) (hjson : Json.read limits s = .error .unpaired)
  | untyped {v : Json} {d : Dump} (hvalue : readValue t path = .ok v)
      (hload : load t path = .ok d) (htyped : ∀ d, ofJson path.text v ≠ .ok d)

theorem eq_unpaired_of_isUntold {path : PathName} {f : DumpFault}
    (h : (LoadFault.unusable path f).isUntold = true) : f = .unread .unpaired := by
  unfold LoadFault.isUntold at h
  split at h
  · next heq => exact (LoadFault.unusable.inj heq).2
  · next heq => cases heq
  · cases h

/-- Only reading the text comes to an unpaired surrogate. -/
theorem exists_unpaired_of_readValue {t : FileTree} {path : PathName} {f : LoadFault}
    (h : readValue t path = .error f) (huntold : f.isUntold = true) :
    ∃ bytes s, t.read path = .ok bytes ∧ Bytes.text? bytes = some s ∧
      Json.read limits s = .error .unpaired := by
  rcases bind_eq_error.mp h with h | ⟨bytes, hbytes, h⟩
  · obtain ⟨g, -, rfl⟩ := mapError_eq_error.mp h
    cases huntold
  · split at h
    · obtain rfl := Except.error.inj h
      cases huntold
    · next s hs =>
      obtain ⟨g, hg, rfl⟩ := mapError_eq_error.mp h
      obtain rfl := DumpFault.unread.inj (eq_unpaired_of_isUntold huntold)
      exact ⟨bytes, s, mapError_eq_ok.mp hbytes, hs, hg⟩

theorem untold_iff {t : FileTree} {path : PathName} :
    Untold t path ↔ ∃ f, loadTyped t path = .error f ∧ f.isUntold = true := by
  constructor
  · intro h
    cases h with
    | unpaired hread htext hjson =>
      refine ⟨.unusable path (.unread .unpaired), ?_, rfl⟩
      unfold loadTyped
      rw [readValue_eq hread htext, hjson]
      rfl
    | @untyped v d hvalue hload htyped =>
      refine ⟨.untyped path, ?_, rfl⟩
      have hshown : (ofJsonBy Json.asShown path.text v).mapError (LoadFault.unusable path) =
          .ok d := by
        unfold load at hload
        rwa [hvalue, ok_bind] at hload
      have hstrict : (ofJson path.text v).toBool = false := by
        rw [← Bool.not_eq_true]
        intro h
        obtain ⟨d, hd⟩ := exists_eq_ok_of_toBool h
        exact htyped d hd
      unfold loadTyped
      rw [hvalue, ok_bind, hshown, ok_bind, hstrict]
      rfl
  · rintro ⟨f, hf, huntold⟩
    rcases bind_eq_error.mp hf with hvalue | ⟨v, hvalue, hf⟩
    · obtain ⟨bytes, s, hread, htext, hjson⟩ := exists_unpaired_of_readValue hvalue huntold
      exact .unpaired hread htext hjson
    rcases bind_eq_error.mp hf with hshown | ⟨d, hshown, hf⟩
    · -- decoding never comes to an unpaired surrogate
      obtain ⟨g, hg, rfl⟩ := mapError_eq_error.mp hshown
      obtain rfl := eq_unpaired_of_isUntold huntold
      cases (blames_ofJsonBy v path.text _ hg rfl).1
    · refine .untyped hvalue (bind_eq_ok.mpr ⟨v, hvalue, hshown⟩) fun d hd => ?_
      rw [hd] at hf
      cases hf

end ShaderBindings.Dump
