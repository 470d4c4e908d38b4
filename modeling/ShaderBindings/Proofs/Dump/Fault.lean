/-
  Which faults of a dump are reported as malformed input when it is decoded: all of them, except
  an infinite number where an integer is due. `Blames` says so of a computation and gives the
  reason; `blames_bind` puts two of them together, and there is one lemma for each way to take a
  field and for each record, up to `blames_ofJsonBy` for whole dumps. The reason is `Overflows`:
  some object, at any depth, has an infinite number in a field of one of the names in
  `integerFields`. Texts are taken as they are shown, so that none of them is a fault.
-/
import ShaderBindings.Dump.Model
import ShaderBindings.Proofs.Dump.Decode
import ShaderBindings.Proofs.Fallible
import ShaderBindings.Proofs.Keyed

namespace ShaderBindings

open Fallible

namespace Json

/-- A value is another one or stands in it, at any depth. -/
inductive Within (v : Json) : Json → Prop
  | refl : Within v v
  | item {w : Json} {vs : List Json} (hw : w ∈ vs) (h : Within v w) : Within v (.array vs)
  | field {name : String} {w : Json} {fs : List (String × Json)} (hw : (name, w) ∈ fs)
      (h : Within v w) : Within v (.object fs)

/-- An object has an infinite number in a field of one of the names. -/
def HoldsInfinity (names : List String) (v : Json) : Prop :=
  ∃ fs name negative, Within (.object fs) v ∧ name ∈ names ∧
    Keyed.get? fs name = some (.float (.infinite negative))

namespace HoldsInfinity

variable {names : List String} {v a default : Json} {name : String}

/-- What a field holds, the whole does. -/
theorem of_entry {fs : List (String × Json)} (ha : (name, a) ∈ fs) (h : a.HoldsInfinity names) :
    (object fs).HoldsInfinity names := by
  obtain ⟨gs, infinite, negative, hwithin, hrest⟩ := h
  exact ⟨gs, infinite, negative, .field ha hwithin, hrest⟩

theorem of_field (ha : v.field name = .ok a) (h : a.HoldsInfinity names) :
    v.HoldsInfinity names := by
  obtain ⟨fs, rfl, hget⟩ := field_eq_ok.mp ha
  exact h.of_entry (Keyed.mem_of_get? hget)

theorem of_fieldOr (ha : v.fieldOr name default = .ok a) (h : a.HoldsInfinity names)
    (hdefault : ¬ default.HoldsInfinity names) : v.HoldsInfinity names := by
  obtain ⟨fs, rfl, hget | ⟨-, rfl⟩⟩ := fieldOr_eq_ok.mp ha
  · exact h.of_entry (Keyed.mem_of_get? hget)
  · exact absurd h hdefault

/-- What an item holds, the whole does: the characters of a text and the names of an object hold
no numbers. -/
theorem of_item {vs : List Json} (hv : v.items = .ok vs) (ha : a ∈ vs)
    (h : a.HoldsInfinity names) : v.HoldsInfinity names := by
  obtain ⟨fs, infinite, negative, hwithin, hrest⟩ := h
  rcases items_cases hv with rfl | htexts
  · exact ⟨fs, infinite, negative, .item ha hwithin, hrest⟩
  · obtain ⟨s, rfl⟩ := htexts a ha
    cases hwithin

theorem not_array_nil : ¬ (array []).HoldsInfinity names := by
  rintro ⟨fs, name, negative, hwithin, -, -⟩
  cases hwithin with
  | item hw _ => cases hw

theorem not_object_nil : ¬ (object []).HoldsInfinity names := by
  rintro ⟨fs, name, negative, hwithin, -, hget⟩
  cases hwithin with
  | refl => cases hget
  | field hw _ => cases hw

end HoldsInfinity

end Json

namespace Dump

/-- The fields of a dump that are read as integers. -/
def integerFields : List String := ["slot", "sem_index", "size", "offset", "array_count", "line"]

/-- An infinite number stands where an integer is due. -/
abbrev Overflows (v : Json) : Prop := v.HoldsInfinity integerFields

/-- What ends with a fault that is not reported ends with an infinite number, and has the given
reason for it. -/
def Blames (P : Prop) {α : Type} (x : Except DumpFault α) : Prop :=
  ∀ f, x = .error f → f.isMalformed = false → f = .infiniteNumber ∧ P

section

variable {P Q : Prop} {α β : Type} {v : Json} {name : String}

theorem Blames.imp {x : Except DumpFault α} (h : Blames P x) (hPQ : P → Q) : Blames Q x :=
  fun f hf hreported => ⟨(h f hf hreported).1, hPQ (h f hf hreported).2⟩

theorem blames_ok (a : α) : Blames P (.ok a : Except DumpFault α) :=
  fun _ h => nomatch h

theorem blames_error {f : DumpFault} (h : f.isMalformed = true) :
    Blames P (.error f : Except DumpFault α) := by
  intro g hg hreported
  rw [← Except.error.inj hg, h] at hreported
  cases hreported

theorem blames_bind {x : Except DumpFault α} {g : α → Except DumpFault β} (hx : Blames P x)
    (hg : ∀ a, x = .ok a → Blames P (g a)) : Blames P (x >>= g) := by
  intro f h hf
  rcases bind_eq_error.mp h with h | ⟨a, ha, h⟩
  · exact hx f h hf
  · exact hg a ha f h hf

theorem blames_mapM {as : List α} {g : α → Except DumpFault β} (h : ∀ a ∈ as, Blames P (g a)) :
    Blames P (as.mapM g) := by
  intro f hf hreported
  obtain ⟨a, ha, hfault⟩ := exists_of_mapM_eq_error hf
  exact h a ha f hfault hreported

/-! ## Fields -/

theorem blames_field : Blames P (v.field name) := by
  unfold Json.field
  split
  · split
    · exact blames_ok _
    · exact blames_error rfl
  · exact blames_error rfl

theorem blames_fieldOr {default : Json} : Blames P (v.fieldOr name default) := by
  unfold Json.fieldOr
  split
  · exact blames_ok _
  · exact blames_error rfl

theorem blames_items : Blames P v.items := by
  unfold Json.items
  split
  · exact blames_ok _
  · exact blames_ok _
  · exact blames_ok _
  · exact blames_error rfl

theorem blames_namedFields : Blames P v.namedFields := by
  unfold Json.namedFields
  split
  · exact blames_ok _
  · exact blames_error rfl

theorem blames_asShown : Blames P v.asShown := blames_ok _

theorem blames_asBytes : Blames P v.asBytes := by
  unfold Json.asBytes
  split
  · split
    · exact blames_ok _
    · exact blames_error rfl
  · exact blames_error rfl

/-- Only an infinite number is no integer without that being reported. -/
theorem blames_asInt : Blames (∃ negative, v = .float (.infinite negative)) v.asInt := by
  unfold Json.asInt
  split
  · exact blames_ok _
  · exact blames_ok _
  · split
    · exact blames_error rfl
    · next negative => exact fun _ hf _ => ⟨(Except.error.inj hf).symm, negative, rfl⟩
    · split
      · exact blames_ok _
      · exact blames_error rfl
  · split
    · exact blames_ok _
    · exact blames_error rfl
  · exact blames_error rfl

theorem blames_textField : Blames P (v.textField Json.asShown name) :=
  blames_bind blames_field fun _ _ => blames_asShown

theorem blames_textFieldOr {default : String} :
    Blames P (v.textFieldOr Json.asShown name default) :=
  blames_bind blames_fieldOr fun _ _ => blames_asShown

theorem blames_intField (hname : name ∈ integerFields) :
    Blames (Overflows v) (v.intField name) := by
  refine blames_bind blames_field fun a ha => blames_asInt.imp ?_
  rintro ⟨negative, rfl⟩
  obtain ⟨fs, rfl, hget⟩ := Json.field_eq_ok.mp ha
  exact ⟨fs, name, negative, .refl, hname, hget⟩

theorem blames_intFieldOr {default : Int} (hname : name ∈ integerFields) :
    Blames (Overflows v) (v.intFieldOr name default) := by
  refine blames_bind blames_fieldOr fun a ha => blames_asInt.imp ?_
  rintro ⟨negative, rfl⟩
  obtain ⟨fs, rfl, hget | ⟨-, hdefault⟩⟩ := Json.fieldOr_eq_ok.mp ha
  · exact ⟨fs, name, negative, .refl, hname, hget⟩
  · cases hdefault

theorem blames_listField {decode : Json → Except DumpFault α}
    (hdecode : ∀ x, Blames (Overflows x) (decode x)) :
    Blames (Overflows v) (v.listField name decode) := by
  refine blames_bind blames_fieldOr fun a ha => blames_bind blames_items fun xs hxs => ?_
  refine blames_mapM fun x hx => (hdecode x).imp fun hoverflows => ?_
  exact (hoverflows.of_item hxs hx).of_fieldOr ha Json.HoldsInfinity.not_array_nil

end

/-! ## Records -/

section

variable (v : Json)

theorem blames_attr : Blames (Overflows v) (attr Json.asShown v) := by
  refine blames_bind (blames_intField (by decide)) fun slot _ => ?_
  refine blames_bind blames_textField fun name _ => ?_
  refine blames_bind blames_textFieldOr fun semName _ => ?_
  refine blames_bind (blames_intFieldOr (by decide)) fun semIndex _ => ?_
  exact blames_ok _

theorem blames_uniform : Blames (Overflows v) (uniform Json.asShown v) := by
  refine blames_bind blames_textField fun name _ => ?_
  refine blames_bind blames_textField fun type _ => ?_
  refine blames_bind (blames_intField (by decide)) fun offset _ => ?_
  refine blames_bind (blames_intFieldOr (by decide)) fun arrayCount _ => ?_
  exact blames_ok _

theorem blames_uniformBlock : Blames (Overflows v) (uniformBlock Json.asShown v) := by
  refine blames_bind (blames_intField (by decide)) fun slot _ => ?_
  refine blames_bind (blames_intField (by decide)) fun size _ => ?_
  refine blames_bind blames_textField fun structName _ => ?_
  refine blames_bind blames_textFieldOr fun instName _ => ?_
  refine blames_bind blames_fieldOr fun flattened _ => ?_
  refine blames_bind (blames_listField blames_uniform) fun uniforms _ => ?_
  exact blames_ok _

theorem blames_image : Blames (Overflows v) (image Json.asShown v) := by
  refine blames_bind (blames_intField (by decide)) fun slot _ => ?_
  refine blames_bind blames_textField fun name _ => ?_
  refine blames_bind blames_textFieldOr fun type _ => ?_
  refine blames_bind blames_textFieldOr fun sampleType _ => ?_
  refine blames_bind blames_fieldOr fun multisampled _ => ?_
  exact blames_ok _

theorem blames_sampler : Blames (Overflows v) (sampler Json.asShown v) := by
  refine blames_bind (blames_intField (by decide)) fun slot _ => ?_
  refine blames_bind blames_textField fun name _ => ?_
  refine blames_bind blames_textFieldOr fun type _ => ?_
  exact blames_ok _

theorem blames_imageSampler : Blames (Overflows v) (imageSampler Json.asShown v) := by
  refine blames_bind (blames_intField (by decide)) fun slot _ => ?_
  refine blames_bind blames_textField fun name _ => ?_
  refine blames_bind blames_textField fun imageName _ => ?_
  refine blames_bind blames_textField fun samplerName _ => ?_
  exact blames_ok _

theorem blames_reflection : Blames (Overflows v) (reflection Json.asShown v) := by
  refine blames_bind blames_textField fun stage _ => ?_
  refine blames_bind blames_textFieldOr fun entryPoint _ => ?_
  refine blames_bind (blames_listField blames_attr) fun inputs _ => ?_
  refine blames_bind (blames_listField blames_uniformBlock) fun blocks _ => ?_
  refine blames_bind (blames_listField blames_image) fun images _ => ?_
  refine blames_bind (blames_listField blames_sampler) fun samplers _ => ?_
  refine blames_bind (blames_listField blames_imageSampler) fun pairs _ => ?_
  exact blames_ok _

theorem blames_stageSource : Blames (Overflows v) (stageSource Json.asShown v) := by
  refine blames_bind blames_textField fun snippet _ => ?_
  refine blames_bind blames_textField fun source _ => ?_
  refine blames_bind blames_field fun a ha => ?_
  exact blames_bind ((blames_reflection a).imp fun h => h.of_field ha) fun r _ => blames_ok _

theorem blames_backend (slang : Slang) : Blames (Overflows v) (backend Json.asShown slang v) := by
  refine blames_bind (blames_listField blames_stageSource) fun sources _ => ?_
  refine blames_bind blames_fieldOr fun field _ => ?_
  refine blames_bind blames_namedFields fun fs _ => ?_
  refine blames_bind (blames_mapM fun entry _ => ?_) fun blobs _ => blames_ok _
  exact blames_bind blames_asBytes fun data _ => blames_ok _

theorem blames_namedBackend (entry : String × Json) :
    Blames (Overflows entry.2) (namedBackend Json.asShown entry) := by
  unfold namedBackend
  split
  · exact blames_error rfl
  · exact blames_bind (blames_backend _ _) fun b _ => blames_ok _

theorem blames_snippet : Blames (Overflows v) (snippet Json.asShown v) := by
  refine blames_bind blames_textField fun name _ => ?_
  refine blames_bind blames_textField fun stage _ => ?_
  exact blames_ok _

theorem blames_program : Blames (Overflows v) (program Json.asShown v) := by
  refine blames_bind blames_textField fun name _ => ?_
  refine blames_bind blames_textField fun vsName _ => ?_
  refine blames_bind blames_textField fun fsName _ => ?_
  refine blames_bind (blames_intFieldOr (by decide)) fun line _ => ?_
  exact blames_ok _

theorem blames_addPairs {P : Prop} (found : List (Json × Json)) (index : Nat)
    (pairs : List Json) : Blames P (Json.addPairs found index pairs) := by
  induction pairs generalizing found index with
  | nil => exact blames_ok _
  | cons v rest ih =>
    refine blames_bind blames_items fun parts _ => ?_
    split
    · split
      · exact ih _ _
      · exact blames_error rfl
    · exact blames_error rfl

theorem blames_asNamed {P : Prop} : Blames P (v.asNamed Json.asShown) := by
  unfold Json.asNamed
  split
  · exact blames_ok _
  · refine blames_bind blames_items fun pairs _ => ?_
    refine blames_bind (blames_addPairs _ _ _) fun entries _ => ?_
    exact blames_mapM fun e _ => blames_bind blames_asShown fun name _ => blames_ok _

/-- What cannot be decoded is reported, unless it has an infinite number where an integer is due. -/
theorem blames_ofJsonBy (basePath : String) :
    Blames (Overflows v) (ofJsonBy Json.asShown basePath v) := by
  refine blames_bind blames_textFieldOr fun path _ => ?_
  refine blames_bind blames_fieldOr fun name _ => ?_
  refine blames_bind (blames_listField blames_snippet) fun snippets _ => ?_
  refine blames_bind (blames_listField blames_program) fun programs _ => ?_
  refine blames_bind blames_fieldOr fun output houtput => ?_
  refine blames_bind blames_namedFields fun fs hfs => ?_
  refine blames_bind (blames_mapM fun entry hentry =>
    (blames_namedBackend entry).imp fun hoverflows => ?_) fun backends _ => ?_
  · have hwhole := hoverflows.of_entry hentry
    rw [← Json.namedFields_eq_ok.mp hfs] at hwhole
    exact hwhole.of_fieldOr houtput Json.HoldsInfinity.not_object_nil
  · refine blames_bind blames_fieldOr fun headers _ => ?_
    refine blames_bind blames_items fun verbatim _ => ?_
    refine blames_bind blames_fieldOr fun ctypes _ => ?_
    refine blames_bind (blames_asNamed ctypes) fun hosts _ => ?_
    exact blames_ok _

end

end Dump

end ShaderBindings
