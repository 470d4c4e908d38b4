/-
  The description of a program for one language: when there is one (`BackendOutput.Describes`,
  `exists_program_eq_ok`), what its faults are (`program_eq_error`), and that it refers to the
  arrays of the program's two snippets and to no other (`arrays_program`).
-/
import ShaderBindings.Proofs.Desc.Stage
import ShaderBindings.Proofs.Payload

namespace ShaderBindings

/-- Both stages of a program can be described from the output for a language. -/
def BackendOutput.Describes (b : BackendOutput) (p : Program) : Prop :=
  ∀ (s : ProgramStage) (source : StageSource), b.source? (p.snippet s) = some source →
    source.reflection.Writable ∧ source.reflection.Resolved

namespace Emitter

open Desc Fallible

variable {e : Emitter} {namePrefix : String} {p : Program} {b : BackendOutput}
  {vs fs : StageSource}

theorem arrays_attr (slot : Nat) (a : Attr) : arrays (e.attr slot a) = [] := by
  unfold attr
  split <;> rfl

theorem programStage_eq_ok {s : ProgramStage} {source : StageSource} {as : List Assignment} :
    e.programStage namePrefix p b s source = .ok as ↔
      ∃ payload, Payload.ofSnippet namePrefix (p.snippet s) b = .ok payload ∧
        e.stage s.tag source.reflection payload = .ok as := by
  unfold programStage
  rw [bind_eq_ok]
  simp only [mapError_eq_ok]

/-- With sources for both snippets, a program is described stage by stage. -/
theorem program_eq_ok {as : List Assignment} (hvs : b.source? (p.snippet .vertex) = some vs)
    (hfs : b.source? (p.snippet .fragment) = some fs) :
    e.program namePrefix p b = .ok as ↔ ∃ vertex fragment,
      e.programStage namePrefix p b .vertex vs = .ok vertex ∧
      e.programStage namePrefix p b .fragment fs = .ok fragment ∧
      as = (vs.reflection.occupied Attr).flatMap (fun (slot, a) => e.attr slot a)
        ++ vertex ++ fragment ++ [⟨.label, .text (namePrefix ++ p.name ++ "_shader")⟩] := by
  change b.source? p.vsName = some vs at hvs
  change b.source? p.fsName = some fs at hfs
  unfold program
  rw [hvs, hfs]
  simp only [bind_eq_ok, pure_eq_ok]
  constructor
  · intro h
    obtain ⟨vertex, hvertex, fragment, hfragment, rfl⟩ := h
    exact ⟨vertex, fragment, hvertex, hfragment, rfl⟩
  · intro h
    obtain ⟨vertex, fragment, hvertex, hfragment, rfl⟩ := h
    exact ⟨vertex, hvertex, fragment, hfragment, rfl⟩

/-- A described program has sources for both snippets. -/
theorem sources_of_program {as : List Assignment} (h : e.program namePrefix p b = .ok as) :
    ∃ vs fs, b.source? (p.snippet .vertex) = some vs ∧
      b.source? (p.snippet .fragment) = some fs := by
  unfold program at h
  split at h
  · next vs fs hvs hfs => exact ⟨vs, fs, hvs, hfs⟩
  · simp at h

/-- The arrays that a program refers to are those of its two snippets. -/
theorem arrays_program {as : List Assignment} (h : e.program namePrefix p b = .ok as) :
    ∃ vertex fragment, Payload.ofSnippet namePrefix (p.snippet .vertex) b = .ok vertex ∧
      Payload.ofSnippet namePrefix (p.snippet .fragment) b = .ok fragment ∧
      arrays as = [vertex.arrayName, fragment.arrayName] := by
  obtain ⟨vs, fs, hvs, hfs⟩ := sources_of_program h
  obtain ⟨asV, asF, hV, hF, rfl⟩ := (program_eq_ok hvs hfs).mp h
  obtain ⟨vertex, hvertex, hV⟩ := programStage_eq_ok.mp hV
  obtain ⟨fragment, hfragment, hF⟩ := programStage_eq_ok.mp hF
  refine ⟨vertex, fragment, hvertex, hfragment, ?_⟩
  have hattrs :
      arrays ((vs.reflection.occupied Attr).flatMap fun (slot, a) => e.attr slot a) = [] :=
    arrays_flatMap _ _ fun _ => arrays_attr _ _
  simp only [arrays_append, hattrs, arrays_stage hV, arrays_stage hF]
  rfl

/-! ## Statements of one stage -/

theorem place_of_mem_attr {slot : Nat} {attr : Attr} {a : Assignment} (h : a ∈ e.attr slot attr) :
    ∃ f, a.place = .attr slot f := by
  unfold Emitter.attr at h
  split at h
  · obtain rfl := List.mem_singleton.mp h
    exact ⟨_, rfl⟩
  · simp only [List.mem_cons, List.not_mem_nil, or_false] at h
    rcases h with rfl | rfl <;> exact ⟨_, rfl⟩
  · simp at h

/-- What a program assigns inside a stage is what that stage assigns: the attributes and the label
are outside the stages, and the two stages have different tags. -/
theorem mem_program_stage {as : List Assignment} (h : e.program namePrefix p b = .ok as)
    (s : ProgramStage) :
    ∃ source payload part, b.source? (p.snippet s) = some source ∧
      Payload.ofSnippet namePrefix (p.snippet s) b = .ok payload ∧
      e.stage s.tag source.reflection payload = .ok part ∧
      ∀ place v, ⟨.stage s.tag place, v⟩ ∈ as ↔ ⟨.stage s.tag place, v⟩ ∈ part := by
  obtain ⟨vs, fs, hvs, hfs⟩ := sources_of_program h
  obtain ⟨asV, asF, hV, hF, rfl⟩ := (program_eq_ok hvs hfs).mp h
  obtain ⟨vertex, hvertex, hV⟩ := programStage_eq_ok.mp hV
  obtain ⟨fragment, hfragment, hF⟩ := programStage_eq_ok.mp hF
  have hattrs (tag : String) (place : StagePlace) (v : Value) : ⟨.stage tag place, v⟩ ∉
      (vs.reflection.occupied Attr).flatMap fun (slot, a) => e.attr slot a := by
    intro ha
    obtain ⟨sa, -, ha⟩ := List.mem_flatMap.mp ha
    obtain ⟨f, hf⟩ := place_of_mem_attr ha
    simp at hf
  have hapart (place : StagePlace) (v : Value) :
      ⟨.stage ProgramStage.vertex.tag place, v⟩ ∉ asF ∧
      ⟨.stage ProgramStage.fragment.tag place, v⟩ ∉ asV := by
    constructor
    · intro ha
      obtain ⟨other, hother⟩ := place_of_mem_stage hF ha
      simp [ProgramStage.tag] at hother
    · intro ha
      obtain ⟨other, hother⟩ := place_of_mem_stage hV ha
      simp [ProgramStage.tag] at hother
  cases s with
  | vertex =>
    refine ⟨vs, vertex, asV, hvs, hvertex, hV, fun place v => ?_⟩
    simp [hattrs, hapart]
  | fragment =>
    refine ⟨fs, fragment, asF, hfs, hfragment, hF, fun place v => ?_⟩
    simp [hattrs, hapart]

/-! ## When a program can be described -/

theorem exists_programStage_eq_ok (e : Emitter) (namePrefix : String) {s : ProgramStage}
    {source : StageSource} (h : b.source? (p.snippet s) = some source) :
    (∃ as, e.programStage namePrefix p b s source = .ok as) ↔
      source.reflection.Writable ∧ source.reflection.Resolved := by
  obtain ⟨payload, hpayload⟩ := Payload.exists_ofSnippet_of_source namePrefix h
  rw [← exists_stage_eq_ok e s.tag source.reflection payload]
  constructor
  · intro h
    obtain ⟨as, has⟩ := h
    obtain ⟨payload', hpayload', has⟩ := programStage_eq_ok.mp has
    rw [hpayload] at hpayload'
    obtain rfl := Except.ok.inj hpayload'
    exact ⟨as, has⟩
  · intro h
    obtain ⟨as, has⟩ := h
    exact ⟨as, programStage_eq_ok.mpr ⟨payload, hpayload, has⟩⟩

theorem exists_program_eq_ok (e : Emitter) (namePrefix : String)
    (hvs : b.source? (p.snippet .vertex) = some vs)
    (hfs : b.source? (p.snippet .fragment) = some fs) :
    (∃ as, e.program namePrefix p b = .ok as) ↔ b.Describes p := by
  have hV := exists_programStage_eq_ok e namePrefix hvs
  have hF := exists_programStage_eq_ok e namePrefix hfs
  constructor
  · intro h
    obtain ⟨as, has⟩ := h
    obtain ⟨vertex, fragment, hvertex, hfragment, -⟩ := (program_eq_ok hvs hfs).mp has
    intro s source hsource
    cases s with
    | vertex =>
      rw [hvs] at hsource
      obtain rfl := Option.some.inj hsource
      exact hV.mp ⟨vertex, hvertex⟩
    | fragment =>
      rw [hfs] at hsource
      obtain rfl := Option.some.inj hsource
      exact hF.mp ⟨fragment, hfragment⟩
  · intro h
    obtain ⟨vertex, hvertex⟩ := hV.mpr (h .vertex vs hvs)
    obtain ⟨fragment, hfragment⟩ := hF.mpr (h .fragment fs hfs)
    exact ⟨_, (program_eq_ok hvs hfs).mpr ⟨vertex, fragment, hvertex, hfragment, rfl⟩⟩

theorem programStage_eq_error {s : ProgramStage} {source : StageSource} {f : DescFault}
    (hsource : b.source? (p.snippet s) = some source)
    (h : e.programStage namePrefix p b s source = .error f) :
    f = .hugeBlock ∨ ∃ u, f = .unknownResource u := by
  obtain ⟨payload, hpayload⟩ := Payload.exists_ofSnippet_of_source namePrefix hsource
  unfold programStage at h
  rw [hpayload] at h
  exact stage_eq_error h

/-- The faults of a program with sources for both snippets are those of its stages. -/
theorem program_eq_error {f : DescFault} (hvs : b.source? (p.snippet .vertex) = some vs)
    (hfs : b.source? (p.snippet .fragment) = some fs) (h : e.program namePrefix p b = .error f) :
    f = .hugeBlock ∨ ∃ u, f = .unknownResource u := by
  change b.source? p.vsName = some vs at hvs
  change b.source? p.fsName = some fs at hfs
  unfold program at h
  rw [hvs, hfs] at h
  rcases bind_eq_error.mp h with h | ⟨vertex, -, h⟩
  · exact programStage_eq_error hvs h
  · rcases bind_eq_error.mp h with h | ⟨fragment, -, h⟩
    · exact programStage_eq_error hfs h
    · simp [pure, Except.pure] at h

/-! ## Emitters -/

/-- There is an emitter for every supported language. -/
theorem exists_ofSlang_eq_ok {slang : Slang} (h : slang ∈ Slang.table) :
    ∃ e, ofSlang slang = .ok e := by
  have hfamily : ∀ s ∈ Slang.table, (Family.ofName? s.family).map Family.name = some s.family := by
    decide
  obtain ⟨family, hof, hname⟩ := Option.map_eq_some_iff.mp (hfamily slang h)
  refine ⟨⟨family, slang, hname.symm⟩, ?_⟩
  unfold ofSlang
  rw [hof]
  exact dif_pos hname.symm

end Emitter

end ShaderBindings
