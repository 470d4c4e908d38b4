/-
  What the checks of a backend's output establish (`BackendOutput.Complete`): the output is
  there, both snippets of every program have a source of the right stage, every shader that is
  embedded has a source, and the pairs in its reflection resolve. `checkConsistency_eq_ok`: the
  checks accept exactly the outputs of which that holds. Which violation is reported otherwise
  is in `Proofs.Violation`.
-/
import ShaderBindings.Consistency
import ShaderBindings.Proofs.Reflection

namespace ShaderBindings

/-- Output that has what programs and embedded shaders ask for. -/
structure BackendOutput.Complete (inp : ShaderInput) (b : BackendOutput) : Prop where
  stages : ∀ p ∈ inp.programs, ∀ s : ProgramStage,
    ∃ source, b.source? (p.snippet s) = some source ∧ source.reflection.stage = s.tag
  shaders : ∀ s ∈ inp.shaders, ∃ source, b.source? s.name = some source ∧
    ∀ pair ∈ source.reflection.imageSamplers, source.reflection.Resolves pair

theorem ShaderInput.mem_sortedPrograms {inp : ShaderInput} {p : Program} :
    p ∈ inp.sortedPrograms ↔ p ∈ inp.programs :=
  (List.mergeSort_perm _ _).mem_iff

namespace Violation

theorem ofStage_eq_none {b : BackendOutput} {p : Program} {s : ProgramStage} :
    ofStage b p s = none ↔
      ∃ source, b.source? (p.snippet s) = some source ∧ source.reflection.stage = s.tag := by
  unfold ofStage
  cases b.source? (p.snippet s) with
  | none => simp
  | some source =>
    by_cases h : source.reflection.stage = s.tag
    · simp [h]
    · simp [h]

theorem ofPair_eq_none {snippet : String} {r : StageReflection} {p : ImageSampler} :
    ofPair snippet r p = none ↔ r.Resolves p := by
  rw [StageReflection.resolves_iff]
  unfold ofPair
  cases r.named? Image p.imageName with
  | error u => simp
  | ok image =>
    cases r.named? Sampler p.samplerName with
    | error u => simp
    | ok sampler => simp

theorem ofShader_eq_nil {b : BackendOutput} {s : Snippet} :
    ofShader b s = [] ↔ ∃ source, b.source? s.name = some source ∧
      ∀ pair ∈ source.reflection.imageSamplers, source.reflection.Resolves pair := by
  unfold ofShader
  cases b.source? s.name with
  | none => simp
  | some source => simp [List.filterMap_eq_nil_iff, ofPair_eq_none]

/-- Both stages of a program are looked at. -/
theorem filterMap_ofStage_eq_nil {b : BackendOutput} {p : Program} :
    [.vertex, .fragment].filterMap (ofStage b p) = [] ↔ ∀ s, ofStage b p s = none := by
  rw [List.filterMap_eq_nil_iff]
  constructor
  · intro h s
    exact h s (by cases s <;> simp)
  · exact fun h s _ => h s

theorem all_eq_nil {inp : ShaderInput} {b : Option BackendOutput} :
    all inp b = [] ↔ ∃ o, b = some o ∧ o.Complete inp := by
  cases b with
  | none => simp [all]
  | some o =>
    rw [all, List.append_eq_nil_iff, List.flatMap_eq_nil_iff, List.flatMap_eq_nil_iff]
    simp only [filterMap_ofStage_eq_nil, ofStage_eq_none, ofShader_eq_nil,
      ShaderInput.mem_sortedPrograms]
    constructor
    · intro h
      obtain ⟨hstages, hshaders⟩ := h
      exact ⟨o, rfl, hstages, hshaders⟩
    · intro h
      obtain ⟨o', ho, hstages, hshaders⟩ := h
      obtain rfl := Option.some.inj ho
      exact ⟨hstages, hshaders⟩

end Violation

/-- The checks accept what is there and complete. -/
theorem checkConsistency_eq_ok {inp : ShaderInput} {slang : Slang} {b : Option BackendOutput} :
    checkConsistency inp slang b = .ok () ↔ ∃ o, b = some o ∧ o.Complete inp := by
  rw [← Violation.all_eq_nil]
  unfold checkConsistency
  cases Violation.all inp b with
  | nil => simp
  | cons v vs => simp

end ShaderBindings
