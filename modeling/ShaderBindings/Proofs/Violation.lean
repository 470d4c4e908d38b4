/-
  The violation that is reported (`IsFirst`). Output that lacks something is refused for the
  first thing that it lacks, in an order that is stated here without running the checks: the
  output itself; then the programs by name, the vertex stage of each before the fragment stage
  (`ReachesStage`); then the embedded shaders as they are declared, of each the source before
  the pairs (`ReachesShader`), of a pair the image before the sampler (`ReachesPair`).

  What comes before a check is said to be in order when the checks get to it. A violation is the
  first if the checks get to it and it fails (`head?_all_iff_isFirst`); `reports_iff` says what
  its diagnostic holds.
-/
import ShaderBindings.Proofs.Consistency
import ShaderBindings.Proofs.StableOrder

namespace ShaderBindings

/-! ## What is asked of the output -/

namespace BackendOutput

variable {b : BackendOutput} {source : StageSource} {name : String}

/-- The source that stands for a snippet is the first under its name. -/
def StandsFor (b : BackendOutput) (source : StageSource) (name : String) : Prop :=
  ∃ before after, b.sources = before ++ source :: after ∧ source.snippetName = name ∧
    ∀ s ∈ before, s.snippetName ≠ name

/-- No source is under the name. -/
def Lacks (b : BackendOutput) (name : String) : Prop := ∀ s ∈ b.sources, s.snippetName ≠ name

/-- A stage of a program has a source, and that is reflected as this stage. -/
def Serves (b : BackendOutput) (p : Program) (s : ProgramStage) : Prop :=
  ∃ source, b.StandsFor source (p.snippet s) ∧ source.reflection.stage = s.tag

/-- An embedded shader has a source, and every pair in its reflection names an image and a sampler
that are there. -/
def Supplies (b : BackendOutput) (s : Snippet) : Prop :=
  ∃ source, b.StandsFor source s.name ∧
    ∀ pair ∈ source.reflection.imageSamplers, source.reflection.Resolves pair

theorem source?_eq_some : b.source? name = some source ↔ b.StandsFor source name := by
  unfold source? StandsFor
  rw [List.find?_eq_some_iff_append]
  simp only [beq_iff_eq, Bool.not_eq_true', beq_eq_false_iff_ne]
  constructor
  · rintro ⟨hname, before, after, hsources, hbefore⟩
    exact ⟨before, after, hsources, hname, hbefore⟩
  · rintro ⟨before, after, hsources, hname, hbefore⟩
    exact ⟨hname, before, after, hsources, hbefore⟩

theorem source?_eq_none : b.source? name = none ↔ b.Lacks name := by
  unfold source? Lacks
  rw [List.find?_eq_none]
  simp only [beq_iff_eq, ne_eq]

theorem complete_iff {inp : ShaderInput} : b.Complete inp ↔
    (∀ p ∈ inp.programs, ∀ s, b.Serves p s) ∧ ∀ s ∈ inp.shaders, b.Supplies s := by
  unfold Serves Supplies
  simp only [← source?_eq_some]
  exact ⟨fun h => ⟨h.stages, h.shaders⟩, fun h => ⟨h.1, h.2⟩⟩

/-! ## The order of the checks -/

/-- The checks get to a stage of a program: both stages of all programs before it in the order of
names are served, and before the fragment stage its own vertex stage is. -/
def ReachesStage (inp : ShaderInput) (b : BackendOutput) (p : Program) (s : ProgramStage) : Prop :=
  (∃ before after, StablySorted Program.name inp.programs (before ++ p :: after) ∧
    ∀ q ∈ before, ∀ t, b.Serves q t) ∧ (s = .fragment → b.Serves p .vertex)

/-- The checks get to an embedded shader: all programs are served, and the shaders that are declared
before it are supplied. -/
def ReachesShader (inp : ShaderInput) (b : BackendOutput) (s : Snippet) : Prop :=
  (∀ p ∈ inp.programs, ∀ t, b.Serves p t) ∧
    ∃ before after, inp.shaders = before ++ s :: after ∧ ∀ r ∈ before, b.Supplies r

/-- The checks get to a pair in the reflection of an embedded shader: the pairs before it
resolve. -/
def ReachesPair (inp : ShaderInput) (b : BackendOutput) (s : Snippet) (r : StageReflection)
    (pair : ImageSampler) : Prop :=
  b.ReachesShader inp s ∧ (∃ source, b.StandsFor source s.name ∧ source.reflection = r) ∧
    ∃ before after, r.imageSamplers = before ++ pair :: after ∧ ∀ q ∈ before, r.Resolves q

end BackendOutput

namespace Violation

/-- The violation that the checks come to first. -/
inductive IsFirst (inp : ShaderInput) : Option BackendOutput → Violation → Prop
  | noOutput : IsFirst inp none missingBackend
  | noStage {b : BackendOutput} {p : Program} {s : ProgramStage} (reached : b.ReachesStage inp p s)
      (lacks : b.Lacks (p.snippet s)) : IsFirst inp (some b) (missingStage p s)
  | otherStage {b : BackendOutput} {p : Program} {s : ProgramStage} {source : StageSource}
      (reached : b.ReachesStage inp p s) (found : b.StandsFor source (p.snippet s))
      (differs : source.reflection.stage ≠ s.tag) :
      IsFirst inp (some b) (wrongStage p s source.reflection.stage)
  | noSource {b : BackendOutput} {s : Snippet} (reached : b.ReachesShader inp s)
      (lacks : b.Lacks s.name) : IsFirst inp (some b) (missingSource s.name)
  | noImage {b : BackendOutput} {s : Snippet} {r : StageReflection} {pair : ImageSampler}
      (reached : b.ReachesPair inp s r pair) (image : ∀ i ∈ r.images, i.name ≠ pair.imageName) :
      IsFirst inp (some b) (unresolvedPair pair.name s.name ⟨.image, pair.imageName⟩)
  | noSampler {b : BackendOutput} {s : Snippet} {r : StageReflection} {pair : ImageSampler}
      (reached : b.ReachesPair inp s r pair) (image : ∃ i ∈ r.images, i.name = pair.imageName)
      (sampler : ∀ m ∈ r.samplers, m.name ≠ pair.samplerName) :
      IsFirst inp (some b) (unresolvedPair pair.name s.name ⟨.sampler, pair.samplerName⟩)

variable {inp : ShaderInput} {b : BackendOutput} {p : Program} {s : ProgramStage} {v : Violation}

/-! ## Single checks -/

theorem ofStage_eq_none_iff_serves : ofStage b p s = none ↔ b.Serves p s := by
  simp only [ofStage_eq_none, BackendOutput.source?_eq_some, BackendOutput.Serves]

theorem ofStage_eq_some : ofStage b p s = some v ↔
    (b.Lacks (p.snippet s) ∧ v = missingStage p s) ∨
      ∃ source, b.StandsFor source (p.snippet s) ∧ source.reflection.stage ≠ s.tag ∧
        v = wrongStage p s source.reflection.stage := by
  simp only [← BackendOutput.source?_eq_some, ← BackendOutput.source?_eq_none]
  unfold ofStage
  cases b.source? (p.snippet s) with
  | none => simp [eq_comm]
  | some source =>
    by_cases h : source.reflection.stage = s.tag
    · simp [h]
    · simp [h, eq_comm]

/-- The vertex stage of a program comes first. -/
theorem head?_filterMap_ofStage :
    ([.vertex, .fragment].filterMap (ofStage b p)).head? = some v ↔
      ∃ s, (s = .fragment → b.Serves p .vertex) ∧ ofStage b p s = some v := by
  rw [List.head?_filterMap]
  constructor
  · intro h
    cases hvertex : ofStage b p .vertex with
    | some w => exact ⟨.vertex, ⟨nofun, by simpa [hvertex] using h⟩⟩
    | none =>
      exact ⟨.fragment, fun _ => ofStage_eq_none_iff_serves.mp hvertex, by simpa [hvertex] using h⟩
  · rintro ⟨s, hs, h⟩
    cases s with
    | vertex => simp [h]
    | fragment =>
      have hvertex := ofStage_eq_none_iff_serves.mpr (hs rfl)
      simp [hvertex, h]

/-- The image of a pair comes first. -/
theorem ofPair_eq_some {snippet : String} {r : StageReflection} {pair : ImageSampler} :
    ofPair snippet r pair = some v ↔ ∃ u, v = unresolvedPair pair.name snippet u ∧
      (r.named? Image pair.imageName = .error u ∨
        (∃ i, r.named? Image pair.imageName = .ok i) ∧
          r.named? Sampler pair.samplerName = .error u) := by
  unfold ofPair
  cases r.named? Image pair.imageName with
  | error u => simp [eq_comm]
  | ok image =>
    cases r.named? Sampler pair.samplerName with
    | error u => simp [eq_comm]
    | ok sampler => simp

theorem ofShader_eq_nil_iff_supplies {s : Snippet} : ofShader b s = [] ↔ b.Supplies s := by
  simp only [ofShader_eq_nil, BackendOutput.source?_eq_some, BackendOutput.Supplies]

/-- The source of a shader comes before its pairs. -/
theorem head?_ofShader {s : Snippet} : (ofShader b s).head? = some v ↔
    (b.Lacks s.name ∧ v = missingSource s.name) ∨
      ∃ source, b.StandsFor source s.name ∧ ∃ before pair after,
        source.reflection.imageSamplers = before ++ pair :: after ∧
        (∀ q ∈ before, source.reflection.Resolves q) ∧
        ofPair s.name source.reflection pair = some v := by
  simp only [← BackendOutput.source?_eq_some, ← BackendOutput.source?_eq_none]
  unfold ofShader
  cases b.source? s.name with
  | none => simp [eq_comm]
  | some source =>
    simp only [List.head?_filterMap, List.findSome?_eq_some_iff, ofPair_eq_none]
    constructor
    · rintro ⟨before, pair, after, hpairs, hpair, hbefore⟩
      exact .inr ⟨source, rfl, before, pair, after, hpairs, hbefore, hpair⟩
    · rintro (⟨hlacks, -⟩ | ⟨_, hsource, before, pair, after, hpairs, hbefore, hpair⟩)
      · cases hlacks
      · obtain rfl := Option.some.inj hsource
        exact ⟨before, pair, after, hpairs, hpair, hbefore⟩

/-! ## All checks in order -/

/-- The first violation in the programs is at a stage that the checks get to. -/
theorem head?_programs :
    (inp.sortedPrograms.flatMap fun p => [.vertex, .fragment].filterMap (ofStage b p)).head? =
      some v ↔ ∃ p s, b.ReachesStage inp p s ∧ ofStage b p s = some v := by
  have hnone (q : Program) : ([.vertex, .fragment].filterMap (ofStage b q)).head? = none ↔
      ∀ t, b.Serves q t := by
    rw [List.head?_eq_none_iff, filterMap_ofStage_eq_nil]
    simp only [ofStage_eq_none_iff_serves]
  have hsorted : StablySorted Program.name inp.programs inp.sortedPrograms := .mergeSort _ _
  rw [List.head?_flatMap, List.findSome?_eq_some_iff]
  simp only [hnone, head?_filterMap_ofStage]
  constructor
  · rintro ⟨before, p, after, hsplit, ⟨s, hvertex, hv⟩, hbefore⟩
    exact ⟨p, s, ⟨⟨before, after, hsplit ▸ hsorted, hbefore⟩, hvertex⟩, hv⟩
  · rintro ⟨p, s, ⟨⟨before, after, horder, hbefore⟩, hvertex⟩, hv⟩
    exact ⟨before, p, after, hsorted.unique horder, ⟨s, hvertex, hv⟩, hbefore⟩

theorem programs_eq_nil :
    (inp.sortedPrograms.flatMap fun p => [.vertex, .fragment].filterMap (ofStage b p)) = [] ↔
      ∀ p ∈ inp.programs, ∀ t, b.Serves p t := by
  rw [List.flatMap_eq_nil_iff]
  simp only [filterMap_ofStage_eq_nil, ofStage_eq_none_iff_serves, ShaderInput.mem_sortedPrograms]

/-- If there is none, the first violation in the shaders is at one that the checks get to. -/
theorem head?_shaders (hprograms : ∀ p ∈ inp.programs, ∀ t, b.Serves p t) :
    (inp.shaders.flatMap (ofShader b)).head? = some v ↔
      ∃ s, b.ReachesShader inp s ∧ (ofShader b s).head? = some v := by
  rw [List.head?_flatMap, List.findSome?_eq_some_iff]
  simp only [List.head?_eq_none_iff, ofShader_eq_nil_iff_supplies]
  constructor
  · rintro ⟨before, s, after, hsplit, hv, hbefore⟩
    exact ⟨s, ⟨hprograms, before, after, hsplit, hbefore⟩, hv⟩
  · rintro ⟨s, ⟨-, before, after, hsplit, hbefore⟩, hv⟩
    exact ⟨before, s, after, hsplit, hv, hbefore⟩

/-- The violation that is found first is at a stage or at a shader. -/
theorem head?_all : (all inp (some b)).head? = some v ↔
    (∃ p s, b.ReachesStage inp p s ∧ ofStage b p s = some v) ∨
      ∃ s, b.ReachesShader inp s ∧ (ofShader b s).head? = some v := by
  rw [all, List.head?_append, Option.or_eq_some_iff, head?_programs, List.head?_eq_none_iff,
    programs_eq_nil]
  refine or_congr_right ?_
  constructor
  · rintro ⟨hprograms, hv⟩
    exact (head?_shaders hprograms).mp hv
  · rintro ⟨s, hreached, hv⟩
    exact ⟨hreached.1, (head?_shaders hreached.1).mpr ⟨s, hreached, hv⟩⟩

theorem isFirst_of_ofStage {s : ProgramStage} (hreached : b.ReachesStage inp p s)
    (hv : ofStage b p s = some v) : IsFirst inp (some b) v := by
  rcases ofStage_eq_some.mp hv with ⟨hlacks, rfl⟩ | ⟨source, hfound, hdiffers, rfl⟩
  · exact .noStage hreached hlacks
  · exact .otherStage hreached hfound hdiffers

theorem isFirst_of_ofShader {s : Snippet} (hreached : b.ReachesShader inp s)
    (hv : (ofShader b s).head? = some v) : IsFirst inp (some b) v := by
  rcases head?_ofShader.mp hv with
    ⟨hlacks, rfl⟩ | ⟨source, hfound, before, pair, after, hsplit, hbefore, hpair⟩
  · exact .noSource hreached hlacks
  · have hpairReached : b.ReachesPair inp s source.reflection pair :=
      ⟨hreached, ⟨source, hfound, rfl⟩, before, after, hsplit, hbefore⟩
    obtain ⟨u, rfl, himage | ⟨himage, hsampler⟩⟩ := ofPair_eq_some.mp hpair
    · obtain ⟨hnone, rfl⟩ := StageReflection.named?_eq_error.mp himage
      exact .noImage hpairReached hnone
    · obtain ⟨hnone, rfl⟩ := StageReflection.named?_eq_error.mp hsampler
      exact .noSampler hpairReached (StageReflection.exists_named?_eq_ok.mp himage) hnone

/-- A pair that the checks get to decides what is found in its shader. -/
theorem exists_of_reachesPair {s : Snippet} {r : StageReflection} {pair : ImageSampler}
    (hreached : b.ReachesPair inp s r pair) (hv : ofPair s.name r pair = some v) :
    ∃ s, b.ReachesShader inp s ∧ (ofShader b s).head? = some v := by
  obtain ⟨hshader, ⟨source, hfound, rfl⟩, before, after, hsplit, hbefore⟩ := hreached
  exact ⟨s, hshader,
    head?_ofShader.mpr (.inr ⟨source, hfound, before, pair, after, hsplit, hbefore, hv⟩)⟩

/-- What is found first is the first violation. -/
theorem head?_all_iff_isFirst {o : Option BackendOutput} :
    (all inp o).head? = some v ↔ IsFirst inp o v := by
  cases o with
  | none =>
    constructor
    · intro h
      obtain rfl := Option.some.inj h
      exact .noOutput
    · rintro ⟨⟩
      rfl
  | some b =>
    rw [head?_all]
    constructor
    · rintro (⟨p, s, hreached, hv⟩ | ⟨s, hreached, hv⟩)
      · exact isFirst_of_ofStage hreached hv
      · exact isFirst_of_ofShader hreached hv
    · intro h
      cases h with
      | noStage reached lacks => exact .inl ⟨_, _, reached, ofStage_eq_some.mpr (.inl ⟨lacks, rfl⟩)⟩
      | otherStage reached found differs =>
        exact .inl ⟨_, _, reached, ofStage_eq_some.mpr (.inr ⟨_, found, differs, rfl⟩)⟩
      | noSource reached lacks =>
        exact .inr ⟨_, reached, head?_ofShader.mpr (.inl ⟨lacks, rfl⟩)⟩
      | noImage reached image =>
        refine .inr (exists_of_reachesPair reached (ofPair_eq_some.mpr ⟨_, rfl, .inl ?_⟩))
        exact StageReflection.named?_eq_error.mpr ⟨image, rfl⟩
      | noSampler reached image sampler =>
        refine .inr (exists_of_reachesPair reached (ofPair_eq_some.mpr ⟨_, rfl, .inr ⟨?_, ?_⟩⟩))
        · exact StageReflection.exists_named?_eq_ok.mpr image
        · exact StageReflection.named?_eq_error.mpr ⟨sampler, rfl⟩

/-! ## Reports -/

/-- Whether a violation is about a program, and about which one. -/
def program? : Violation → Option Program
  | missingStage p _ | wrongStage p _ _ => some p
  | _ => none

/-- The diagnostic that reports a violation: at the line of its program if it is about one, and at
no line otherwise; as an unresolved reference if it is about a pair, and as an inconsistency
otherwise. -/
structure Reports (inp : ShaderInput) (slang : Slang) (v : Violation) (d : Diagnostic) : Prop where
  message : d.message = v.message slang
  file : d.file = inp.basePath
  severity : d.severity = .error
  line : d.line = (v.program?.map Program.line).getD 0
  unresolved : d.code = .unresolvedReference ↔ ∃ pair snippet u, v = unresolvedPair pair snippet u
  inconsistent : d.code = .reflectionInconsistency ↔
    ¬ ∃ pair snippet u, v = unresolvedPair pair snippet u

theorem reports_iff {slang : Slang} {d : Diagnostic} :
    Reports inp slang v d ↔ d = v.diagnostic inp.basePath slang := by
  constructor
  · rintro ⟨hmessage, hfile, hseverity, hline, hunresolved, hinconsistent⟩
    obtain ⟨code, message, file, line, severity⟩ := d
    obtain rfl : code = v.code := by
      cases v with
      | unresolvedPair pair snippet u => exact hunresolved.mpr ⟨pair, snippet, u, rfl⟩
      | _ => exact hinconsistent.mpr (by simp)
    obtain rfl : line = v.line := hline.trans (by cases v <;> rfl)
    obtain rfl : message = v.message slang := hmessage
    obtain rfl : file = inp.basePath := hfile
    obtain rfl : severity = .error := hseverity
    rfl
  · rintro rfl
    refine ⟨rfl, rfl, rfl, ?_, ?_, ?_⟩
    · cases v <;> rfl
    · cases v <;> simp [diagnostic, code]
    · cases v <;> simp [diagnostic, code]

end Violation

/-- The checks accept the output for a language exactly if it is there, every program is served and
every embedded shader is supplied. Otherwise they report the first violation. -/
theorem checkConsistency_reports (inp : ShaderInput) (slang : Slang) (o : Option BackendOutput) :
    (checkConsistency inp slang o = .ok () ↔ ∃ b, o = some b ∧
      (∀ p ∈ inp.programs, ∀ s, b.Serves p s) ∧ ∀ s ∈ inp.shaders, b.Supplies s) ∧
    ∀ d, checkConsistency inp slang o = .error d ↔
      ∃ v, Violation.IsFirst inp o v ∧ v.Reports inp slang d := by
  refine ⟨?_, fun d => ?_⟩
  · simp only [checkConsistency_eq_ok, BackendOutput.complete_iff]
  · simp only [← Violation.head?_all_iff_isFirst, Violation.reports_iff]
    unfold checkConsistency
    cases Violation.all inp o with
    | nil => simp
    | cons v rest => simp [eq_comm]

end ShaderBindings
