/-
  What the outcome of assembling does not depend on. The output for a language is only ever
  asked for the first source and the first bytecode of a snippet that is looked up (`Uses`: a
  program uses it or it is embedded); two outputs that answer these questions alike
  (`BackendOutput.Alike`) give the same module or the same fault, and so do two inputs with the
  same programs in order of their names and the same embedded shaders (`Alike`). There is one
  lemma for each part of a module; `assemble_congr` puts them together.
-/
import Mathlib.Data.List.Sort
import Mathlib.Logic.Relation
import ShaderBindings.Proofs.Module.Assembly
import ShaderBindings.Proofs.Slang

namespace ShaderBindings

open Fallible

/-! ## Questions and answers -/

namespace ShaderInput

/-- The snippet is looked up: a program uses it or it is embedded. -/
def Uses (inp : ShaderInput) (snippet : String) : Prop :=
  (∃ p ∈ inp.programs, ∃ s : ProgramStage, p.snippet s = snippet) ∨
    ∃ shader ∈ inp.shaders, shader.name = snippet

/-- Two inputs of which all that is read is the same. -/
structure Alike (inp other : ShaderInput) : Prop where
  basePath : inp.basePath = other.basePath
  module : inp.module = other.module
  programs : inp.sortedPrograms = other.sortedPrograms
  shaders : inp.shaders = other.shaders

theorem Alike.refl (inp : ShaderInput) : inp.Alike inp := ⟨rfl, rfl, rfl, rfl⟩

theorem Alike.namePrefix {inp other : ShaderInput} (h : inp.Alike other) :
    inp.namePrefix = other.namePrefix := by
  unfold ShaderInput.namePrefix
  rw [h.module]

theorem uses_of_program {inp : ShaderInput} {p : Program} (hp : p ∈ inp.sortedPrograms)
    (s : ProgramStage) : inp.Uses (p.snippet s) :=
  .inl ⟨p, mem_sortedPrograms.mp hp, s, rfl⟩

theorem uses_of_shader {inp : ShaderInput} {s : Snippet} (hs : s ∈ inp.shaders) :
    inp.Uses s.name :=
  .inr ⟨s, hs, rfl⟩

end ShaderInput

/-- Two outputs that give the same answers about all snippets that are looked up. -/
structure BackendOutput.Alike (inp : ShaderInput) (b other : BackendOutput) : Prop where
  slang : b.slang = other.slang
  source? : ∀ snippet, inp.Uses snippet → b.source? snippet = other.source? snippet
  blob? : ∀ snippet, inp.Uses snippet → b.blob? snippet = other.blob? snippet

theorem BackendOutput.Alike.refl (inp : ShaderInput) (b : BackendOutput) : b.Alike inp b :=
  ⟨rfl, fun _ _ => rfl, fun _ _ => rfl⟩

/-- There is output for a language on both sides, and it is alike, or there is none on either. -/
def Backends.AlikeFor (inp : ShaderInput) (backends others : Backends) (slang : Slang) : Prop :=
  Option.Rel (BackendOutput.Alike inp) (backends.get? slang.name) (others.get? slang.name)

theorem Backends.AlikeFor.of_eq {inp : ShaderInput} {backends others : Backends} {slang : Slang}
    (h : others.get? slang.name = backends.get? slang.name) :
    backends.AlikeFor inp others slang := by
  unfold AlikeFor
  rw [h]
  cases backends.get? slang.name with
  | none => exact .none
  | some b => exact .some (.refl inp b)

theorem Backends.AlikeFor.cases {inp : ShaderInput} {backends others : Backends} {slang : Slang}
    (h : backends.AlikeFor inp others slang) :
    (backends.get? slang.name = none ∧ others.get? slang.name = none) ∨
      ∃ b c, backends.get? slang.name = some b ∧ others.get? slang.name = some c ∧
        b.Alike inp c := by
  unfold AlikeFor at h
  generalize backends.get? slang.name = b? at h ⊢
  generalize others.get? slang.name = c? at h ⊢
  cases h with
  | none => exact .inl ⟨rfl, rfl⟩
  | some hb => exact .inr ⟨_, _, rfl, rfl, hb⟩

/-! ## Every part reads the answers only -/

section

variable {inp other : ShaderInput} {b c : BackendOutput}

theorem checkConsistency_congr (hinp : inp.Alike other) (slang : Slang)
    {b? c? : Option BackendOutput} (h : Option.Rel (BackendOutput.Alike inp) b? c?) :
    checkConsistency inp slang b? = checkConsistency other slang c? := by
  have hall : Violation.all inp b? = Violation.all other c? := by
    cases h with
    | none => rfl
    | some hb =>
      unfold Violation.all
      rw [← hinp.programs, ← hinp.shaders]
      refine congrArg₂ (· ++ ·) (List.flatMap_congr fun p hp => ?_)
        (List.flatMap_congr fun s hs => ?_)
      · refine List.filterMap_congr fun s _ => ?_
        unfold Violation.ofStage
        rw [hb.source? _ (ShaderInput.uses_of_program hp s)]
      · unfold Violation.ofShader
        rw [hb.source? _ (ShaderInput.uses_of_shader hs)]
  unfold checkConsistency
  rw [hall, hinp.basePath]

theorem header_congr (hinp : inp.Alike other) (hb : b.Alike inp c) (version : Setting Int)
    (cmdline : String) :
    Header.ofInput inp b version cmdline = Header.ofInput other c version cmdline := by
  have hprograms : inp.sortedPrograms.mapM (Overview.ofProgram inp.namePrefix b) =
      inp.sortedPrograms.mapM (Overview.ofProgram inp.namePrefix c) := by
    refine mapM_congr fun p hp => ?_
    have hvs := hb.source? _ (ShaderInput.uses_of_program hp .vertex)
    have hfs := hb.source? _ (ShaderInput.uses_of_program hp .fragment)
    change b.source? p.vsName = c.source? p.vsName at hvs
    change b.source? p.fsName = c.source? p.fsName at hfs
    unfold Overview.ofProgram
    rw [hvs, hfs]
  unfold Header.ofInput
  rw [hprograms, hinp.programs, hinp.namePrefix]

theorem attrConstants_congr (hinp : inp.Alike other) (hb : b.Alike inp c) :
    attrConstants inp b = attrConstants other c := by
  unfold attrConstants
  rw [← hinp.shaders, ← hinp.namePrefix]
  refine congrArg (· >>= _) (mapM_congr fun s hs => ?_)
  rw [hb.source? _ (ShaderInput.uses_of_shader (List.mem_of_mem_filter hs))]

theorem sharedResources_congr (α : Type) [Resource α] (hinp : inp.Alike other)
    (hb : b.Alike inp c) : sharedResources α inp b = sharedResources α other c := by
  have hdeclared : declaredIn α inp b = declaredIn α other c := by
    unfold declaredIn
    rw [← hinp.shaders]
    refine List.flatMap_congr fun s hs => ?_
    rw [hb.source? _ (ShaderInput.uses_of_shader hs)]
  unfold sharedResources
  rw [hdeclared]

theorem unsupportedTypes_congr (hinp : inp.Alike other) (hb : b.Alike inp c) :
    unsupportedTypes inp b = unsupportedTypes other c := by
  have hfound : Unsupported.ofBackend inp b = Unsupported.ofBackend other c := by
    unfold Unsupported.ofBackend
    rw [← hinp.shaders]
    refine List.flatMap_congr fun s hs => ?_
    rw [hb.source? _ (ShaderInput.uses_of_shader hs)]
  unfold unsupportedTypes
  rw [hfound, hinp.basePath, hb.slang]

theorem Payload.ofSnippet_congr (hb : b.Alike inp c) (namePrefix : String) {snippet : String}
    (h : inp.Uses snippet) :
    Payload.ofSnippet namePrefix snippet b = Payload.ofSnippet namePrefix snippet c := by
  unfold Payload.ofSnippet
  rw [hb.source? snippet h, hb.blob? snippet h, hb.slang]

theorem Embedded.ofBackend_congr (hinp : inp.Alike other) (hb : b.Alike inp c) :
    Embedded.ofBackend inp b = Embedded.ofBackend other c := by
  unfold Embedded.ofBackend
  rw [← hinp.shaders, ← hinp.namePrefix]
  refine mapM_congr fun s hs => ?_
  have huses := ShaderInput.uses_of_shader hs
  unfold Embedded.ofShader
  rw [Payload.ofSnippet_congr hb _ huses, hb.source? _ huses]

theorem Emitter.program_congr (e : Emitter) (namePrefix : String) (hb : b.Alike inp c)
    {p : Program} (hp : p ∈ inp.sortedPrograms) :
    e.program namePrefix p b = e.program namePrefix p c := by
  have huses := ShaderInput.uses_of_program hp
  have hstage : ∀ s source,
      e.programStage namePrefix p b s source = e.programStage namePrefix p c s source := by
    intro s source
    unfold Emitter.programStage
    rw [Payload.ofSnippet_congr hb namePrefix (huses s)]
  have hvs := hb.source? _ (huses .vertex)
  have hfs := hb.source? _ (huses .fragment)
  change b.source? p.vsName = c.source? p.vsName at hvs
  change b.source? p.fsName = c.source? p.fsName at hfs
  unfold Emitter.program
  simp only [hvs, hfs, hstage]

end

/-! ## Whole modules -/

namespace Module

variable {inp other : ShaderInput} {backends others : Backends} {settings : Settings}

theorem payloadSection_congr (hinp : inp.Alike other) {slang : Slang}
    (h : backends.AlikeFor inp others slang) :
    payloadSection inp backends slang = payloadSection other others slang := by
  unfold payloadSection backend
  rcases h.cases with ⟨hb, hc⟩ | ⟨b, c, hb, hc, halike⟩
  · rw [hb, hc, error_bind, error_bind]
  · rw [hb, hc, ok_bind, ok_bind, Embedded.ofBackend_congr hinp halike,
      unsupportedTypes_congr hinp halike]

theorem caseOfSlang_congr (hinp : inp.Alike other) {p : Program} (hp : p ∈ inp.sortedPrograms)
    {slang : Slang} (h : backends.AlikeFor inp others slang) :
    DescCase.ofSlang inp backends p slang = DescCase.ofSlang other others p slang := by
  unfold DescCase.ofSlang
  rcases h.cases with ⟨hb, hc⟩ | ⟨b, c, hb, hc, halike⟩
  · rw [hb, hc]
  · simp only [hb, hc, Emitter.program_congr _ _ halike hp, hinp.namePrefix]

theorem procedure_congr (hinp : inp.Alike other) {slangs : List Slang}
    (h : ∀ s ∈ slangs, backends.AlikeFor inp others s) {p : Program}
    (hp : p ∈ inp.sortedPrograms) :
    DescProcedure.ofProgram inp backends slangs p =
      DescProcedure.ofProgram other others slangs p := by
  unfold DescProcedure.ofProgram
  rw [mapM_congr fun s hs => caseOfSlang_congr hinp hp (h s hs), hinp.namePrefix]

theorem ofSlangs_congr (hinp : inp.Alike other) {first : Slang} {rest : List Slang}
    (h : ∀ s ∈ first :: rest, backends.AlikeFor inp others s) :
    ofSlangs inp backends settings first rest = ofSlangs other others settings first rest := by
  have hchecks := forM_congr fun s hs => congrArg
    (Except.mapError AssemblyFault.inconsistent) (checkConsistency_congr hinp s (h s hs))
  have hpayloads : (first :: rest).mapM (payloadSection inp backends) =
      (first :: rest).mapM (payloadSection other others) :=
    mapM_congr fun s hs => payloadSection_congr hinp (h s hs)
  have hprocedures : inp.sortedPrograms.mapM
        (DescProcedure.ofProgram inp backends (first :: rest)) =
      other.sortedPrograms.mapM (DescProcedure.ofProgram other others (first :: rest)) := by
    rw [← hinp.programs]
    exact mapM_congr fun p hp => procedure_congr hinp h hp
  unfold ofSlangs
  simp only [hchecks, hpayloads, hprocedures]
  unfold backend
  rcases (h first List.mem_cons_self).cases with ⟨hb, hc⟩ | ⟨b, c, hb, hc, halike⟩
  · simp only [hb, hc, error_bind]
  · simp only [hb, hc, ok_bind, header_congr hinp halike, attrConstants_congr hinp halike,
      imageConstants, samplerConstants, blocksOf, sharedResources_congr _ hinp halike,
      hinp.namePrefix]

/-- The outcome is the same for inputs alike, with output alike for every requested language. -/
theorem assemble_congr (hinp : inp.Alike other)
    (h : ∀ s ∈ settings.slangs, backends.AlikeFor inp others s) :
    assemble inp backends settings = assemble other others settings := by
  rcases assemble_cases settings with ⟨f, hf⟩ | ⟨first, rest, hslangs, hassemble⟩
  · rw [hf, hf]
  · rw [hassemble, hassemble]
    refine ofSlangs_congr hinp fun s hs => h s ?_
    rw [← hslangs, Slang.mem_inOrder] at hs
    exact hs.2

end Module

end ShaderBindings
