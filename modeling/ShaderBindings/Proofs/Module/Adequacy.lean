/-
  How far the checks go. Output that has passed them is complete for the header, the constants,
  the records and the payloads (`ofSlangs_of_complete`); the procedures need more where a
  program uses a snippet that is not embedded, since the checks look at the pairs of embedded
  shaders only. `describes_iff_writable`: with programs of embedded shaders all that can be
  missing is the numeral of a size (`Writable`).
-/
import ShaderBindings.Proofs.Module.Closure

namespace ShaderBindings.Module

open Fallible

variable {inp : ShaderInput} {backends : Backends} {settings : Settings}

/-- All blocks that the programs bind have a size that can be written. -/
def Writable (inp : ShaderInput) (backends : Backends) (slangs : List Slang) : Prop :=
  ∀ s ∈ slangs, ∀ b, backends.get? s.name = some b → ∀ p ∈ inp.programs,
    ∀ (stage : ProgramStage) (source : StageSource), b.source? (p.snippet stage) = some source →
      source.reflection.Writable

/-- Complete output describes programs of embedded shaders if it can be written. -/
theorem describes_iff_writable {slangs : List Slang} (h : backends.Complete inp slangs)
    (hembeds : inp.EmbedsPrograms) :
    Describes inp backends slangs ↔ Writable inp backends slangs := by
  constructor
  · intro hdescribes s hs b hb p hp stage source hsource
    exact (hdescribes s hs b hb p hp stage source hsource).1
  · intro hwritable s hs b hb p hp stage source hsource
    refine ⟨hwritable s hs b hb p hp stage source hsource, ?_⟩
    obtain ⟨shader, hshader, hname⟩ := hembeds p hp stage
    obtain ⟨b', hb', hcomplete⟩ := h s hs
    rw [hb] at hb'
    obtain rfl := Option.some.inj hb'
    obtain ⟨source', hsource', hpairs⟩ := hcomplete.shaders shader hshader
    rw [hname, hsource] at hsource'
    obtain rfl := Option.some.inj hsource'
    exact StageReflection.resolved_of_declared hpairs

/-- After the checks a module is assembled exactly when the output describes every program. What
stands in the way is a block that cannot be written or a name that a pair refers to in vain, and
the latter only for a snippet that is not embedded. -/
theorem assemble_iff_describes (hrequest : Slang.Admissible settings.slangs)
    (hverbatim : ∀ j ∈ settings.verbatim, (Json.text? j).isSome = true)
    (hchecks : ∀ s ∈ settings.slangs,
      checkConsistency inp s (backends.get? s.name) = .ok ()) :
    ((∃ m, assemble inp backends settings = .ok m) ↔ Describes inp backends settings.slangs) ∧
    (∀ f, assemble inp backends settings = .error f →
      f = .incomplete (.desc .hugeBlock) ∨ ∃ u, f = .incomplete (.desc (.unknownResource u))) ∧
    (inp.EmbedsPrograms →
      (Describes inp backends settings.slangs ↔ Writable inp backends settings.slangs)) := by
  have hcomplete : backends.Complete inp settings.slangs := fun s hs =>
    checkConsistency_eq_ok.mp (hchecks s hs)
  obtain ⟨first, rest, hslangs⟩ := hrequest.exists_cons
  have hmem : ∀ s, s ∈ first :: rest ↔ s ∈ settings.slangs := fun s => by
    rw [← hslangs, hrequest.mem_inOrder]
  have hordered : backends.Complete inp (first :: rest) := fun s hs =>
    hcomplete s ((hmem s).mp hs)
  have hlisted : ∀ s ∈ first :: rest, s ∈ Slang.table := fun s hs =>
    hrequest.listed s ((hmem s).mp hs)
  have hdescribes : Describes inp backends (first :: rest) ↔
      Describes inp backends settings.slangs := by
    unfold Describes
    simp only [hmem]
  obtain ⟨build, hbuild⟩ := ofSlangs_of_complete hordered hverbatim
  rw [assemble_eq_ofSlangs hrequest hslangs, hbuild]
  refine ⟨?_, ?_, describes_iff_writable hcomplete⟩
  · rw [← hdescribes, ← exists_procedures_eq_ok hlisted hordered]
    constructor
    · intro h
      obtain ⟨m, hm⟩ := h
      obtain ⟨procedures, hprocedures, -⟩ := map_eq_ok.mp hm
      exact ⟨procedures, mapError_eq_ok.mp hprocedures⟩
    · intro h
      obtain ⟨procedures, hprocedures⟩ := h
      exact ⟨_, map_eq_ok.mpr ⟨procedures, mapError_eq_ok.mpr hprocedures, rfl⟩⟩
  · intro f hf
    obtain ⟨g, hg, rfl⟩ := mapError_eq_error.mp (map_eq_error.mp hf)
    rcases procedures_eq_error hlisted hordered hg with rfl | ⟨u, rfl⟩
    · exact .inl rfl
    · exact .inr ⟨u, rfl⟩

/-! ## A pair of an image and a sampler -/

/-- A fragment shader that samples an image with a sampler, and what samplers it has. -/
def sampling (samplers : List Sampler) : StageReflection where
  stage := "fs"
  images := [{ slot := 0, name := "tex" }]
  samplers
  imageSamplers := [⟨0, "tex_smp", "tex", "smp"⟩]

theorem pairSettings_admissible : Slang.Admissible pairSettings.slangs where
  nonempty := by decide
  listed := by decide
  apart := by decide +kernel

theorem sampling_assembled : ∃ m,
    assemble (pairInput [⟨"v", "vs"⟩, ⟨"f", "fs"⟩])
      (pairBackends (sampling [{ slot := 0, name := "smp" }])) pairSettings = .ok m := by
  have hchecks : ∀ s ∈ pairSettings.slangs,
      checkConsistency (pairInput [⟨"v", "vs"⟩, ⟨"f", "fs"⟩]) s
        ((pairBackends (sampling [{ slot := 0, name := "smp" }])).get? s.name) = .ok () := by
    decide +kernel
  obtain ⟨hassembled, -, hwritable⟩ :=
    assemble_iff_describes pairSettings_admissible (by simp [pairSettings]) hchecks
  refine hassembled.mpr ((hwritable fun p hp stage => ?_).mpr ?_)
  · obtain rfl := List.mem_singleton.mp hp
    cases stage with
    | vertex => exact ⟨⟨"v", "vs"⟩, by decide, rfl⟩
    | fragment => exact ⟨⟨"f", "fs"⟩, by decide, rfl⟩
  · intro s hs b hb p hp stage source hsource
    obtain rfl := List.mem_singleton.mp hs
    obtain rfl := List.mem_singleton.mp hp
    obtain rfl := Option.some.inj hb
    cases stage with
    | vertex =>
      obtain rfl := Option.some.inj hsource
      unfold StageReflection.Writable
      decide
    | fragment =>
      obtain rfl := Option.some.inj hsource
      unfold StageReflection.Writable
      decide

/-- Where the fragment shader is not declared, the checks pass over a pair whose sampler is not
there, and the module is not assembled. -/
theorem sampling_undeclared :
    Slang.Admissible pairSettings.slangs ∧
    (∀ s ∈ pairSettings.slangs, checkConsistency (pairInput [⟨"v", "vs"⟩]) s
      ((pairBackends (sampling [])).get? s.name) = .ok ()) ∧
    assemble (pairInput [⟨"v", "vs"⟩]) (pairBackends (sampling [])) pairSettings =
      .error (.incomplete (.desc (.unknownResource ⟨.sampler, "smp"⟩))) := by
  refine ⟨pairSettings_admissible, by decide +kernel, ?_⟩
  have hfault : ((fun _ => ()) <$> assemble (pairInput [⟨"v", "vs"⟩]) (pairBackends (sampling []))
      pairSettings) = .error (.incomplete (.desc (.unknownResource ⟨.sampler, "smp"⟩))) := by
    decide +kernel
  exact map_eq_error.mp hfault

end ShaderBindings.Module
