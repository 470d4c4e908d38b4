/-
  Assembling a module, taken apart.

  * `assemble_cases`: which requests are admitted (`Slang.Admissible`), and that an admitted one
    is carried out in the order of the table.
  * `ofSlangs_eq_ok`, `assembledFrom_of_assemble`: what the parts of an assembled module are
    (`AssembledFrom`; `Assembled` is the part of it that has to do with arrays).
  * `ofSlangs_of_complete`: with complete output for every language only the procedures can
    fail.

  What the parts look like as text is left to the modules about each of them.
-/
import ShaderBindings.Module.Assembly
import ShaderBindings.Proofs.Consistency
import ShaderBindings.Proofs.Desc.Program

namespace ShaderBindings

open Fallible

/-- A request of supported languages, at least one, with a backend each to themselves. -/
structure Slang.Admissible (request : List Slang) : Prop where
  nonempty : request ≠ []
  listed : ∀ s ∈ request, s ∈ Slang.table
  apart : Slang.sharedBackend? request = none

/-- There is complete output for every one of the languages. -/
def Backends.Complete (inp : ShaderInput) (backends : Backends) (slangs : List Slang) : Prop :=
  ∀ s ∈ slangs, ∃ b, backends.get? s.name = some b ∧ b.Complete inp

namespace Slang

/-- The languages of an admissible request are those of the request, in the order of the table. -/
theorem Admissible.mem_inOrder {request : List Slang} (h : Admissible request) {s : Slang} :
    s ∈ inOrder request ↔ s ∈ request := by
  rw [Slang.mem_inOrder]
  exact ⟨fun hs => hs.2, fun hs => ⟨h.listed s hs, hs⟩⟩

theorem Admissible.exists_cons {request : List Slang} (h : Admissible request) :
    ∃ first rest, inOrder request = first :: rest := by
  obtain ⟨s, hs⟩ := List.exists_mem_of_ne_nil request h.nonempty
  exact List.exists_cons_of_ne_nil (List.ne_nil_of_mem (h.mem_inOrder.mpr hs))

end Slang

/-! ## Parts that cannot fail -/

/-- Embedded shaders have a payload. -/
theorem BackendOutput.Complete.exists_payload {inp : ShaderInput} {b : BackendOutput}
    (h : b.Complete inp) (namePrefix : String) {s : Snippet} (hs : s ∈ inp.shaders) :
    ∃ p, Payload.ofSnippet namePrefix s.name b = .ok p := by
  obtain ⟨source, hsource, -⟩ := h.shaders s hs
  exact Payload.exists_ofSnippet_of_source namePrefix hsource

namespace Module

variable {inp : ShaderInput} {backends : Backends} {settings : Settings} {slang : Slang}
  {b : BackendOutput}

theorem exists_header_eq_ok (h : b.Complete inp) (version : Setting Int) (cmdline : String) :
    ∃ header, Header.ofInput inp b version cmdline = .ok header := by
  obtain ⟨entries, hentries⟩ :
      ∃ entries, inp.sortedPrograms.mapM (Overview.ofProgram inp.namePrefix b) = .ok entries := by
    refine exists_mapM_eq_ok.mpr fun p hp => ?_
    have hp := ShaderInput.mem_sortedPrograms.mp hp
    obtain ⟨vs, hvs, -⟩ := h.stages p hp .vertex
    obtain ⟨fs, hfs, -⟩ := h.stages p hp .fragment
    change b.source? p.vsName = some vs at hvs
    change b.source? p.fsName = some fs at hfs
    unfold Overview.ofProgram
    rw [hvs, hfs]
    exact ⟨_, rfl⟩
  unfold Header.ofInput
  rw [hentries]
  exact ⟨_, rfl⟩

theorem exists_attrConstants_eq_ok (h : b.Complete inp) :
    ∃ constants, attrConstants inp b = .ok constants := by
  unfold attrConstants
  simp only [bind_eq_ok, pure_eq_ok]
  rw [exists_comm]
  simp only [exists_and_left, exists_eq', and_true]
  refine exists_mapM_eq_ok.mpr fun s hs => ?_
  obtain ⟨source, hsource, -⟩ := h.shaders s (List.mem_of_mem_filter hs)
  rw [hsource]
  exact ⟨_, rfl⟩

theorem exists_payloadSection_eq_ok (hb : backends.get? slang.name = some b) (h : b.Complete inp) :
    ∃ found, payloadSection inp backends slang = .ok found := by
  obtain ⟨embedded, hembedded⟩ : ∃ embedded, Embedded.ofBackend inp b = .ok embedded := by
    refine exists_mapM_eq_ok.mpr fun s hs => ?_
    obtain ⟨source, hsource, -⟩ := h.shaders s hs
    obtain ⟨payload, hpayload⟩ := h.exists_payload inp.namePrefix hs
    unfold Embedded.ofShader
    rw [hpayload, hsource]
    exact ⟨_, rfl⟩
  unfold payloadSection backend
  rw [hb, ok_bind, hembedded]
  exact ⟨_, rfl⟩

/-! ## Cases -/

theorem caseOfSlang_eq_ok {p : Program} {c : DescCase}
    (h : DescCase.ofSlang inp backends p slang = .ok c) :
    ∃ e b body, backends.get? slang.name = some b ∧
      Emitter.program e inp.namePrefix p b = .ok body ∧ c = ⟨slang.backend, body⟩ := by
  unfold DescCase.ofSlang at h
  obtain ⟨e, -, h⟩ := bind_eq_ok.mp h
  split at h
  · simp at h
  · next b hb =>
    obtain ⟨body, hbody, h⟩ := bind_eq_ok.mp h
    exact ⟨e, b, body, hb, mapError_eq_ok.mp hbody, (pure_eq_ok.mp h).symm⟩

/-- With complete output, the case of a language stands or falls with the description. -/
theorem caseOfSlang_of_complete {p : Program} (hp : p ∈ inp.programs) (hs : slang ∈ Slang.table)
    (hb : backends.get? slang.name = some b) (h : b.Complete inp) :
    ((∃ c, DescCase.ofSlang inp backends p slang = .ok c) ↔ b.Describes p) ∧
    ∀ f, DescCase.ofSlang inp backends p slang = .error f →
      f = .desc .hugeBlock ∨ ∃ u, f = .desc (.unknownResource u) := by
  obtain ⟨e, he⟩ := Emitter.exists_ofSlang_eq_ok hs
  obtain ⟨vs, hvs, -⟩ := h.stages p hp .vertex
  obtain ⟨fs, hfs, -⟩ := h.stages p hp .fragment
  have hcase : DescCase.ofSlang inp backends p slang =
      ((e.program inp.namePrefix p b).mapError .desc >>= fun body =>
        pure ⟨slang.backend, body⟩) := by
    unfold DescCase.ofSlang
    rw [he]
    simp only [hb]
    rfl
  rw [hcase]
  constructor
  · rw [← Emitter.exists_program_eq_ok e inp.namePrefix hvs hfs]
    constructor
    · intro h
      obtain ⟨c, hc⟩ := h
      obtain ⟨body, hbody, -⟩ := bind_eq_ok.mp hc
      exact ⟨body, mapError_eq_ok.mp hbody⟩
    · intro h
      obtain ⟨body, hbody⟩ := h
      exact ⟨_, bind_eq_ok.mpr ⟨body, mapError_eq_ok.mpr hbody, rfl⟩⟩
  · intro f hf
    rcases bind_eq_error.mp hf with hf | ⟨body, -, hf⟩
    · obtain ⟨g, hg, rfl⟩ := mapError_eq_error.mp hf
      rcases Emitter.program_eq_error hvs hfs hg with rfl | ⟨u, rfl⟩
      · exact .inl rfl
      · exact .inr ⟨u, rfl⟩
    · simp [pure, Except.pure] at hf

/-! ## Procedures -/

theorem procedure_eq_ok {slangs : List Slang} {p : Program} {proc : DescProcedure} :
    DescProcedure.ofProgram inp backends slangs p = .ok proc ↔
      List.Forall₂ (fun s c => DescCase.ofSlang inp backends p s = .ok c) slangs proc.cases ∧
        proc.name = Overview.procedureName inp.namePrefix p := by
  unfold DescProcedure.ofProgram
  rw [bind_eq_ok]
  constructor
  · intro h
    obtain ⟨cases, hcases, h⟩ := h
    obtain rfl := pure_eq_ok.mp h
    exact ⟨mapM_eq_ok.mp hcases, rfl⟩
  · intro h
    obtain ⟨hcases, hname⟩ := h
    refine ⟨proc.cases, mapM_eq_ok.mpr hcases, ?_⟩
    rw [← hname]
    rfl

theorem exists_procedure_eq_ok {slangs : List Slang} {p : Program} :
    (∃ proc, DescProcedure.ofProgram inp backends slangs p = .ok proc) ↔
      ∀ s ∈ slangs, ∃ c, DescCase.ofSlang inp backends p s = .ok c := by
  rw [← exists_mapM_eq_ok]
  constructor
  · intro h
    obtain ⟨proc, hproc⟩ := h
    exact ⟨proc.cases, mapM_eq_ok.mpr (procedure_eq_ok.mp hproc).1⟩
  · intro h
    obtain ⟨cases, hcases⟩ := h
    exact ⟨⟨_, cases⟩, procedure_eq_ok.mpr ⟨mapM_eq_ok.mp hcases, rfl⟩⟩

/-- The output for every language describes every program. -/
def Describes (inp : ShaderInput) (backends : Backends) (slangs : List Slang) : Prop :=
  ∀ s ∈ slangs, ∀ b, backends.get? s.name = some b → ∀ p ∈ inp.programs, b.Describes p

/-- With complete output for all languages, procedures stand or fall with the descriptions. -/
theorem exists_procedures_eq_ok {slangs : List Slang} (hlisted : ∀ s ∈ slangs, s ∈ Slang.table)
    (h : backends.Complete inp slangs) :
    (∃ procs, inp.sortedPrograms.mapM (DescProcedure.ofProgram inp backends slangs) = .ok procs) ↔
      Describes inp backends slangs := by
  rw [exists_mapM_eq_ok]
  simp only [exists_procedure_eq_ok, ShaderInput.mem_sortedPrograms]
  constructor
  · intro hcases s hs b hb p hp
    obtain ⟨b', hb', hcomplete⟩ := h s hs
    rw [hb] at hb'
    obtain rfl := Option.some.inj hb'
    exact (caseOfSlang_of_complete hp (hlisted s hs) hb hcomplete).1.mp (hcases p hp s hs)
  · intro hdescribes p hp s hs
    obtain ⟨b, hb, hcomplete⟩ := h s hs
    exact (caseOfSlang_of_complete hp (hlisted s hs) hb hcomplete).1.mpr (hdescribes s hs b hb p hp)

theorem procedures_eq_error {slangs : List Slang} (hlisted : ∀ s ∈ slangs, s ∈ Slang.table)
    (h : backends.Complete inp slangs) {f : SectionFault}
    (hf : inp.sortedPrograms.mapM (DescProcedure.ofProgram inp backends slangs) = .error f) :
    f = .desc .hugeBlock ∨ ∃ u, f = .desc (.unknownResource u) := by
  obtain ⟨p, hp, hf⟩ := exists_of_mapM_eq_error hf
  unfold DescProcedure.ofProgram at hf
  rcases bind_eq_error.mp hf with hf | ⟨cases, -, hf⟩
  · obtain ⟨s, hs, hf⟩ := exists_of_mapM_eq_error hf
    obtain ⟨b, hb, hcomplete⟩ := h s hs
    exact (caseOfSlang_of_complete (ShaderInput.mem_sortedPrograms.mp hp) (hlisted s hs) hb
      hcomplete).2 f hf
  · simp [pure, Except.pure] at hf

/-! ## Whole modules -/

theorem forM_checks_eq_ok {slangs : List Slang} :
    (slangs.forM fun s => (checkConsistency inp s (backends.get? s.name)).mapError
      AssemblyFault.inconsistent) = .ok () ↔ backends.Complete inp slangs := by
  rw [forM_eq_ok]
  simp only [mapError_eq_ok, checkConsistency_eq_ok]
  rfl

/-- Only admissible requests are assembled. -/
theorem assemble_eq_ofSlangs {first : Slang} {rest : List Slang}
    (h : Slang.Admissible settings.slangs)
    (hslangs : Slang.inOrder settings.slangs = first :: rest) :
    assemble inp backends settings = ofSlangs inp backends settings first rest := by
  have hall : settings.slangs.all (· ∈ Slang.table) = true :=
    List.all_eq_true.mpr fun s hs => by simpa using h.listed s hs
  have hempty : settings.slangs.isEmpty = false := by simpa using h.nonempty
  unfold assemble Slang.ordered?
  simp [hempty, hall, h.apart, hslangs]

/-- A request is refused for whatever input, or carried out in the order of the table. -/
theorem assemble_cases (settings : Settings) :
    (∃ f, ∀ inp backends, assemble inp backends settings = .error f) ∨
      ∃ first rest, Slang.inOrder settings.slangs = first :: rest ∧
        ∀ inp backends,
          assemble inp backends settings = ofSlangs inp backends settings first rest := by
  by_cases hempty : settings.slangs.isEmpty = true
  · exact .inl ⟨.emptyRequest, fun _ _ => if_pos hempty⟩
  by_cases hall : settings.slangs.all (· ∈ Slang.table) = true
  · cases hshared : Slang.sharedBackend? settings.slangs with
    | some pair =>
      refine .inl ⟨.sharedBackend pair.1 pair.2, fun _ _ => ?_⟩
      unfold assemble Slang.ordered?
      simp [hempty, hall, hshared]
    | none =>
      have hrequest : Slang.Admissible settings.slangs :=
        ⟨by simpa using hempty, by simpa using hall, hshared⟩
      obtain ⟨first, rest, hslangs⟩ := hrequest.exists_cons
      exact .inr ⟨first, rest, hslangs, fun _ _ => assemble_eq_ofSlangs hrequest hslangs⟩
  · refine .inl ⟨.unlistedSlang, fun _ _ => ?_⟩
    unfold assemble Slang.ordered?
    simp [hempty, hall]

theorem admissible_of_assemble {m : Module} (h : assemble inp backends settings = .ok m) :
    Slang.Admissible settings.slangs := by
  unfold assemble at h
  split at h
  · simp at h
  · next hempty =>
    split at h
    · simp at h
    · next slangs hordered =>
      split at h
      · simp at h
      · next hshared =>
        refine ⟨by simpa using hempty, ?_, hshared⟩
        unfold Slang.ordered? at hordered
        split at hordered
        · next hall => simpa using hall
        · simp at hordered

theorem exists_verbatimLines_eq_ok (h : ∀ j ∈ settings.verbatim, (Json.text? j).isSome = true) :
    ∃ lines, verbatimLines settings = .ok lines := by
  have hall : ∀ js : List Json, (∀ j ∈ js, (Json.text? j).isSome = true) →
      ∃ lines, js.mapM Json.text? = some lines := by
    intro js
    induction js with
    | nil => exact fun _ => ⟨[], rfl⟩
    | cons j js ih =>
      intro hjs
      obtain ⟨line, hline⟩ := Option.isSome_iff_exists.mp (hjs j List.mem_cons_self)
      obtain ⟨lines, hlines⟩ := ih fun j' hj' => hjs j' (List.mem_cons_of_mem j hj')
      exact ⟨line :: lines, by rw [List.mapM_cons, hline, hlines]; rfl⟩
  obtain ⟨lines, hlines⟩ := hall _ h
  unfold verbatimLines
  rw [hlines]
  exact ⟨lines, rfl⟩

/-- With complete output for all languages and a verbatim part of texts, a module is assembled
around its procedures. -/
theorem ofSlangs_of_complete {first : Slang} {rest : List Slang}
    (h : backends.Complete inp (first :: rest))
    (hverbatim : ∀ j ∈ settings.verbatim, (Json.text? j).isSome = true) :
    ∃ build : List DescProcedure → Module, ofSlangs inp backends settings first rest =
      build <$> (inp.sortedPrograms.mapM
        (DescProcedure.ofProgram inp backends (first :: rest))).mapError .incomplete := by
  obtain ⟨b, hb, hcomplete⟩ := h first List.mem_cons_self
  obtain ⟨header, hheader⟩ := exists_header_eq_ok hcomplete settings.version settings.cmdline
  obtain ⟨attrs, hattrs⟩ := exists_attrConstants_eq_ok hcomplete
  obtain ⟨payloads, hpayloads⟩ :
      ∃ payloads, (first :: rest).mapM (payloadSection inp backends) = .ok payloads := by
    refine exists_mapM_eq_ok.mpr fun s hs => ?_
    obtain ⟨b', hb', hcomplete'⟩ := h s hs
    exact exists_payloadSection_eq_ok hb' hcomplete'
  obtain ⟨verbatim, hlines⟩ := exists_verbatimLines_eq_ok hverbatim
  refine ⟨fun procedures => {
    header, verbatim, attrs, procedures
    images := imageConstants inp b
    samplers := samplerConstants inp b
    blocks := blocksOf inp settings.hosts b
    payloads := payloads.map Prod.fst
    warnings := payloads.flatMap Prod.snd }, ?_⟩
  have hchecks := forM_checks_eq_ok.mpr h
  unfold ofSlangs backend
  simp only [hchecks, hb, hheader, hattrs, hpayloads, hlines, mapError_ok, ok_bind]
  cases inp.sortedPrograms.mapM (DescProcedure.ofProgram inp backends (first :: rest)) with
  | error f => rfl
  | ok procedures => rfl

/-- The parts of an assembled module that have to do with arrays. -/
structure Assembled (inp : ShaderInput) (backends : Backends) (slangs : List Slang) (m : Module) :
    Prop where
  payloads : List.Forall₂ (fun s found => ∃ warnings,
    payloadSection inp backends s = .ok (found, warnings)) slangs m.payloads
  procedures : List.Forall₂ (fun p proc =>
    DescProcedure.ofProgram inp backends slangs p = .ok proc) inp.sortedPrograms m.procedures

/-- The warnings about the output for a language. -/
def warningsFor (inp : ShaderInput) (backends : Backends) (slang : Slang) : List Diagnostic :=
  match backends.get? slang.name with
  | some b => unsupportedTypes inp b
  | none => []

/-- All parts of an assembled module. What languages share comes from the output for the first
one, the rest from the output for each. -/
structure AssembledFrom (inp : ShaderInput) (backends : Backends) (settings : Settings)
    (slangs : List Slang) (b : BackendOutput) (m : Module) : Prop
    extends Assembled inp backends slangs m where
  header : Header.ofInput inp b settings.version settings.cmdline = .ok m.header
  verbatim : verbatimLines settings = .ok m.verbatim
  attrs : attrConstants inp b = .ok m.attrs
  images : m.images = imageConstants inp b
  samplers : m.samplers = samplerConstants inp b
  blocks : m.blocks = blocksOf inp settings.hosts b
  warnings : m.warnings = slangs.flatMap (warningsFor inp backends)

theorem payloadSection_eq_ok {sec : PayloadSection} {warnings : List Diagnostic} :
    payloadSection inp backends slang = .ok (sec, warnings) ↔
      (∃ b, backends.get? slang.name = some b ∧ sec.slang = slang ∧
        List.Forall₂ (fun s e => Embedded.ofShader inp.namePrefix b s = .ok e) inp.shaders
          sec.embedded) ∧
      warnings = warningsFor inp backends slang := by
  unfold payloadSection backend warningsFor
  cases hb : backends.get? slang.name with
  | none => simp [bind_eq_ok]
  | some b =>
    rw [ok_bind, bind_eq_ok]
    constructor
    · intro h
      obtain ⟨embedded, hembedded, h⟩ := h
      obtain ⟨rfl, rfl⟩ := Prod.mk.inj (pure_eq_ok.mp h)
      exact ⟨⟨b, rfl, rfl, mapM_eq_ok.mp (mapError_eq_ok.mp hembedded)⟩, rfl⟩
    · intro h
      obtain ⟨⟨b', hb', rfl, hembedded⟩, rfl⟩ := h
      obtain rfl := Option.some.inj hb'
      exact ⟨sec.embedded, mapError_eq_ok.mpr (mapM_eq_ok.mpr hembedded), rfl⟩

theorem payloadSections_eq_ok {slangs : List Slang} {secs : List PayloadSection} :
    List.Forall₂ (fun s sec => ∃ warnings, payloadSection inp backends s = .ok (sec, warnings))
        slangs secs ↔
      ∃ found, slangs.mapM (payloadSection inp backends) = .ok found ∧
        found.map Prod.fst = secs := by
  constructor
  · intro h
    refine ⟨secs.map fun sec => (sec, warningsFor inp backends sec.slang), ?_, by
      simp [Function.comp_def]⟩
    rw [mapM_eq_ok, List.forall₂_map_right_iff]
    refine h.imp fun s sec hsec => ?_
    obtain ⟨warnings, hsec⟩ := hsec
    obtain ⟨b, -, rfl, -⟩ := (payloadSection_eq_ok.mp hsec).1
    rw [(payloadSection_eq_ok.mp hsec).2] at hsec
    exact hsec
  · intro h
    obtain ⟨found, hfound, rfl⟩ := h
    rw [List.forall₂_map_right_iff]
    exact (mapM_eq_ok.mp hfound).imp fun s f hf => ⟨f.2, hf⟩

theorem flatMap_warnings {slangs : List Slang} {found : List (PayloadSection × List Diagnostic)}
    (h : slangs.mapM (payloadSection inp backends) = .ok found) :
    found.flatMap Prod.snd = slangs.flatMap (warningsFor inp backends) := by
  rw [List.flatMap_def, List.flatMap_def]
  refine congrArg List.flatten (map_eq_map_of_forall₂ (mapM_eq_ok.mp h) fun s f hf => ?_).symm
  exact (payloadSection_eq_ok.mp hf).2.symm

/-- A module is assembled when there is complete output for all languages and its parts are what
the output gives. -/
theorem ofSlangs_eq_ok {first : Slang} {rest : List Slang} {m : Module} :
    ofSlangs inp backends settings first rest = .ok m ↔
      backends.Complete inp (first :: rest) ∧ ∃ b, backends.get? first.name = some b ∧
        AssembledFrom inp backends settings (first :: rest) b m := by
  constructor
  · intro h
    unfold ofSlangs backend at h
    obtain ⟨⟨⟩, hchecks, h⟩ := bind_eq_ok.mp h
    have hcomplete := forM_checks_eq_ok.mp hchecks
    obtain ⟨b, hb, -⟩ := hcomplete first List.mem_cons_self
    simp only [hb, ok_bind] at h
    obtain ⟨header, hheader, h⟩ := bind_eq_ok.mp h
    obtain ⟨attrs, hattrs, h⟩ := bind_eq_ok.mp h
    obtain ⟨payloads, hpayloads, h⟩ := bind_eq_ok.mp h
    obtain ⟨procedures, hprocedures, h⟩ := bind_eq_ok.mp h
    obtain ⟨verbatim, hverbatim, h⟩ := bind_eq_ok.mp h
    obtain rfl := pure_eq_ok.mp h
    exact ⟨hcomplete, b, hb, {
      payloads := payloadSections_eq_ok.mpr ⟨payloads, hpayloads, rfl⟩
      procedures := mapM_eq_ok.mp (mapError_eq_ok.mp hprocedures)
      header := mapError_eq_ok.mp hheader
      attrs := mapError_eq_ok.mp hattrs
      verbatim := hverbatim
      images := rfl
      samplers := rfl
      blocks := rfl
      warnings := flatMap_warnings hpayloads }⟩
  · intro h
    obtain ⟨hcomplete, b, hb, hm⟩ := h
    obtain ⟨payloads, hpayloads, hsections⟩ := payloadSections_eq_ok.mp hm.payloads
    have hchecks := forM_checks_eq_ok.mpr hcomplete
    have hprocedures := mapM_eq_ok.mpr hm.procedures
    unfold ofSlangs backend
    simp only [hchecks, hb, hm.header, hm.attrs, hpayloads, hprocedures, hm.verbatim, mapError_ok,
      ok_bind, hsections, flatMap_warnings hpayloads]
    rw [← hm.images, ← hm.samplers, ← hm.blocks, ← hm.warnings]
    rfl

theorem assembled_of_ofSlangs {first : Slang} {rest : List Slang} {m : Module}
    (h : ofSlangs inp backends settings first rest = .ok m) :
    backends.Complete inp (first :: rest) ∧ Assembled inp backends (first :: rest) m := by
  obtain ⟨hcomplete, b, -, hm⟩ := ofSlangs_eq_ok.mp h
  exact ⟨hcomplete, hm.toAssembled⟩

/-- An assembled module has its parts from complete output for the languages of the request, and
what these share from the output for the first of them. -/
theorem assembledFrom_of_assemble {m : Module} (h : assemble inp backends settings = .ok m) :
    backends.Complete inp (Slang.inOrder settings.slangs) ∧
      ∃ first b, (Slang.inOrder settings.slangs).head? = some first ∧
        backends.get? first.name = some b ∧
        AssembledFrom inp backends settings (Slang.inOrder settings.slangs) b m := by
  have hrequest := admissible_of_assemble h
  obtain ⟨first, rest, hslangs⟩ := hrequest.exists_cons
  rw [assemble_eq_ofSlangs hrequest hslangs] at h
  obtain ⟨hcomplete, b, hb, hm⟩ := ofSlangs_eq_ok.mp h
  rw [hslangs]
  exact ⟨hcomplete, first, b, rfl, hb, hm⟩

end Module

end ShaderBindings
