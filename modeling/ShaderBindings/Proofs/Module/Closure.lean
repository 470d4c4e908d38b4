/-
  Which arrays the procedures of a module refer to, and when they are declared
  (`Module.Closed`). References come from the programs (`case_closed`) and declarations from the
  shaders that are embedded (`declares_of_shader`); nothing makes a program use embedded shaders
  only, so the references of a module are closed exactly when its programs do
  (`ShaderInput.EmbedsPrograms`, `closed_iff_of_assembled`).
-/
import ShaderBindings.Proofs.Module.Assembly

namespace ShaderBindings

open Fallible Desc

/-- The payload is declared in the section of a language: its name stands for its bytes there and
for no others, and the module has its lines. -/
structure Module.Declares (m : Module) (slang : Slang) (p : Payload) : Prop where
  embedded : ∃ sec ∈ m.payloads, sec.slang = slang ∧ ∃ e ∈ sec.embedded, e.payload = p
  unique : ∀ sec ∈ m.payloads, sec.slang = slang → ∀ e ∈ sec.embedded,
    e.payload.arrayName = p.arrayName → e.payload = p
  written : Payload.arrayLines p.arrayName p.data <:+: m.lines

/-- What a case refers to are payloads of its program's snippets, declared for its language. -/
structure DescCase.Closed (inp : ShaderInput) (backends : Backends) (m : Module) (p : Program)
    (slang : Slang) (c : DescCase) : Prop where
  label : c.label = slang.backend
  references : ∀ name ∈ arrays c.body, ∃ s b payload, backends.get? slang.name = some b ∧
    Payload.ofSnippet inp.namePrefix (p.snippet s) b = .ok payload ∧ payload.arrayName = name ∧
    m.Declares slang payload

/-- All cases of all procedures are closed: a procedure for each program, a case for each
language. -/
def Module.Closed (inp : ShaderInput) (backends : Backends) (slangs : List Slang) (m : Module) :
    Prop :=
  List.Forall₂ (fun p proc => proc.name = Overview.procedureName inp.namePrefix p ∧
    List.Forall₂ (fun slang c => c.Closed inp backends m p slang) slangs proc.cases)
    inp.sortedPrograms m.procedures

/-- Every snippet of a program is a shader that is embedded. -/
def ShaderInput.EmbedsPrograms (inp : ShaderInput) : Prop :=
  ∀ p ∈ inp.programs, ∀ s : ProgramStage, ∃ shader ∈ inp.shaders, shader.name = p.snippet s

namespace Module

variable {inp : ShaderInput} {backends : Backends} {slangs : List Slang} {slang : Slang}
  {b : BackendOutput} {m : Module}

/-! ## Declarations -/

theorem embedded_eq_ok {namePrefix : String} {s : Snippet} {e : Embedded}
    (h : Embedded.ofShader namePrefix b s = .ok e) :
    Payload.ofSnippet namePrefix s.name b = .ok e.payload := by
  unfold Embedded.ofShader at h
  split at h
  · simp at h
  · simp at h
  · next payload source hpayload hsource =>
    obtain rfl := Except.ok.inj h
    exact hpayload

theorem section_of_mem (h : Assembled inp backends slangs m) {sec : PayloadSection}
    (hsec : sec ∈ m.payloads) : ∃ b, backends.get? sec.slang.name = some b ∧
      List.Forall₂ (fun s e => Embedded.ofShader inp.namePrefix b s = .ok e) inp.shaders
        sec.embedded := by
  obtain ⟨s, -, warnings, hs⟩ := exists_of_forall₂_right h.payloads hsec
  obtain ⟨b, hb, rfl, hembedded⟩ := (payloadSection_eq_ok.mp hs).1
  exact ⟨b, hb, hembedded⟩

/-- The lines of what is embedded are lines of the module. -/
theorem arrayLines_infix_lines {sec : PayloadSection} (hsec : sec ∈ m.payloads) {e : Embedded}
    (he : e ∈ sec.embedded) :
    Payload.arrayLines e.payload.arrayName e.payload.data <:+: m.lines := by
  have harray : Payload.arrayLines e.payload.arrayName e.payload.data <:+: e.lines :=
    List.infix_append_right
  have hembedded : e.lines <:+: sec.embedded.flatMap Embedded.lines :=
    List.infix_of_mem_flatten (List.mem_map_of_mem he)
  have hsection : sec.embedded.flatMap Embedded.lines <:+:
      m.payloads.flatMap fun p => p.embedded.flatMap Embedded.lines :=
    List.infix_of_mem_flatten (List.mem_map_of_mem hsec)
  refine (harray.trans hembedded).trans (hsection.trans ?_)
  unfold lines
  exact List.infix_append _ _ _

/-- Embedded shaders are declared. -/
theorem declares_of_shader (h : Assembled inp backends slangs m) (hslang : slang ∈ slangs)
    (hb : backends.get? slang.name = some b) {shader : Snippet} (hshader : shader ∈ inp.shaders)
    {p : Payload} (hp : Payload.ofSnippet inp.namePrefix shader.name b = .ok p) :
    m.Declares slang p := by
  obtain ⟨sec, hsec, warnings, hs⟩ := exists_of_forall₂_left h.payloads hslang
  obtain ⟨b', hb', hslangEq, hembedded⟩ := (payloadSection_eq_ok.mp hs).1
  rw [hb] at hb'
  obtain rfl := Option.some.inj hb'
  obtain ⟨e, he, hofShader⟩ := exists_of_forall₂_left hembedded hshader
  have hpayload := embedded_eq_ok hofShader
  rw [hp] at hpayload
  obtain rfl := Except.ok.inj hpayload
  refine ⟨⟨sec, hsec, hslangEq, e, he, rfl⟩, ?_, arrayLines_infix_lines hsec he⟩
  intro sec' hsec' hslang' e' he' hname
  obtain ⟨b', hb', hembedded'⟩ := section_of_mem h hsec'
  rw [hslang', hb] at hb'
  obtain rfl := Option.some.inj hb'
  obtain ⟨shader', -, hofShader'⟩ := exists_of_forall₂_right hembedded' he'
  have hpayload' := embedded_eq_ok hofShader'
  rw [Payload.snippet_eq_of_arrayName_eq hpayload' hp hname, hp] at hpayload'
  exact (Except.ok.inj hpayload').symm

/-- What is declared comes from an embedded shader. -/
theorem shader_of_declares (h : Assembled inp backends slangs m)
    (hb : backends.get? slang.name = some b) {p : Payload} (hp : m.Declares slang p) :
    ∃ shader ∈ inp.shaders, Payload.ofSnippet inp.namePrefix shader.name b = .ok p := by
  obtain ⟨sec, hsec, rfl, e, he, rfl⟩ := hp.embedded
  obtain ⟨b', hb', hembedded⟩ := section_of_mem h hsec
  rw [hb] at hb'
  obtain rfl := Option.some.inj hb'
  obtain ⟨shader, hshader, hofShader⟩ := exists_of_forall₂_right hembedded he
  exact ⟨shader, hshader, embedded_eq_ok hofShader⟩

/-! ## References -/

theorem case_closed (h : Assembled inp backends slangs m) (hslang : slang ∈ slangs) {p : Program}
    (hp : ∀ s : ProgramStage, ∃ shader ∈ inp.shaders, shader.name = p.snippet s) {c : DescCase}
    (hc : DescCase.ofSlang inp backends p slang = .ok c) : c.Closed inp backends m p slang := by
  obtain ⟨e, b, body, hb, hbody, rfl⟩ := caseOfSlang_eq_ok hc
  obtain ⟨vertex, fragment, hvertex, hfragment, harrays⟩ := Emitter.arrays_program hbody
  have hdeclares : ∀ s payload, Payload.ofSnippet inp.namePrefix (p.snippet s) b = .ok payload →
      m.Declares slang payload := by
    intro s payload hpayload
    obtain ⟨shader, hshader, hname⟩ := hp s
    exact declares_of_shader h hslang hb hshader (hname ▸ hpayload)
  refine ⟨rfl, fun name hname => ?_⟩
  rw [harrays] at hname
  rcases List.mem_cons.mp hname with rfl | hname
  · exact ⟨.vertex, b, vertex, hb, hvertex, rfl, hdeclares .vertex vertex hvertex⟩
  · obtain rfl := List.mem_singleton.mp hname
    exact ⟨.fragment, b, fragment, hb, hfragment, rfl, hdeclares .fragment fragment hfragment⟩

/-- A closed case has its program's snippets embedded. -/
theorem shader_of_case_closed (h : Assembled inp backends slangs m) {p : Program} {c : DescCase}
    (hc : DescCase.ofSlang inp backends p slang = .ok c)
    (hclosed : c.Closed inp backends m p slang) (s : ProgramStage) :
    ∃ shader ∈ inp.shaders, shader.name = p.snippet s := by
  obtain ⟨e, b, body, hb, hbody, rfl⟩ := caseOfSlang_eq_ok hc
  obtain ⟨vertex, fragment, hvertex, hfragment, harrays⟩ := Emitter.arrays_program hbody
  obtain ⟨payload, hpayload, hmem⟩ : ∃ payload,
      Payload.ofSnippet inp.namePrefix (p.snippet s) b = .ok payload ∧
        payload.arrayName ∈ arrays body := by
    rw [harrays]
    cases s with
    | vertex => exact ⟨vertex, hvertex, List.mem_cons_self⟩
    | fragment => exact ⟨fragment, hfragment, List.mem_cons_of_mem _ List.mem_cons_self⟩
  obtain ⟨s', b', payload', hb', hpayload', hname, hdeclares⟩ := hclosed.references _ hmem
  obtain ⟨shader, hshader, hshaderPayload⟩ := shader_of_declares h hb hdeclares
  exact ⟨shader, hshader, Payload.snippet_eq_of_arrayName_eq hshaderPayload hpayload hname⟩

theorem closed_iff_of_assembled (h : Assembled inp backends slangs m) (hne : slangs ≠ []) :
    m.Closed inp backends slangs ↔ inp.EmbedsPrograms := by
  constructor
  · -- any one of the languages will do: the snippets of a program are the same in all of them
    intro hclosed p hp s
    obtain ⟨slang, hslang⟩ := List.exists_mem_of_ne_nil slangs hne
    obtain ⟨proc, -, hcases, hproc⟩ := exists_of_forall₂_left
      (hclosed.mp (fun _ _ hR hS => And.intro hR.2 hS) h.procedures)
      (ShaderInput.mem_sortedPrograms.mpr hp)
    obtain ⟨c, -, hcase, hc⟩ := exists_of_forall₂_left
      (hcases.mp (fun _ _ hR hS => And.intro hR hS) (procedure_eq_ok.mp hproc).1) hslang
    exact shader_of_case_closed h hc hcase s
  · intro hembeds
    refine forall₂_imp_of_mem h.procedures fun p hp proc hproc => ?_
    obtain ⟨hcases, hname⟩ := procedure_eq_ok.mp hproc
    refine ⟨hname, forall₂_imp_of_mem hcases fun slang hslang c hc => ?_⟩
    exact case_closed h hslang (hembeds p (ShaderInput.mem_sortedPrograms.mp hp)) hc

/-- The references of an assembled module are closed exactly when its programs use embedded
shaders only. -/
theorem closed_iff_embedsPrograms {settings : Settings}
    (h : assemble inp backends settings = .ok m) :
    m.Closed inp backends (Slang.inOrder settings.slangs) ↔ inp.EmbedsPrograms := by
  have hrequest := admissible_of_assemble h
  obtain ⟨first, rest, hslangs⟩ := hrequest.exists_cons
  rw [assemble_eq_ofSlangs hrequest hslangs] at h
  rw [hslangs]
  exact closed_iff_of_assembled (assembled_of_ofSlangs h).2 (List.cons_ne_nil first rest)

/-! ## A program of two shaders -/

def wgsl : Slang := ⟨"wgsl", "wgsl", ".WGPU", 0⟩

/-- A program, and the snippets that are declared. -/
def pairInput (snippets : List Snippet) : ShaderInput where
  basePath := ""
  snippets
  programs := [⟨"p", "v", "f", 1⟩]

/-- The output for both shaders of the program. -/
def pairBackends (fragment : StageReflection) : Backends :=
  [("wgsl", {
    slang := wgsl
    sources := [⟨"v", "v", { stage := "vs" }⟩, ⟨"f", "f", fragment⟩] })]

def pairSettings : Settings := { slangs := [wgsl] }

theorem pair_closed : ∃ m,
    assemble (pairInput [⟨"v", "vs"⟩, ⟨"f", "fs"⟩]) (pairBackends { stage := "fs" }) pairSettings =
      .ok m ∧
    m.Closed (pairInput [⟨"v", "vs"⟩, ⟨"f", "fs"⟩]) (pairBackends { stage := "fs" })
      (Slang.inOrder [wgsl]) := by
  have hok : (assemble (pairInput [⟨"v", "vs"⟩, ⟨"f", "fs"⟩]) (pairBackends { stage := "fs" })
      pairSettings).toBool = true := by decide +kernel
  obtain ⟨m, hm⟩ := exists_eq_ok_of_toBool hok
  refine ⟨m, hm, (closed_iff_embedsPrograms hm).mpr fun p hp s => ?_⟩
  obtain rfl := List.mem_singleton.mp hp
  cases s with
  | vertex => exact ⟨⟨"v", "vs"⟩, by decide, rfl⟩
  | fragment => exact ⟨⟨"f", "fs"⟩, by decide, rfl⟩

/-- With one snippet left undeclared the module is assembled all the same, and refers to an array
that it does not declare. -/
theorem undeclared_not_closed : ∃ m,
    assemble (pairInput [⟨"v", "vs"⟩]) (pairBackends { stage := "fs" }) pairSettings = .ok m ∧
    ¬ m.Closed (pairInput [⟨"v", "vs"⟩]) (pairBackends { stage := "fs" })
      (Slang.inOrder [wgsl]) := by
  have hok : (assemble (pairInput [⟨"v", "vs"⟩]) (pairBackends { stage := "fs" })
      pairSettings).toBool = true := by decide +kernel
  obtain ⟨m, hm⟩ := exists_eq_ok_of_toBool hok
  refine ⟨m, hm, fun hclosed => ?_⟩
  have hslangs : Slang.inOrder [wgsl] = [wgsl] := by decide +kernel
  rw [assemble_eq_ofSlangs (admissible_of_assemble hm) hslangs] at hm
  rw [hslangs,
    closed_iff_of_assembled (assembled_of_ofSlangs hm).2 (List.cons_ne_nil _ _)] at hclosed
  obtain ⟨shader, hshader, hname⟩ := hclosed ⟨"p", "v", "f", 1⟩ (by decide) .fragment
  obtain rfl := List.mem_singleton.mp hshader
  simp [Program.snippet] at hname

end Module

end ShaderBindings
