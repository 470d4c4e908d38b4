/-
  The arrays of a module (`Embeds`): one for each language and shader, under a name of its own
  (`arrayNames_nodup`), with as many literals as it is long (`Embedded.Holds`). A procedure
  gives a stage the array of its snippet, and where that holds bytecode its size
  (`DescCase.Gives`, `exists_gives`). No array is named like a procedure
  (`arrayName_ne_procedureName`).
-/
import ShaderBindings.Proofs.Dump
import ShaderBindings.Proofs.Module.Composition

namespace ShaderBindings

open Fallible Desc

/-- What is embedded is the payload of a shader, declared as an array of its size, written as in
statements, with that many literals. -/
structure Embedded.Holds (namePrefix : String) (b : BackendOutput) (s : Snippet) (e : Embedded) :
    Prop where
  payload : Payload.ofSnippet namePrefix s.name b = .ok e.payload
  bytecode : e.payload.isBytecode = (b.blob? s.name).isSome
  declared : ∃ literals, e.lines = Comment.ofSource e.source ++ ["@(private)",
      e.payload.arrayName ++ " := [" ++ (Value.number e.payload.data.length).render ++ "]u8 \x7b"]
        ++ literals ++ ["\x7d"] ∧
    Payload.literalCount literals = e.payload.data.length

/-- A case gives a stage what is embedded: bytecode by its address and size, source by its
address alone. -/
structure DescCase.Gives (stage : ProgramStage) (e : Embedded) (c : DescCase) : Prop where
  pointer : ∀ v, ⟨.stage stage.tag .bytecodePtr, v⟩ ∈ c.body ↔
    e.payload.isBytecode = true ∧ v = .address e.payload.arrayName
  size : ∀ v, ⟨.stage stage.tag .bytecodeSize, v⟩ ∈ c.body ↔
    e.payload.isBytecode = true ∧ v = .number e.payload.data.length
  source : ∀ v, ⟨.stage stage.tag .source, v⟩ ∈ c.body ↔
    e.payload.isBytecode = false ∧ v = .cstring e.payload.arrayName

namespace Module

/-- The names of all arrays of a module. -/
def arrayNames (m : Module) : List String :=
  m.payloads.flatMap fun sec => sec.embedded.map (·.payload.arrayName)

/-- The arrays of a module, and what its procedures say about them. -/
structure Embeds (inp : ShaderInput) (backends : Backends) (slangs : List Slang) (m : Module) :
    Prop where
  arrays : List.Forall₂ (fun slang sec => sec.slang = slang ∧
    ∃ b, backends.get? slang.name = some b ∧
      List.Forall₂ (Embedded.Holds inp.namePrefix b) inp.shaders sec.embedded) slangs m.payloads
  names : m.arrayNames.Nodup
  apart : ∀ proc ∈ m.procedures, proc.name ∉ m.arrayNames
  cases : List.Forall₂ (fun p proc => proc.name = Overview.procedureName inp.namePrefix p ∧
    List.Forall₂ (fun slang c => c.label = slang.backend ∧
      ∀ (stage : ProgramStage), (∃ shader ∈ inp.shaders, shader.name = p.snippet stage) →
        ∃ sec ∈ m.payloads, sec.slang = slang ∧ ∃ e ∈ sec.embedded, c.Gives stage e)
      slangs proc.cases) inp.sortedPrograms m.procedures

variable {inp : ShaderInput} {backends : Backends} {slangs : List Slang} {b : BackendOutput}
  {m : Module}

/-! ## What is embedded -/

theorem holds_of_embedded {namePrefix : String} {s : Snippet} {e : Embedded}
    (h : Embedded.ofShader namePrefix b s = .ok e) : e.Holds namePrefix b s where
  payload := embedded_eq_ok h
  bytecode := Payload.isBytecode_eq (embedded_eq_ok h)
  declared := by
    refine ⟨Payload.byteLines "    " e.payload.data, ?_,
      Payload.literalCount_byteLines (by decide) e.payload.data⟩
    have hsize : (Value.number e.payload.data.length).render = Text.digits e.payload.data.length :=
      Text.numeral_natCast _
    unfold Embedded.lines Payload.arrayLines
    rw [hsize]
    simp only [List.append_assoc]

/-- The output for the language of a section, which is listed. -/
theorem output_of_section (h : Assembled inp backends slangs m) (hbackends : backends.ByName)
    (hlisted : ∀ s ∈ slangs, s ∈ Slang.table) {sec : PayloadSection} (hsec : sec ∈ m.payloads) :
    ∃ b, b.slang.name = sec.slang.name ∧ b.slang.name ∈ Slang.names ∧
      List.Forall₂ (fun s e => Embedded.ofShader inp.namePrefix b s = .ok e) inp.shaders
        sec.embedded := by
  obtain ⟨slang, hslang, warnings, hs⟩ := exists_of_forall₂_right h.payloads hsec
  obtain ⟨b, hb, rfl, hembedded⟩ := (payloadSection_eq_ok.mp hs).1
  have hname := hbackends _ _ hb
  refine ⟨b, hname, ?_, hembedded⟩
  rw [hname]
  exact List.mem_map_of_mem (hlisted _ hslang)

/-! ## Names -/

theorem mem_arrayNames {name : String} : name ∈ m.arrayNames ↔
    ∃ sec ∈ m.payloads, ∃ e ∈ sec.embedded, e.payload.arrayName = name := by
  simp only [arrayNames, List.mem_flatMap, List.mem_map]

/-- Within a section the names differ as the names of the shaders do. -/
theorem nodup_section {namePrefix : String} {shaders : List Snippet} {embedded : List Embedded}
    (h : List.Forall₂ (fun s e => Embedded.ofShader namePrefix b s = .ok e) shaders embedded)
    (hnames : (shaders.map Snippet.name).Nodup) :
    (embedded.map (·.payload.arrayName)).Nodup := by
  induction h with
  | nil => exact List.nodup_nil
  | @cons s e shaders embedded hs hrest ih =>
    rw [List.map_cons, List.nodup_cons] at hnames ⊢
    refine ⟨fun hmem => hnames.1 ?_, ih hnames.2⟩
    obtain ⟨e', he', hname⟩ := List.mem_map.mp hmem
    obtain ⟨s', hs', hembedded'⟩ := exists_of_forall₂_right hrest he'
    have hsame := Payload.snippet_eq_of_arrayName_eq (embedded_eq_ok hembedded')
      (embedded_eq_ok hs) hname
    exact List.mem_map.mpr ⟨s', hs', hsame⟩

/-- Sections of different languages have no name in common. -/
theorem disjoint_sections (h : Assembled inp backends slangs m) (hbackends : backends.ByName)
    (hlisted : ∀ s ∈ slangs, s ∈ Slang.table) {sec other : PayloadSection}
    (hsec : sec ∈ m.payloads) (hother : other ∈ m.payloads)
    (hne : sec.slang.name ≠ other.slang.name) :
    List.Disjoint (sec.embedded.map (·.payload.arrayName))
      (other.embedded.map (·.payload.arrayName)) := by
  obtain ⟨b, hb, hbListed, hembedded⟩ := output_of_section h hbackends hlisted hsec
  obtain ⟨c, hc, hcListed, hembedded'⟩ := output_of_section h hbackends hlisted hother
  intro name hname hname'
  obtain ⟨e, he, rfl⟩ := List.mem_map.mp hname
  obtain ⟨e', he', hsame⟩ := List.mem_map.mp hname'
  obtain ⟨s, -, hs⟩ := exists_of_forall₂_right hembedded he
  obtain ⟨s', -, hs'⟩ := exists_of_forall₂_right hembedded' he'
  obtain ⟨-, -, hslang⟩ := Payload.arrayName_inj hbListed hcListed (embedded_eq_ok hs)
    (embedded_eq_ok hs') hsame.symm
  rw [hb, hc] at hslang
  exact hne hslang

theorem arrayNames_nodup (h : Assembled inp backends slangs m) (hbackends : backends.ByName)
    (hlisted : ∀ s ∈ slangs, s ∈ Slang.table) (hnames : (inp.shaders.map Snippet.name).Nodup)
    (hslangs : (m.payloads.map (·.slang.name)).Nodup) : m.arrayNames.Nodup := by
  unfold arrayNames
  rw [List.nodup_flatMap]
  constructor
  · intro sec hsec
    obtain ⟨b, -, -, hembedded⟩ := output_of_section h hbackends hlisted hsec
    exact nodup_section hembedded hnames
  · refine (List.pairwise_map.mp hslangs).imp_of_mem fun hsec hother hne => ?_
    exact disjoint_sections h hbackends hlisted hsec hother hne

/-- No array is named like a procedure: the names of languages have other ends. -/
theorem arrayName_ne_procedureName {namePrefix snippet : String} {p : Payload}
    (hb : b.slang.name ∈ Slang.names) (hp : Payload.ofSnippet namePrefix snippet b = .ok p)
    (program : Program) : p.arrayName ≠ Overview.procedureName namePrefix program := by
  have hends : ∀ s ∈ Slang.names, ¬ s.toList <:+ "_shader_desc".toList ∧
      ¬ "_shader_desc".toList <:+ s.toList := by decide
  intro h
  have hlist := congrArg String.toList h
  rw [Payload.toList_arrayName hp] at hlist
  unfold Overview.procedureName at hlist
  rw [String.toList_append] at hlist
  have hleft : b.slang.name.toList <:+ _ := ⟨_, hlist⟩
  have hright := List.suffix_append (namePrefix ++ program.name).toList "_shader_desc".toList
  rcases List.suffix_or_suffix_of_suffix hleft hright with hst | hts
  · exact (hends _ hb).1 hst
  · exact (hends _ hb).2 hts

/-! ## Cases -/

/-- A case gives the stages of a program their payloads. -/
theorem gives_of_case {p : Program} {slang : Slang} {c : DescCase}
    (hc : DescCase.ofSlang inp backends p slang = .ok c) (hb : backends.get? slang.name = some b)
    {stage : ProgramStage} {e : Embedded}
    (he : Payload.ofSnippet inp.namePrefix (p.snippet stage) b = .ok e.payload) :
    c.Gives stage e := by
  obtain ⟨emitter, b', body, hb', hbody, rfl⟩ := caseOfSlang_eq_ok hc
  rw [hb] at hb'
  obtain rfl := Option.some.inj hb'
  obtain ⟨source, payload, part, -, hpayload, hpart, hmem⟩ := Emitter.mem_program_stage hbody stage
  rw [he] at hpayload
  obtain rfl := Except.ok.inj hpayload
  exact {
    pointer := fun v => by
      rw [hmem, Emitter.mem_stage_code hpart (by decide), Emitter.mem_code_bytecodePtr]
    size := fun v => by
      rw [hmem, Emitter.mem_stage_code hpart (by decide), Emitter.mem_code_bytecodeSize]
    source := fun v => by
      rw [hmem, Emitter.mem_stage_code hpart (by decide), Emitter.mem_code_source] }

/-- A case gives a stage what is embedded for its language, if the snippet is an embedded
shader. -/
theorem exists_gives (h : Assembled inp backends slangs m) {p : Program} {slang : Slang}
    (hslang : slang ∈ slangs) {c : DescCase} (hc : DescCase.ofSlang inp backends p slang = .ok c)
    {stage : ProgramStage} (hshader : ∃ shader ∈ inp.shaders, shader.name = p.snippet stage) :
    ∃ sec ∈ m.payloads, sec.slang = slang ∧ ∃ e ∈ sec.embedded, c.Gives stage e := by
  obtain ⟨sec, hsec, warnings, hs⟩ := exists_of_forall₂_left h.payloads hslang
  obtain ⟨b, hb, hslangEq, hembedded⟩ := (payloadSection_eq_ok.mp hs).1
  obtain ⟨shader, hshader, hname⟩ := hshader
  obtain ⟨e, he, hofShader⟩ := exists_of_forall₂_left hembedded hshader
  have hpayload := embedded_eq_ok hofShader
  rw [hname] at hpayload
  exact ⟨sec, hsec, hslangEq, e, he, gives_of_case hc hb hpayload⟩

/-! ## All arrays -/

theorem embeds_of_assembled {request : List Slang}
    (h : Assembled inp backends (Slang.inOrder request) m) (hrequest : Slang.Admissible request)
    (hnames : (inp.shaders.map Snippet.name).Nodup) (hbackends : backends.ByName) :
    m.Embeds inp backends (Slang.inOrder request) := by
  have hlisted : ∀ s ∈ Slang.inOrder request, s ∈ Slang.table :=
    fun s hs => (Slang.mem_inOrder.mp hs).1
  have hslangs : (m.payloads.map (·.slang.name)).Nodup := by
    have hpayloads := (dispatches_of_assembled h hrequest).payloads
    have hmap : m.payloads.map (·.slang.name) = (Slang.inOrder request).map Slang.name := by
      rw [← hpayloads, List.map_map]
      rfl
    rw [hmap]
    exact (Slang.inOrder_nodup request).map_on fun s hs t ht hst =>
      Slang.eq_of_name_eq (hlisted s hs) (hlisted t ht) hst
  exact {
    arrays := h.payloads.imp fun slang sec hsec => by
      obtain ⟨warnings, hsec⟩ := hsec
      obtain ⟨b, hb, hslang, hembedded⟩ := (payloadSection_eq_ok.mp hsec).1
      exact ⟨hslang, b, hb, hembedded.imp fun s e he => holds_of_embedded he⟩
    names := arrayNames_nodup h hbackends hlisted hnames hslangs
    apart := by
      intro proc hproc hmem
      obtain ⟨p, -, hp⟩ := exists_of_forall₂_right h.procedures hproc
      obtain ⟨sec, hsec, e, he, hname⟩ := mem_arrayNames.mp hmem
      obtain ⟨b, -, hb, hembedded⟩ := output_of_section h hbackends hlisted hsec
      obtain ⟨s, -, hs⟩ := exists_of_forall₂_right hembedded he
      rw [(procedure_eq_ok.mp hp).2] at hname
      exact arrayName_ne_procedureName hb (embedded_eq_ok hs) p hname
    cases := h.procedures.imp fun p proc hproc => by
      obtain ⟨hcases, hname⟩ := procedure_eq_ok.mp hproc
      refine ⟨hname, forall₂_imp_of_mem hcases fun slang hslang c hc => ?_⟩
      exact ⟨label_of_caseOfSlang hc, fun stage hshader => exists_gives h hslang hc hshader⟩ }

/-- The name of an array tells the snippet, whether the array holds bytecode, and the language; and
a module of shaders with different names has one array for each language and shader, under names
that differ from each other and from those of the procedures. Bytecode is embedded where there is
some, and where a case states its size that is the length of the array it points to. The output is
to be under the names of its languages, as it is in every dump. -/
theorem arrays_unambiguous :
    (∀ (namePrefix snippet other : String) (b c : BackendOutput) (p q : Payload),
      b.slang ∈ Slang.table → c.slang ∈ Slang.table →
      Payload.ofSnippet namePrefix snippet b = .ok p →
      Payload.ofSnippet namePrefix other c = .ok q → p.arrayName = q.arrayName →
      snippet = other ∧ p.isBytecode = q.isBytecode ∧ b.slang = c.slang) ∧
    (∀ (inp : ShaderInput) (backends : Backends) (settings : Settings) (m : Module),
      assemble inp backends settings = .ok m → (inp.shaders.map Snippet.name).Nodup →
      backends.ByName → m.Embeds inp backends (Slang.inOrder settings.slangs)) ∧
    ∀ (basePath : String) (v : Json) (d : Dump), Dump.ofJson basePath v = .ok d →
      d.backends.ByName := by
  refine ⟨?_, ?_, fun _ _ _ h => Dump.byName_of_ofJson h⟩
  · intro namePrefix snippet other b c p q hb hc hp hq h
    obtain ⟨hsnippet, hbytecode, hname⟩ := Payload.arrayName_inj (List.mem_map_of_mem hb)
      (List.mem_map_of_mem hc) hp hq h
    exact ⟨hsnippet, hbytecode, Slang.eq_of_name_eq hb hc hname⟩
  · intro inp backends settings m h hnames hbackends
    obtain ⟨-, first, b, -, -, hm⟩ := assembledFrom_of_assemble h
    exact embeds_of_assembled hm.toAssembled (admissible_of_assemble h) hnames hbackends

/-! ## A program with bytecode -/

/-- The output for a program whose vertex shader has bytecode besides its source. -/
def bytecodeOutput : BackendOutput where
  slang := wgsl
  sources := [⟨"v", "v", { stage := "vs" }⟩, ⟨"f", "f", { stage := "fs" }⟩]
  blobs := [⟨"v", [1, 2, 3]⟩]

/-- The module embeds the bytecode, and by its name the array is no other. -/
theorem bytecode_unambiguous : ∃ m vertex,
    assemble (pairInput [⟨"v", "vs"⟩, ⟨"f", "fs"⟩]) [("wgsl", bytecodeOutput)] pairSettings =
      .ok m ∧
    m.Embeds (pairInput [⟨"v", "vs"⟩, ⟨"f", "fs"⟩]) [("wgsl", bytecodeOutput)]
      (Slang.inOrder [wgsl]) ∧
    Payload.ofSnippet "" "v" bytecodeOutput = .ok vertex ∧
    vertex.arrayName = "v_bytecode_wgsl" ∧ vertex.isBytecode = true ∧
    ∃ d, Dump.ofJson "" (.object []) = .ok d ∧ d.backends.ByName := by
  have hok : (assemble (pairInput [⟨"v", "vs"⟩, ⟨"f", "fs"⟩]) [("wgsl", bytecodeOutput)]
      pairSettings).toBool = true := by decide +kernel
  obtain ⟨m, hm⟩ := exists_eq_ok_of_toBool hok
  have hbackends : Backends.ByName [("wgsl", bytecodeOutput)] := by
    intro name b hb
    rw [Keyed.get?_cons] at hb
    by_cases hname : "wgsl" = name
    · rw [if_pos hname] at hb
      obtain rfl := Option.some.inj hb
      exact hname
    · simp [hname] at hb
  have hvertex : Payload.ofSnippet "" "v" bytecodeOutput =
      .ok ⟨"v_bytecode_wgsl", [1, 2, 3], true⟩ := by decide +kernel
  obtain ⟨-, hbytecode, -⟩ := arrays_unambiguous.1 "" "v" "v" bytecodeOutput bytecodeOutput _ _
    (by decide) (by decide) hvertex hvertex rfl
  have hembeds := arrays_unambiguous.2.1 _ _ _ _ hm (by decide) hbackends
  exact ⟨m, _, hm, hembeds, hvertex, rfl, hbytecode, _, rfl,
    arrays_unambiguous.2.2 "" (.object []) _ rfl⟩

end Module

end ShaderBindings
