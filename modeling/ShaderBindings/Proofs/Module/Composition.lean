/-
  How the modules for two requests hang together. The lines of a module fall into chunks
  (`Module.chunks`, `flatMap_chunks`): those that all languages share, and for each language its
  payloads and, in each procedure, its case. A module for fewer languages is the module for more
  of them with the chunks of the others left out (`Narrows`, from `assembledFrom_restrict`), as
  long as the shared lines are written from the same language. `Dispatches` says that each
  procedure has one case for each language. Requests with different first languages are not
  compared.
-/
import ShaderBindings.Proofs.Module.Closure
import ShaderBindings.Proofs.Slang

namespace ShaderBindings

open Fallible

/-! ## Chunks -/

/-- A run of lines of a module, and the backend that it is for. Shared lines are for none. -/
structure Chunk where
  backend : Option String
  lines : List String
deriving DecidableEq, Repr

/-- The lines are shared, or for the backend of one of the languages. -/
def Chunk.isFor (slangs : List Slang) (c : Chunk) : Bool :=
  match c.backend with
  | none => true
  | some backend => backend ∈ slangs.map Slang.backend

def PayloadSection.chunk (p : PayloadSection) : Chunk :=
  ⟨some p.slang.backend, p.embedded.flatMap Embedded.lines⟩

def DescCase.chunk (c : DescCase) : Chunk := ⟨some c.label, c.lines⟩

namespace DescProcedure

def chunks (p : DescProcedure) : List Chunk :=
  ⟨none, p.opening⟩ :: p.cases.map DescCase.chunk ++ [⟨none, closing⟩]

/-- The procedure with the cases of some languages only. -/
def restrict (slangs : List Slang) (p : DescProcedure) : DescProcedure :=
  { p with cases := p.cases.filter (·.chunk.isFor slangs) }

theorem flatMap_chunks (p : DescProcedure) : p.chunks.flatMap Chunk.lines = p.lines := by
  unfold chunks lines
  rw [List.flatMap_append, List.flatMap_cons, List.flatMap_map, List.flatMap_singleton]
  rfl

theorem chunks_restrict (slangs : List Slang) (p : DescProcedure) :
    (p.restrict slangs).chunks = p.chunks.filter (·.isFor slangs) := by
  unfold chunks
  rw [List.filter_append, List.filter_cons_of_pos rfl, List.filter_map]
  rfl

end DescProcedure

namespace Module

def chunks (m : Module) : List Chunk :=
  ⟨none, m.sharedLines⟩ :: m.payloads.map PayloadSection.chunk
    ++ m.procedures.flatMap DescProcedure.chunks

/-- The chunks are all the lines, in order. -/
theorem flatMap_chunks (m : Module) : m.chunks.flatMap Chunk.lines = m.lines := by
  unfold chunks lines
  rw [List.flatMap_append, List.flatMap_cons, List.flatMap_map, List.flatMap_assoc]
  simp only [DescProcedure.flatMap_chunks]
  rfl

/-- The module with the payloads and the cases of some languages only, and their warnings. -/
def restrict (slangs : List Slang) (warnings : List Diagnostic) (m : Module) : Module :=
  { m with
    payloads := m.payloads.filter (·.chunk.isFor slangs)
    procedures := m.procedures.map (DescProcedure.restrict slangs)
    warnings }

theorem chunks_restrict (slangs : List Slang) (warnings : List Diagnostic) (m : Module) :
    (m.restrict slangs warnings).chunks = m.chunks.filter (·.isFor slangs) := by
  unfold chunks
  rw [List.filter_append, List.filter_cons_of_pos rfl, List.filter_map, List.filter_flatMap]
  simp only [← DescProcedure.chunks_restrict]
  unfold restrict
  rw [List.flatMap_map]
  rfl

/-! ## What is dispatched on -/

/-- A procedure for each program, and in each a case for every language of the request, in the
order of the table and under labels that all differ. The payloads are in the same order. -/
structure Dispatches (inp : ShaderInput) (request : List Slang) (m : Module) : Prop where
  payloads : m.payloads.map PayloadSection.slang = Slang.inOrder request
  procedures : List.Forall₂ (fun p proc => proc.name = Overview.procedureName inp.namePrefix p ∧
    proc.cases.map DescCase.label = (Slang.inOrder request).map Slang.backend)
    inp.sortedPrograms m.procedures
  labels : ((Slang.inOrder request).map Slang.backend).Nodup

variable {inp : ShaderInput} {backends : Backends} {settings : Settings} {m : Module}

theorem label_of_caseOfSlang {p : Program} {slang : Slang} {c : DescCase}
    (h : DescCase.ofSlang inp backends p slang = .ok c) : c.label = slang.backend := by
  obtain ⟨e, b, body, -, -, rfl⟩ := caseOfSlang_eq_ok h
  rfl

theorem dispatches_of_assembled {request : List Slang}
    (h : Assembled inp backends (Slang.inOrder request) m)
    (hrequest : Slang.Admissible request) : m.Dispatches inp request where
  payloads := by
    have hslangs := map_eq_map_of_forall₂ (f := id) (g := PayloadSection.slang) h.payloads
      fun s sec hsec => by
        obtain ⟨warnings, hsec⟩ := hsec
        obtain ⟨b, -, hslang, -⟩ := (payloadSection_eq_ok.mp hsec).1
        exact hslang.symm
    rw [← hslangs, List.map_id]
  procedures := by
    refine h.procedures.imp fun p proc hproc => ?_
    obtain ⟨hcases, hname⟩ := procedure_eq_ok.mp hproc
    refine ⟨hname, (map_eq_map_of_forall₂ hcases fun s c hc => ?_).symm⟩
    exact (label_of_caseOfSlang hc).symm
  labels := Slang.sharedBackend?_eq_none.mp hrequest.apart

/-! ## Fewer languages -/

/-- What a module for fewer languages has of another one: all that is shared, and the payloads and
cases of its languages. Its lines are those of the other with the other chunks left out. -/
structure Narrows (request : List Slang) (m wider : Module) : Prop where
  whole : wider.lines = wider.chunks.flatMap Chunk.lines
  lines : m.lines = (wider.chunks.filter (·.isFor request)).flatMap Chunk.lines
  header : m.header = wider.header
  verbatim : m.verbatim = wider.verbatim
  attrs : m.attrs = wider.attrs
  images : m.images = wider.images
  samplers : m.samplers = wider.samplers
  blocks : m.blocks = wider.blocks
  payloads : m.payloads = wider.payloads.filter (·.slang ∈ request)
  procedures : List.Forall₂ (fun proc wide => proc.name = wide.name ∧
    proc.cases = wide.cases.filter (·.label ∈ request.map Slang.backend))
      m.procedures wider.procedures

end Module

/-- A part of an admissible request is admissible, unless it is empty. -/
theorem Slang.Admissible.of_subset {request wider : List Slang} (h : Admissible wider)
    (hsub : request ⊆ wider) (hne : request ≠ []) : Admissible request where
  nonempty := hne
  listed s hs := h.listed s (hsub hs)
  apart := by
    rw [sharedBackend?_eq_none, inOrder_of_subset hsub]
    exact (sharedBackend?_eq_none.mp h.apart).sublist (List.filter_sublist.map Slang.backend)

namespace Module

variable {inp : ShaderInput} {backends : Backends} {settings : Settings} {m : Module}
  {request wider : List Slang}

/-- A chunk of a requested language is kept when the language is. -/
theorem mem_backends_iff (hwider : Slang.Admissible wider) (hsub : request ⊆ wider) {s : Slang}
    (hs : s ∈ wider) : s.backend ∈ request.map Slang.backend ↔ s ∈ request := by
  constructor
  · intro h
    obtain ⟨t, ht, hts⟩ := List.mem_map.mp h
    have heq := Slang.backend_inj hwider.apart (hwider.mem_inOrder.mpr (hsub ht))
      (hwider.mem_inOrder.mpr hs) hts
    exact heq ▸ ht
  · exact fun h => List.mem_map.mpr ⟨s, h, rfl⟩

theorem payloads_restrict (hwider : Slang.Admissible wider) (hsub : request ⊆ wider)
    (h : m.payloads.map PayloadSection.slang = Slang.inOrder wider) :
    m.payloads.filter (·.chunk.isFor request) = m.payloads.filter (·.slang ∈ request) := by
  refine List.filter_congr fun sec hsec => ?_
  have hmem : sec.slang ∈ wider := by
    rw [← hwider.mem_inOrder, ← h]
    exact List.mem_map_of_mem hsec
  have hiff := mem_backends_iff hwider hsub hmem
  simpa [PayloadSection.chunk, Chunk.isFor] using hiff

/-- Leaving out languages leaves the parts of the others as they are. -/
theorem assembledFrom_restrict {b : BackendOutput} (hwider : Slang.Admissible wider)
    (hsub : request ⊆ wider)
    (h : AssembledFrom inp backends { settings with slangs := wider } (Slang.inOrder wider) b m) :
    AssembledFrom inp backends { settings with slangs := request } (Slang.inOrder request) b
      (m.restrict request ((Slang.inOrder request).flatMap (warningsFor inp backends))) where
  header := h.header
  verbatim := h.verbatim
  attrs := h.attrs
  images := h.images
  samplers := h.samplers
  blocks := h.blocks
  warnings := rfl
  payloads := by
    change List.Forall₂ _ _ (m.payloads.filter _)
    rw [Slang.inOrder_of_subset hsub]
    refine forall₂_filter h.payloads fun s hs sec hsec => ?_
    obtain ⟨warnings, hsec⟩ := hsec
    obtain ⟨-, -, hslang, -⟩ := (payloadSection_eq_ok.mp hsec).1
    have hiff := mem_backends_iff hwider hsub (hwider.mem_inOrder.mp hs)
    simpa [PayloadSection.chunk, Chunk.isFor, hslang] using hiff.symm
  procedures := by
    change List.Forall₂ _ _ (m.procedures.map _)
    rw [List.forall₂_map_right_iff, Slang.inOrder_of_subset hsub]
    refine h.procedures.imp fun p proc hproc => ?_
    obtain ⟨hcases, hname⟩ := procedure_eq_ok.mp hproc
    refine procedure_eq_ok.mpr ⟨forall₂_filter hcases fun s hs c hc => ?_, hname⟩
    have hiff := mem_backends_iff hwider hsub (hwider.mem_inOrder.mp hs)
    simpa [DescCase.chunk, Chunk.isFor, label_of_caseOfSlang hc] using hiff.symm

/-- A request that is part of another one, with the same first language, is assembled whenever the
other is, and its module is the other one with the chunks of the languages it lacks left out. In
either module every procedure has a case for each of the languages requested, and the warnings are
those about these languages. -/
theorem assemble_narrows {wide : Module} (hsub : request ⊆ wider)
    (hfirst : (Slang.inOrder request).head? = (Slang.inOrder wider).head?)
    (h : assemble inp backends { settings with slangs := wider } = .ok wide) :
    ∃ m, assemble inp backends { settings with slangs := request } = .ok m ∧
      m.Narrows request wide ∧ m.Dispatches inp request ∧ wide.Dispatches inp wider ∧
      m.warnings = (Slang.inOrder request).flatMap (warningsFor inp backends) ∧
      wide.warnings = (Slang.inOrder wider).flatMap (warningsFor inp backends) ∧
      Slang.inOrder request = (Slang.inOrder wider).filter (· ∈ request) := by
  have hwider : Slang.Admissible wider := admissible_of_assemble h
  obtain ⟨hcomplete, first, b, hhead, hb, hwide⟩ := assembledFrom_of_assemble h
  change (Slang.inOrder wider).head? = some first at hhead
  rw [hhead] at hfirst
  obtain ⟨fewer, hfewer⟩ : ∃ fewer, Slang.inOrder request = first :: fewer :=
    ⟨_, List.eq_cons_of_mem_head? hfirst⟩
  have hne : request ≠ [] := by
    rintro rfl
    simp [Slang.inOrder] at hfewer
  have hrequest := hwider.of_subset hsub hne
  have hm := assembledFrom_restrict hwider hsub hwide
  have hdispatches := dispatches_of_assembled hwide.toAssembled hwider
  refine ⟨_, ?_, ?_, dispatches_of_assembled hm.toAssembled hrequest, hdispatches, rfl,
    hwide.warnings, Slang.inOrder_of_subset hsub⟩
  · rw [assemble_eq_ofSlangs hrequest hfewer, hfewer]
    rw [hfewer] at hm
    refine ofSlangs_eq_ok.mpr ⟨fun s hs => hcomplete s ?_, b, hb, hm⟩
    rw [← hfewer, hrequest.mem_inOrder] at hs
    exact hwider.mem_inOrder.mpr (hsub hs)
  · exact {
      whole := (flatMap_chunks wide).symm
      lines := by rw [← chunks_restrict, flatMap_chunks]
      header := rfl
      verbatim := rfl
      attrs := rfl
      images := rfl
      samplers := rfl
      blocks := rfl
      payloads := payloads_restrict hwider hsub hdispatches.payloads
      procedures := by
        change List.Forall₂ _ (wide.procedures.map _) _
        rw [List.forall₂_map_left_iff, List.forall₂_same]
        exact fun proc _ => ⟨rfl, rfl⟩ }

/-! ## A program for three languages -/

def glsl330 : Slang := ⟨"glsl330", "glsl", ".GLCORE33", 0⟩

def hlsl5 : Slang := ⟨"hlsl5", "hlsl", ".D3D11", 5⟩

/-- The output for both shaders of the program, in each of the languages. -/
def pairOutputs (slangs : List Slang) : Backends :=
  slangs.map fun slang => (slang.name, {
    slang
    sources := [⟨"v", "v", { stage := "vs" }⟩, ⟨"f", "f", { stage := "fs" }⟩] })

/-- Without the language in the middle, and with another one named twice. -/
theorem pair_narrows : ∃ m wide,
    assemble (pairInput [⟨"v", "vs"⟩, ⟨"f", "fs"⟩]) (pairOutputs [glsl330, hlsl5, wgsl])
      { slangs := [wgsl, glsl330, wgsl] } = .ok m ∧
    assemble (pairInput [⟨"v", "vs"⟩, ⟨"f", "fs"⟩]) (pairOutputs [glsl330, hlsl5, wgsl])
      { slangs := [wgsl, hlsl5, glsl330] } = .ok wide ∧
    m.Narrows [wgsl, glsl330, wgsl] wide := by
  have hok : (assemble (pairInput [⟨"v", "vs"⟩, ⟨"f", "fs"⟩])
      (pairOutputs [glsl330, hlsl5, wgsl]) { slangs := [wgsl, hlsl5, glsl330] }).toBool = true := by
    decide +kernel
  obtain ⟨wide, hwide⟩ := exists_eq_ok_of_toBool hok
  have hsub : [wgsl, glsl330, wgsl] ⊆ [wgsl, hlsl5, glsl330] := by decide
  obtain ⟨m, hm, hnarrows, -⟩ := @assemble_narrows _ _ { slangs := [] } _ _ _ hsub
    (by decide +kernel) hwide
  exact ⟨m, wide, hm, hwide, hnarrows⟩

end Module

end ShaderBindings
