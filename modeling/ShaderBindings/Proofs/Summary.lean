/-
  The report about a generated module tells what is in the module (`Summary.Tells`). It is
  counted a second time, from the input; here the numbers are read from the lines of the module
  and the bytes of the file instead: records from the lines that open them (`Record.countIn`),
  arrays from the lines that declare their lengths (`Payload.declaredLengths`), with the source
  texts in comments passed over (`Comment.outside`).

  * `lines_eq_parts`: the lines of a module are its header, the verbatim part, the declarations,
    in which the records are counted, and the rest.
  * `countIn_declarations`, `declaredLengths_section`: what is read from the declarations and
    from the section of a language.
  * `exists_counts`: the second count comes to that, one language after another.

  Lines of the verbatim part may declare records of their own; they are not counted on either
  side.
-/
import Mathlib
import ShaderBindings.Proofs.Bytes
import ShaderBindings.Proofs.Dump
import ShaderBindings.Proofs.FileTree.Replacing
import ShaderBindings.Proofs.Module.Closure
import ShaderBindings.Proofs.Text.Lines
import ShaderBindings.Summary

namespace ShaderBindings

open Fallible

/-! ## Reading declarations -/

/-- Whether a line opens the declaration of a record. -/
def Record.opens (line : String) : Bool := " :: struct \x7b".toList.isSuffixOf line.toList

/-- How many records lines declare. -/
def Record.countIn (lines : List String) : Nat := lines.countP Record.opens

/-- The lines outside of comments that have their marks on lines of their own. -/
def Comment.outside (inside : Bool) : List String → List String
  | [] => []
  | line :: rest =>
    if inside then outside (line ≠ "*/") rest
    else if line = "/*" then outside true rest
    else line :: outside false rest

/-- The lengths of the arrays that lines declare. -/
def Payload.declaredLengths (lines : List String) : List Nat :=
  (Comment.outside false lines).filterMap Payload.declaredLength?

/-! ## Lines that declare nothing -/

theorem Record.opens_eq_false {line : String} (h : line.toList.getLast? ≠ some '\x7b') :
    Record.opens line = false := by
  rw [Bool.eq_false_iff]
  intro hopens
  obtain ⟨front, hline⟩ := List.isSuffixOf_iff_suffix.mp hopens
  rw [← hline, List.getLast?_append] at h
  simp at h

/-! ## Comments -/

namespace Comment

/-- The lines of a comment are indented, so that none of them closes it. -/
theorem innerLine_ne_close (cs : List Char) : innerLine cs ≠ "*/" := by
  intro h
  have hprefix := Text.isPrefix_trimEnd (' ' :: ' ' :: ' ' :: disarm cs)
  have htext := congrArg String.toList h
  rw [innerLine, String.toList_ofList] at htext
  rw [htext] at hprefix
  simp at hprefix

theorem outside_inner {inner : List String} (h : ∀ line ∈ inner, line ≠ "*/")
    (rest : List String) : outside true (inner ++ "*/" :: rest) = outside false rest := by
  induction inner with
  | nil => simp [outside]
  | cons line inner ih =>
    obtain ⟨hline, hinner⟩ := List.forall_mem_cons.mp h
    rw [List.cons_append, outside, if_pos rfl, decide_eq_true hline]
    exact ih hinner

/-- A source text in a comment is passed over. -/
theorem outside_ofSource (source : String) (rest : List String) :
    outside false (ofSource source ++ rest) = outside false rest := by
  have hinner : ∀ line ∈ (Text.lines source.toList).map innerLine, line ≠ "*/" := by
    intro line hline
    obtain ⟨cs, -, rfl⟩ := List.mem_map.mp hline
    exact innerLine_ne_close cs
  have hlines : ofSource source ++ rest =
      "/*" :: ((Text.lines source.toList).map innerLine ++ "*/" :: rest) := by
    simp [ofSource]
  rw [hlines, outside, if_neg (by decide), if_pos rfl, outside_inner hinner]

/-- Lines that open no comment are not passed over. -/
theorem outside_plain {lines : List String} (h : ∀ line ∈ lines, line ≠ "/*")
    (rest : List String) : outside false (lines ++ rest) = lines ++ outside false rest := by
  induction lines with
  | nil => rfl
  | cons line lines ih =>
    obtain ⟨hline, hlines⟩ := List.forall_mem_cons.mp h
    rw [List.cons_append, outside, if_neg (by decide), if_neg hline, ih hlines, List.cons_append]

end Comment

/-! ## Arrays -/

namespace Payload

/-- The lines of the bytes neither open a comment nor declare a length. -/
theorem plain_of_mem_byteLines {data : Bytes} {line : String} (h : line ∈ byteLines "    " data) :
    line ≠ "/*" ∧ declaredLength? line = none := by
  obtain ⟨row, -, rfl⟩ := List.mem_map.mp h
  constructor
  · intro heq
    have hlist := congrArg String.toList heq
    simp at hlist
  · have hbrace : '\x7b' ∉ ("    " ++ String.join (row.map literal)).toList :=
      brace_not_mem_line (by decide) row
    exact declaredLength?_eq_none fun hlast => hbrace (List.mem_of_getLast? hlast)

theorem arrayLines_plain {name : String} {data : Bytes} :
    ∀ line ∈ arrayLines name data, line ≠ "/*" := by
  intro line hline
  unfold arrayLines at hline
  simp only [List.mem_append, List.mem_cons, List.not_mem_nil, or_false] at hline
  rcases hline with ((rfl | rfl) | hline) | rfl
  · decide
  · intro heq
    have hlist := congrArg (fun s => s.toList.reverse) heq
    simp at hlist
  · exact (plain_of_mem_byteLines hline).1
  · decide

/-- An array declares its length once. -/
theorem filterMap_arrayLines (name : String) (data : Bytes) :
    (arrayLines name data).filterMap declaredLength? = [data.length] := by
  have hbytes : (byteLines "    " data).filterMap declaredLength? = [] :=
    List.filterMap_eq_nil_iff.mpr fun line hline => (plain_of_mem_byteLines hline).2
  unfold arrayLines
  rw [List.filterMap_append, List.filterMap_append, hbytes, List.filterMap_cons,
    List.filterMap_cons, declaredLength?_declaration]
  rfl

theorem declaredLengths_append (e : Embedded) (rest : List String) :
    declaredLengths (e.lines ++ rest) = e.payload.data.length :: declaredLengths rest := by
  unfold declaredLengths Embedded.lines
  rw [List.append_assoc, Comment.outside_ofSource, Comment.outside_plain arrayLines_plain,
    List.filterMap_append, filterMap_arrayLines]
  rfl

/-- The lengths declared in a section are those of what is embedded, in order. -/
theorem declaredLengths_section (embedded : List Embedded) :
    declaredLengths (embedded.flatMap Embedded.lines) =
      embedded.map fun e => e.payload.data.length := by
  induction embedded with
  | nil => rfl
  | cons e rest ih => rw [List.flatMap_cons, declaredLengths_append, ih, List.map_cons]

end Payload

/-! ## Records -/

namespace Record

theorem countIn_append (lines more : List String) :
    countIn (lines ++ more) = countIn lines + countIn more :=
  List.countP_append

theorem countIn_eq_zero {lines : List String} (h : ∀ line ∈ lines, opens line = false) :
    countIn lines = 0 :=
  List.countP_eq_zero.mpr fun line hline => by simp [h line hline]

/-- A line does not open a record if it ends in something else. -/
theorem opens_append {front back : String} (hne : back ≠ "")
    (h : back.toList.getLast? ≠ some '\x7b') : opens (front ++ back) = false := by
  refine opens_eq_false ?_
  rw [String.toList_append, List.getLast?_append_of_ne_nil _ (by simpa using hne)]
  exact h

/-- A numeral ends in a digit. -/
theorem opens_append_numeral (front : String) (n : Int) :
    opens (front ++ Text.numeral n) = false := by
  have hbrace : '\x7b' ∉ (Text.numeral n).toList := fun hmem => by
    rcases Text.mem_numeral hmem with h | h <;> exact absurd h (by decide)
  have hne : Text.numeral n ≠ "" := by
    intro h
    have hlist := congrArg String.toList h
    unfold Text.numeral at hlist
    split at hlist <;> simp [Text.toList_digits, Nat.toDigits_ne_nil] at hlist
  exact opens_append hne fun hlast => hbrace (List.mem_of_getLast? hlast)

theorem countIn_constants (constants : List Constant) :
    countIn (constants.map Constant.line) = 0 := by
  refine countIn_eq_zero fun line hline => ?_
  obtain ⟨c, -, rfl⟩ := List.mem_map.mp hline
  exact opens_append_numeral (c.name ++ " :: ") c.value

theorem opens_field (f : RecordField) : opens f.line = false := by
  cases f with
  | padding n => exact opens_append (by decide) (by decide)
  | unsupported => decide
  | named name type => exact opens_append (by decide) (by decide)

/-- A record is opened once. -/
theorem countIn_lines (r : Record) : countIn r.lines = 1 := by
  have hfields : countIn (r.fields.map RecordField.line) = 0 := by
    refine countIn_eq_zero fun line hline => ?_
    obtain ⟨f, -, rfl⟩ := List.mem_map.mp hline
    exact opens_field f
  have hopening : opens (r.name ++ " :: struct \x7b") = true := by
    refine List.isSuffixOf_iff_suffix.mpr ?_
    rw [String.toList_append]
    exact List.suffix_append _ _
  have hcons : r.lines =
      [r.name ++ " :: struct \x7b"] ++ r.fields.map RecordField.line ++ ["\x7d"] := rfl
  rw [hcons, countIn_append, countIn_append, hfields]
  simp [countIn, hopening, show opens "\x7d" = false by decide]

theorem countIn_blocks (blocks : List (Constant × Record)) :
    countIn (blocks.flatMap fun (slot, record) => slot.line :: record.lines) = blocks.length := by
  induction blocks with
  | nil => rfl
  | cons block rest ih =>
    obtain ⟨slot, record⟩ := block
    have hslot : countIn [slot.line] = 0 := countIn_constants [slot]
    have hcons : slot.line :: record.lines = [slot.line] ++ record.lines := rfl
    simp only [List.flatMap_cons, countIn_append, ih, hcons, hslot, countIn_lines,
      List.length_cons]
    omega

end Record

namespace Module

/-- The lines of a module that declare constants and records. -/
def declarations (m : Module) : List String :=
  m.attrs.map Constant.line ++ m.images.map Constant.line ++ m.samplers.map Constant.line
    ++ m.blocks.flatMap (fun (slot, record) => slot.line :: record.lines)

/-- What languages share is the header, the verbatim part and the declarations. -/
theorem sharedLines_eq (m : Module) :
    m.sharedLines = m.header.lines ++ m.verbatim ++ m.declarations := by
  unfold sharedLines declarations
  simp only [List.append_assoc]

theorem lines_eq_parts (m : Module) :
    m.lines = m.header.lines ++ m.verbatim ++ m.declarations
      ++ (m.payloads.flatMap (fun sec => sec.embedded.flatMap Embedded.lines)
        ++ m.procedures.flatMap DescProcedure.lines) := by
  unfold lines
  rw [sharedLines_eq, List.append_assoc _ (m.payloads.flatMap _)]

/-- Of the declarations the records are the uniform blocks. -/
theorem countIn_declarations (m : Module) : Record.countIn m.declarations = m.blocks.length := by
  unfold declarations
  simp only [Record.countIn_append, Record.countIn_constants, Record.countIn_blocks, Nat.zero_add]

end Module

/-! ## Counts -/

/-- What the count for a language says is true of its section: of the shaders, which are those with
bytecode, and how many bytes the section declares. -/
structure BackendCount.Tells (inp : ShaderInput) (b : BackendOutput) (sec : PayloadSection)
    (c : BackendCount) : Prop where
  slang : c.slang = b.slang.name
  shaders : c.bytecode + c.source = inp.shaders.length
  blobs : c.bytecode = (inp.shaders.countP fun s => (b.blob? s.name).isSome)
  bytecode : c.bytecode = sec.embedded.countP (·.payload.isBytecode)
  payloadBytes : c.payloadBytes =
    (Payload.declaredLengths (sec.embedded.flatMap Embedded.lines)).sum

namespace BackendCount

variable {inp : ShaderInput} {backends : Backends} {b : BackendOutput}

theorem totalBytes_eq (payloads : List Payload) :
    totalBytes payloads = (payloads.map fun p => p.data.length).sum := by
  induction payloads with
  | nil => rfl
  | cons p rest ih => rw [totalBytes, ih, List.map_cons, List.sum_cons]

/-- The second count comes to what the section embeds. -/
theorem exists_tells {sec : PayloadSection}
    (h : List.Forall₂ (fun s e => Embedded.ofShader inp.namePrefix b s = .ok e) inp.shaders
      sec.embedded) : ∃ c, ofBackend inp b = .ok c ∧ c.Tells inp b sec := by
  have hpayloads : (inp.shaders.mapM fun s => Payload.ofSnippet inp.namePrefix s.name b) =
      .ok (sec.embedded.map Embedded.payload) := by
    rw [mapM_eq_ok, List.forall₂_map_right_iff]
    exact h.imp fun s e he => Module.embedded_eq_ok he
  have hbytecode : (inp.shaders.countP fun s => (b.blob? s.name).isSome) =
      sec.embedded.countP (·.payload.isBytecode) := by
    have hmaps : inp.shaders.map (fun s => (b.blob? s.name).isSome) =
        sec.embedded.map (·.payload.isBytecode) :=
      map_eq_map_of_forall₂ h fun s e he => (Payload.isBytecode_eq (Module.embedded_eq_ok he)).symm
    have hcounts := congrArg (List.countP id) hmaps
    rwa [List.countP_map, List.countP_map] at hcounts
  have hembedded : ((sec.embedded.map Embedded.payload).filter (·.isBytecode)).length =
      sec.embedded.countP (·.payload.isBytecode) := by
    rw [← List.countP_eq_length_filter, List.countP_map]
    rfl
  refine ⟨ofPayloads b.slang (sec.embedded.map Embedded.payload), ?_, rfl, ?_, ?_, ?_, ?_⟩
  · unfold ofBackend
    rw [hpayloads]
    rfl
  · have hsplit := List.length_eq_length_filter_add (l := sec.embedded.map Embedded.payload)
      (·.isBytecode)
    have hlength : inp.shaders.length = (sec.embedded.map Embedded.payload).length := by
      rw [List.length_map, h.length_eq]
    rw [hlength, hsplit]
    exact (Int.natCast_add _ _).symm
  · rw [hbytecode, ← hembedded]
    rfl
  · rw [← hembedded]
    rfl
  · rw [Payload.declaredLengths_section]
    change ((totalBytes (sec.embedded.map Embedded.payload) : Nat) : Int) = _
    rw [totalBytes_eq, List.map_map]
    rfl

/-- The languages of a module are counted one after another. -/
theorem exists_counts {slangs : List Slang} {secs : List PayloadSection}
    (h : List.Forall₂ (fun s sec => ∃ warnings,
      Module.payloadSection inp backends s = .ok (sec, warnings)) slangs secs) :
    ∃ found counts, slangs.mapM (Summary.outputFor backends) = .ok found ∧
      found.mapM (ofBackend inp) = .ok counts ∧
      List.Forall₂ (fun sec c => ∃ b, backends.get? sec.slang.name = some b ∧ c.Tells inp b sec)
        secs counts := by
  induction h with
  | nil => exact ⟨[], [], rfl, rfl, .nil⟩
  | @cons s sec slangs secs hs _ ih =>
    obtain ⟨found, counts, hfound, hcounts, htells⟩ := ih
    obtain ⟨warnings, hs⟩ := hs
    obtain ⟨b, hb, rfl, hembedded⟩ := (Module.payloadSection_eq_ok.mp hs).1
    obtain ⟨c, hc, htell⟩ := exists_tells hembedded
    have houtput : Summary.outputFor backends sec.slang = .ok b := by
      unfold Summary.outputFor
      rw [hb]
    exact ⟨b :: found, c :: counts, mapM_cons_eq_ok.mpr ⟨b, found, houtput, hfound, rfl⟩,
      mapM_cons_eq_ok.mpr ⟨c, counts, hc, hcounts, rfl⟩, .cons ⟨b, hb, htell⟩ htells⟩

end BackendCount

/-! ## Reports -/

/-- What a report says is true of the module and of the bytes of its file. -/
structure Summary.Tells (inp : ShaderInput) (backends : Backends) (settings : Settings)
    (m : Module) (bytes : Bytes) (s : Summary) : Prop where
  /-- The sections are those of the requested languages, each once and in order. -/
  requested : ∀ slang, slang ∈ m.payloads.map PayloadSection.slang ↔ slang ∈ settings.slangs
  ascending : (m.payloads.map PayloadSection.slang).Pairwise fun a b =>
    Slang.table.idxOf a < Slang.table.idxOf b
  counts : List.Forall₂
    (fun sec c => ∃ b, backends.get? sec.slang.name = some b ∧ c.Tells inp b sec)
    m.payloads s.backends
  named : backends.ByName →
    s.backends.map BackendCount.slang = m.payloads.map fun sec => sec.slang.name
  /-- The declarations stand in the lines of the module, behind the header and the verbatim part
  and in front of what is not shared. -/
  listed : m.lines = m.header.lines ++ m.verbatim ++ m.declarations
    ++ (m.payloads.flatMap (fun sec => sec.embedded.flatMap Embedded.lines)
      ++ m.procedures.flatMap DescProcedure.lines)
  records : s.uniformBlocks = Record.countIn m.declarations
  warnings : s.warningCount = m.warnings.length
  newlines : s.lineCount = bytes.count 10

namespace Summary

variable {inp : ShaderInput} {backends : Backends} {settings : Settings} {m : Module}

theorem slangs_of_payloads {slangs : List Slang} {secs : List PayloadSection}
    (h : List.Forall₂ (fun s sec => ∃ warnings,
      Module.payloadSection inp backends s = .ok (sec, warnings)) slangs secs) :
    secs.map PayloadSection.slang = slangs := by
  refine ((map_eq_map_of_forall₂ (f := id) h fun s sec hs => ?_).symm).trans (List.map_id slangs)
  obtain ⟨warnings, hs⟩ := hs
  obtain ⟨b, -, hslang, -⟩ := (Module.payloadSection_eq_ok.mp hs).1
  exact hslang.symm

/-- There is a report about an assembled module, and it is true. -/
theorem exists_tells (h : Module.assemble inp backends settings = .ok m) (output : String)
    (bytes : Bytes) :
    ∃ s, ofOutput inp backends (Slang.inOrder settings.slangs) output (bytes.count 10)
      m.warnings.length = .ok s ∧ s.Tells inp backends settings m bytes := by
  have hrequest := Module.admissible_of_assemble h
  obtain ⟨-, first, b, hfirst, hb, hm⟩ := Module.assembledFrom_of_assemble h
  obtain ⟨found, counts, hfound, hcounts, htells⟩ := BackendCount.exists_counts hm.payloads
  have hslangs := slangs_of_payloads hm.payloads
  have hhead : found.head? = some b := by
    obtain ⟨rest, hrest⟩ := List.head?_eq_some_iff.mp hfirst
    rw [hrest] at hfound
    obtain ⟨b', more, hb', -, rfl⟩ := mapM_cons_eq_ok.mp hfound
    rw [outputFor, hb] at hb'
    exact congrArg some (Except.ok.inj hb').symm
  have hreport : ofOutput inp backends (Slang.inOrder settings.slangs) output (bytes.count 10)
      m.warnings.length = .ok {
        module := inp.module
        output
        programs := inp.sortedPrograms.map Program.name
        uniformBlocks := (sharedResources UniformBlock inp b).length
        backends := counts
        lineCount := bytes.count 10
        warningCount := m.warnings.length } := by
    unfold ofOutput
    rw [hfound, ok_bind, hcounts, mapError_ok, ok_bind, hhead]
    rfl
  refine ⟨_, hreport, fun slang => ?_, ?_, htells, fun hbackends => ?_, m.lines_eq_parts, ?_, rfl,
    rfl⟩
  · rw [hslangs]
    exact hrequest.mem_inOrder
  · rw [hslangs]
    exact Slang.pairwise_inOrder settings.slangs
  · refine (map_eq_map_of_forall₂ htells fun sec c hc => ?_).symm
    obtain ⟨b, hb, hc⟩ := hc
    rw [hc.slang, hbackends _ _ hb]
  · rw [Module.countIn_declarations, hm.blocks]
    simp [Module.blocksOf]

/-- The report about a generated module tells the truth about the module and about the file that
was written. Output is under the names of its languages, as is to be for the report to have their
names, in every dump. -/
theorem tells_of_generate :
    (∀ (t : FileTree) (inp : ShaderInput) (backends : Backends) (settings : Settings)
      (output : PathName) (done : Generated) (after : FileTree),
      generate t inp backends settings output = .ok (done, after) →
      ∃ m s l bytes mode, Module.assemble inp backends settings = .ok m ∧
        done.warnings = m.warnings ∧ ofGenerated inp backends settings done = .ok s ∧
        t.place .busy output = .ok l ∧ after.find? l = some (.file bytes mode) ∧
        bytes = Bytes.ofText m.source ∧ s.Tells inp backends settings m bytes ∧
        done.file.lineCount = bytes.count 10 ∧ done.file.byteCount = bytes.length) ∧
    ∀ (basePath : String) (v : Json) (d : Dump), Dump.ofJson basePath v = .ok d →
      d.backends.ByName := by
  refine ⟨fun t inp backends settings output done after h => ?_, fun _ _ _ h =>
    Dump.byName_of_ofJson h⟩
  unfold generate at h
  obtain ⟨m, hm, h⟩ := bind_eq_ok.mp h
  obtain ⟨⟨file, left⟩, hwrite, h⟩ := bind_eq_ok.mp h
  obtain ⟨rfl, rfl⟩ := Prod.mk.inj (pure_eq_ok.mp h)
  have hm := mapError_eq_ok.mp hm
  obtain ⟨hlines, hbytes, l, mode, hplace, rfl⟩ :=
    FileTree.writeText_eq_ok (mapError_eq_ok.mp hwrite)
  rw [← Bytes.count_newline_ofText] at hlines
  obtain ⟨s, hs, htells⟩ := exists_tells hm file.path.text (Bytes.ofText m.source)
  rw [← hlines] at hs
  have hfile : (t.put l (.file (Bytes.ofText m.source) mode)).find? l =
      some (.file (Bytes.ofText m.source) mode) := by
    rw [FileTree.find?_put, if_pos rfl]
  exact ⟨m, s, l, _, mode, hm, rfl, hs, hplace, hfile, rfl, htells, hlines, hbytes⟩

/-! ## A shader that is declared twice -/

/-- A vertex shader that is declared twice and has bytecode, though none of it. -/
def twiceInput : ShaderInput where
  basePath := ""
  snippets := [⟨"v", "vs"⟩, ⟨"v", "vs"⟩, ⟨"f", "fs"⟩]
  programs := [⟨"p", "v", "f", 1⟩]

/-- The source of the fragment shader reads like the declaration of an array. -/
def twiceOutput : BackendOutput where
  slang := Module.wgsl
  sources := [
    ⟨"v", "v", { stage := "vs", uniformBlocks := [{ slot := 0, size := 0, structName := "b" }] }⟩,
    ⟨"f", "é := [7]u8 \x7b\n", { stage := "fs" }⟩]
  blobs := [⟨"v", []⟩]

def emptyTree : FileTree where
  home := []
  entries := [([], .directory 0o755)]

theorem twice_tells : ∃ done after m s l bytes mode,
    generate emptyTree twiceInput [("wgsl", twiceOutput)] Module.pairSettings
      (PathName.ofText "o.odin") = .ok (done, after) ∧
    ofGenerated twiceInput [("wgsl", twiceOutput)] Module.pairSettings done = .ok s ∧
    after.find? l = some (.file bytes mode) ∧
    s.Tells twiceInput [("wgsl", twiceOutput)] Module.pairSettings m bytes ∧
    ∃ d, Dump.ofJson "" (.object []) = .ok d ∧ d.backends.ByName := by
  have hok : (generate emptyTree twiceInput [("wgsl", twiceOutput)] Module.pairSettings
      (PathName.ofText "o.odin")).toBool = true := by decide +kernel
  obtain ⟨⟨done, after⟩, h⟩ := exists_eq_ok_of_toBool hok
  obtain ⟨m, s, l, bytes, mode, -, -, hs, -, hfile, -, htells, -, -⟩ :=
    tells_of_generate.1 _ _ _ _ _ done after h
  exact ⟨done, after, m, s, l, bytes, mode, h, hs, hfile, htells, _, rfl,
    tells_of_generate.2 "" (.object []) _ rfl⟩

end Summary

end ShaderBindings
