/-
  The rows of a report are read again (`ofRow?`). A row has a column for the language and one
  for the backend, each wider than any that is supported; between the numbers of payloads there
  are words. But the number of bytes stands in a column of its own right behind a word, and only
  the blanks in front of it part the two: there are some up to seven digits
  (`wordsIn_byteColumn_of_lt`), and none from eight on (`wordsIn_byteColumn_of_le`).

  Rows are taken to be counts for supported languages (`BackendCount.IsCount`); those of every
  report about output from a dump are (`isCount_of_ofOutput`).
-/
import ShaderBindings.Proofs.Dump
import ShaderBindings.Proofs.Text.Words
import ShaderBindings.Summary

namespace ShaderBindings

open Fallible

/-! ## Rows -/

/-- A row that counts the payloads of a supported language. -/
@[mk_iff]
structure BackendCount.IsCount (c : BackendCount) : Prop where
  listed : ∃ slang ∈ Slang.table, slang.name = c.slang ∧ slang.backend = c.backend
  source : 0 ≤ c.source
  bytecode : 0 ≤ c.bytecode
  payloadBytes : 0 ≤ c.payloadBytes

namespace BackendCount

variable {c : BackendCount}

instance : DecidablePred IsCount := fun c => decidable_of_iff' _ (isCount_iff c)

/-- Reads a row: its words are the language, its backend and the numbers, with words of the report
among them. -/
def ofRow? (row : String) : Option BackendCount :=
  match Text.words row with
  | [slang, backend, source, "source,", bytecode, "bytecode", payloadBytes, "bytes"] => do
    let source ← TypeText.digits? source.toList
    let bytecode ← TypeText.digits? bytecode.toList
    let payloadBytes ← Text.readGrouped? payloadBytes
    return ⟨slang, backend, bytecode, source, payloadBytes⟩
  | _ => none

/-- The words of a row. -/
def rowWords (c : BackendCount) : List String :=
  [c.slang, c.backend, Text.numeral c.source, "source,", Text.numeral c.bytecode]
    ++ (if c.payloadBytes < 10000000 then ["bytecode", Text.grouped c.payloadBytes]
      else ["bytecode" ++ Text.grouped c.payloadBytes])
    ++ ["bytes"]

theorem isCount_of_ofBackend {inp : ShaderInput} {b : BackendOutput} (hb : b.slang ∈ Slang.table)
    (h : ofBackend inp b = .ok c) : c.IsCount := by
  obtain ⟨payloads, -, h⟩ := bind_eq_ok.mp h
  obtain rfl := pure_eq_ok.mp h
  exact ⟨⟨b.slang, hb, rfl, rfl⟩, Int.natCast_nonneg _, Int.natCast_nonneg _, Int.natCast_nonneg _⟩

theorem fits_of_mem_table {slang : Slang} (h : slang ∈ Slang.table) :
    (Text.IsWord slang.name.toList ∧ slang.name.length < 13) ∧
      Text.IsWord slang.backend.toList ∧ slang.backend.length < 18 := by
  have hall : ∀ slang ∈ Slang.table, (Text.IsWord slang.name.toList ∧ slang.name.length < 13) ∧
      Text.IsWord slang.backend.toList ∧ slang.backend.length < 18 := by
    decide +kernel
  exact hall slang h

/-- The words in front of the last that is not of a number, each with the blanks behind it. -/
def columns (slang : Slang) (source bytecode : Nat) : List (List Char × List Char) :=
  [(slang.name.toList, List.replicate (13 - slang.name.length) ' '),
   (slang.backend.toList, List.replicate (18 - slang.backend.length) ' '),
   (Nat.toDigits 10 source, [' ']),
   ("source,".toList, [' ']),
   (Nat.toDigits 10 bytecode, [' '])]

/-- The end of a row: that word and the bytes in their column. -/
def byteColumn (payloadBytes : Nat) : String :=
  "bytecode" ++ Text.padLeft 10 (Text.grouped payloadBytes) ++ " bytes"

theorem toList_line (slang : Slang) (source bytecode payloadBytes : Nat) :
    (line ⟨slang.name, slang.backend, bytecode, source, payloadBytes⟩).toList =
      "    ".toList ++ ((columns slang source bytecode).flatMap (fun part => part.1 ++ part.2) ++
        (byteColumn payloadBytes).toList) := by
  simp [line, columns, byteColumn, Text.padRight, Text.toList_digits]

theorem toList_byteColumn (n : Nat) :
    (byteColumn n).toList = "bytecode".toList ++
      (List.replicate (10 - (Text.grouped n).length) ' ' ++
        ((Text.grouped n).toList ++ ([' '] ++ "bytes".toList))) := by
  simp [byteColumn, Text.padLeft]

theorem isColumn_of_mem {slang : Slang} (h : slang ∈ Slang.table) (source bytecode : Nat) :
    ∀ part ∈ columns slang source bytecode, Text.IsWord part.1 ∧ Text.IsGap part.2 := by
  obtain ⟨⟨hname, hwide⟩, hbackend, hwide'⟩ := fits_of_mem_table h
  have hblank : Text.IsGap [' '] := by decide
  simp only [columns, List.forall_mem_cons, List.not_mem_nil, false_implies, implies_true, and_true]
  exact ⟨⟨hname, Text.isGap_blanks (by omega)⟩, ⟨hbackend, Text.isGap_blanks (by omega)⟩,
    ⟨Text.isWord_toDigits source, hblank⟩, ⟨by decide, hblank⟩,
    Text.isWord_toDigits bytecode, hblank⟩

/-- The numbers of a count are natural ones, and its names are those of a language. -/
theorem IsCount.exists_eq (h : c.IsCount) :
    ∃ slang ∈ Slang.table, ∃ source bytecode payloadBytes : Nat,
      c = ⟨slang.name, slang.backend, bytecode, source, payloadBytes⟩ := by
  obtain ⟨slang, backend, bytecode, source, payloadBytes⟩ := c
  obtain ⟨⟨s, hs, rfl, rfl⟩, hsource, hbytecode, hpayload⟩ := h
  obtain ⟨source, rfl⟩ := Int.eq_ofNat_of_zero_le hsource
  obtain ⟨bytecode, rfl⟩ := Int.eq_ofNat_of_zero_le hbytecode
  obtain ⟨payloadBytes, rfl⟩ := Int.eq_ofNat_of_zero_le hpayload
  exact ⟨s, hs, source, bytecode, payloadBytes, rfl⟩

/-- A number of bytes that does not fill its column is a word of its own. -/
theorem wordsIn_byteColumn_of_lt {n : Nat} (h : n < 10000000) :
    Text.wordsIn (byteColumn n).toList =
      ["bytecode".toList, (Text.grouped n).toList, "bytes".toList] := by
  have hlength := Text.length_grouped_lt_iff.mpr h
  have hgap : Text.IsGap (List.replicate (10 - (Text.grouped n).length) ' ') :=
    Text.isGap_blanks (by omega)
  have hword : Text.IsWord "bytecode".toList := by decide
  have hblank : Text.IsGap [' '] := by decide
  have hbytes : Text.IsWord "bytes".toList := by decide
  rw [toList_byteColumn, Text.wordsIn_append hword hgap,
    Text.wordsIn_append (Text.isWord_grouped n) hblank, Text.wordsIn_word hbytes]

/-- One that fills its column goes on with the word in front of it. -/
theorem wordsIn_byteColumn_of_le {n : Nat} (h : 10000000 ≤ n) :
    Text.wordsIn (byteColumn n).toList =
      ["bytecode".toList ++ (Text.grouped n).toList, "bytes".toList] := by
  have hlength := mt Text.length_grouped_lt_iff.mp (Nat.not_lt.mpr h)
  have hnone : 10 - (Text.grouped n).length = 0 := by omega
  have hword : Text.IsWord "bytecode".toList := by decide
  have hblank : Text.IsGap [' '] := by decide
  have hbytes : Text.IsWord "bytes".toList := by decide
  rw [toList_byteColumn, hnone, List.replicate_zero, List.nil_append, ← List.append_assoc,
    Text.wordsIn_append (hword.append (Text.isWord_grouped n)) hblank, Text.wordsIn_word hbytes]

theorem words_line (h : c.IsCount) : Text.words c.line = c.rowWords := by
  obtain ⟨slang, hslang, source, bytecode, payloadBytes, rfl⟩ := h.exists_eq
  have hindent : ∀ c ∈ "    ".toList, Text.isBlank c = true := List.all_eq_true.mp (by decide)
  have hfront := Text.wordsIn_flatMap (isColumn_of_mem hslang source bytecode)
  rw [Text.words, toList_line, Text.wordsIn_blanks hindent, hfront, rowWords]
  by_cases hfits : payloadBytes < 10000000
  · have hfits' : (payloadBytes : Int) < 10000000 := by omega
    rw [wordsIn_byteColumn_of_lt hfits, if_pos hfits']
    simp [columns, Text.digits]
  · have hfits' : ¬ (payloadBytes : Int) < 10000000 := by omega
    have hglued : String.ofList ("bytecode".toList ++ (Text.grouped payloadBytes).toList) =
        "bytecode" ++ Text.grouped payloadBytes := by
      rw [String.ofList_append, String.ofList_toList, String.ofList_toList]
    rw [wordsIn_byteColumn_of_le (Nat.not_lt.mp hfits), if_neg hfits', List.map_append,
      List.map_cons, hglued]
    simp [columns, Text.digits]

/-- A row is read as the count that it was written for, unless its bytes run into the word in front
of them. -/
theorem ofRow?_line (h : c.IsCount) : ofRow? c.line = some c ↔ c.payloadBytes < 10000000 := by
  rw [ofRow?, words_line h]
  constructor
  · intro hread
    by_contra hfits
    simp [rowWords, hfits] at hread
  · intro hfits
    obtain ⟨slang, -, source, bytecode, payloadBytes, rfl⟩ := h.exists_eq
    simp only at hfits
    simp [rowWords, hfits, Text.toList_digits, TypeText.digits?_toDigits, Text.readGrouped?_grouped]

/-- A row is one line. -/
theorem newline_not_mem_line (h : c.IsCount) : '\n' ∉ c.line.toList := by
  obtain ⟨slang, hslang, source, bytecode, payloadBytes, rfl⟩ := h.exists_eq
  obtain ⟨⟨hname, -⟩, hbackend, -⟩ := fits_of_mem_table hslang
  have hgrouped := (Text.isWord_grouped payloadBytes).newline_not_mem
  have hsource := (Text.isWord_toDigits source).newline_not_mem
  have hbytecode := (Text.isWord_toDigits bytecode).newline_not_mem
  simp [toList_line, columns, toList_byteColumn, hname.newline_not_mem, hbackend.newline_not_mem,
    hsource, hbytecode, hgrouped]

end BackendCount

/-! ## Reports -/

namespace Summary

variable {s : Summary}

/-- The rows of a report about output from a dump are counts. -/
theorem isCount_of_ofOutput {basePath : String} {v : Json} {d : Dump} {inp : ShaderInput}
    {slangs : List Slang} {output : String} {lineCount warningCount : Nat}
    (hd : Dump.ofJson basePath v = .ok d)
    (h : ofOutput inp d.backends slangs output lineCount warningCount = .ok s) :
    ∀ c ∈ s.backends, c.IsCount := by
  obtain ⟨found, hfound, h⟩ := bind_eq_ok.mp h
  obtain ⟨counts, hcounts, h⟩ := bind_eq_ok.mp h
  obtain rfl := pure_eq_ok.mp h
  intro c hc
  obtain ⟨b, hb, hcount⟩ := exists_of_forall₂_right (mapM_eq_ok.mp (mapError_eq_ok.mp hcounts)) hc
  obtain ⟨slang, -, houtput⟩ := exists_of_forall₂_right (mapM_eq_ok.mp hfound) hb
  refine BackendCount.isCount_of_ofBackend ?_ hcount
  unfold outputFor at houtput
  split at houtput
  · next other hget =>
    obtain rfl := Except.ok.inj houtput
    exact Dump.listed_of_ofJson hd hget
  · cases houtput

theorem exists_report_iff :
    (∃ text, s.report = .ok text) ↔ ∀ n ∈ s.numbers, n.natAbs < 10 ^ Text.longestNumeral := by
  have hfind : s.numbers.find? (!Text.hasNumeral ·) = none ↔
      ∀ n ∈ s.numbers, n.natAbs < 10 ^ Text.longestNumeral := by
    simp only [List.find?_eq_none, Bool.not_eq_true', Bool.not_eq_false, Text.hasNumeral_iff]
  rw [← hfind, report]
  cases s.numbers.find? (!Text.hasNumeral ·) with
  | none => simp
  | some n => simp

theorem text_of_report {text : String} (h : s.report = .ok text) : text = s.text := by
  unfold report at h
  split at h
  · cases h
  · exact (Except.ok.inj h).symm

/-- The last line but the empty one at the end. -/
def totalLine (s : Summary) : String :=
  "  Total: " ++ Text.grouped s.lineCount ++ " lines, " ++ Text.numeral s.warningCount
    ++ " warnings"

theorem newline_not_mem_totalLine : '\n' ∉ s.totalLine.toList := by
  have hlines : '\n' ∉ (Text.grouped s.lineCount).toList := fun hmem => by
    rcases Text.mem_grouped hmem with h | h | h <;> exact absurd h (by decide)
  have hwarnings : '\n' ∉ (Text.numeral s.warningCount).toList := fun hmem => by
    rcases Text.mem_numeral hmem with h | h <;> exact absurd h (by decide)
  simp [totalLine, hlines, hwarnings]

/-- The lines of a report end in its rows, an empty line and the total. -/
theorem splitOn_text (h : ∀ c ∈ s.backends, c.IsCount) :
    ∃ front, (s.text.toList.splitOn '\n').map String.ofList =
      front ++ "  Backends:" :: s.backends.map BackendCount.line ++ ["", s.totalLine, ""] := by
  let front := [s.heading, "",
    "  Output:     " ++ s.output,
    "  Programs:   " ++ s.programList,
    "  Uniforms:   " ++ Text.numeral s.uniformBlocks ++ " block structs",
    ""]
  let back := "  Backends:" :: s.backends.map BackendCount.line ++ ["", s.totalLine, ""]
  have htext : s.text.toList = ['\n'].intercalate ((front ++ back).map String.toList) := by
    simp [text, front, back, totalLine]
  have hback : ∀ line ∈ back, '\n' ∉ line.toList := by
    intro line hline
    simp only [back, List.cons_append, List.mem_cons, List.mem_append, List.mem_map,
      List.not_mem_nil, or_false] at hline
    rcases hline with rfl | ⟨c, hc, rfl⟩ | rfl | rfl | rfl
    · decide
    · exact BackendCount.newline_not_mem_line (h c hc)
    · decide
    · exact newline_not_mem_totalLine
    · decide
  have hlines : back.flatMap (fun line => line.toList.splitOn '\n') = back.map String.toList := by
    rw [List.map_eq_flatMap]
    exact List.flatMap_congr fun line hline => List.splitOn_eq_singleton (hback line hline)
  refine ⟨(front.flatMap fun line => line.toList.splitOn '\n').map String.ofList, ?_⟩
  rw [htext, Text.splitOn_intercalate (by simp [front]), List.flatMap_map, List.flatMap_append,
    hlines, List.map_append, List.map_map]
  simp [back, Function.comp_def]

/-- There is a report if all its numbers can be written. The lines in front of its end are the rows,
one for each count: they have the words of the count, and they are read as the count exactly if it
has fewer than ten million bytes. -/
theorem report_readBack_iff (s : Summary) (h : ∀ c ∈ s.backends, c.IsCount) :
    ((∃ text, s.report = .ok text) ↔ ∀ n ∈ s.numbers, n.natAbs < 10 ^ Text.longestNumeral) ∧
    ∀ text, s.report = .ok text → ∃ front rows total,
      (text.toList.splitOn '\n').map String.ofList =
        front ++ "  Backends:" :: rows ++ ["", total, ""] ∧
      List.Forall₂ (fun c row => Text.words row = c.rowWords ∧
        (BackendCount.ofRow? row = some c ↔ c.payloadBytes < 10000000)) s.backends rows := by
  refine ⟨exists_report_iff, fun text htext => ?_⟩
  obtain ⟨front, hlines⟩ := splitOn_text h
  obtain rfl := text_of_report htext
  refine ⟨front, s.backends.map BackendCount.line, s.totalLine, hlines, ?_⟩
  rw [List.forall₂_map_right_iff, List.forall₂_same]
  exact fun c hc => ⟨BackendCount.words_line (h c hc), BackendCount.ofRow?_line (h c hc)⟩

/-- The last number of bytes that is read, and the first that is not. -/
def edgeReport : Summary where
  module := .text "tex"
  output := "o.odin"
  programs := ["p"]
  uniformBlocks := 1
  backends := [⟨"hlsl5", ".D3D11", 1, 1, 9999999⟩, ⟨"wgsl", ".WGPU", 0, 2, 10000000⟩]
  lineCount := 1200
  warningCount := 0

theorem edgeReport_rows : ∃ text, edgeReport.report = .ok text ∧ ∃ front first second total,
    (text.toList.splitOn '\n').map String.ofList =
      front ++ "  Backends:" :: [first, second] ++ ["", total, ""] ∧
    BackendCount.ofRow? first = some ⟨"hlsl5", ".D3D11", 1, 1, 9999999⟩ ∧
    Text.words second =
      ["wgsl", ".WGPU", "2", "source,", "0", "bytecode10,000,000", "bytes"] := by
  have hcounts : ∀ c ∈ edgeReport.backends, c.IsCount := by decide +kernel
  have htext : edgeReport.report = .ok edgeReport.text := by decide +kernel
  obtain ⟨front, rows, total, hlines, hrows⟩ := (report_readBack_iff edgeReport hcounts).2 _ htext
  obtain ⟨first, more, ⟨-, hfirst⟩, hmore, rfl⟩ := List.forall₂_cons_left_iff.mp hrows
  obtain ⟨second, last, ⟨hsecond, -⟩, hlast, rfl⟩ := List.forall₂_cons_left_iff.mp hmore
  obtain rfl := List.forall₂_nil_left_iff.mp hlast
  refine ⟨_, htext, front, first, second, total, hlines, hfirst.mpr (by decide), hsecond.trans ?_⟩
  decide +kernel

/-- A language with more than twelve million bytes. -/
def wideReport : Summary where
  module := .text "tex"
  output := "o.odin"
  programs := ["p"]
  uniformBlocks := 0
  backends := [⟨"wgsl", ".WGPU", 0, 2, 12345678⟩]
  lineCount := 1
  warningCount := 0

theorem wideReport_not_readBack :
    (∀ c ∈ wideReport.backends, c.IsCount) ∧
    wideReport.report = .ok ("Shader module 'tex' generated:\n\n  Output:     o.odin\n" ++
      "  Programs:   p\n  Uniforms:   0 block structs\n\n  Backends:\n" ++
      "    wgsl         .WGPU             2 source, 0 bytecode12,345,678 bytes\n\n" ++
      "  Total: 1 lines, 0 warnings\n") ∧
    Text.words "    wgsl         .WGPU             2 source, 0 bytecode12,345,678 bytes" =
      ["wgsl", ".WGPU", "2", "source,", "0", "bytecode12,345,678", "bytes"] ∧
    BackendCount.ofRow?
      "    wgsl         .WGPU             2 source, 0 bytecode12,345,678 bytes" = none := by
  refine ⟨?_, ?_, ?_, ?_⟩
  · decide +kernel
  · decide +kernel
  · decide +kernel
  · decide +kernel

end Summary

end ShaderBindings
