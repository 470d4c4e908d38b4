/-
  Nothing is lost in a generated array. Its text is read back literal by literal, whatever white
  space indents the lines (`readBytes_byteLines`), and gives the bytes and the length that is
  declared for them (`readArray?_arrayLines`). The bytes of a source text give the text, up to
  the zero at their end; up to the first zero they do unless there is one in the text
  (`Carries`, `carries_ofSource`).
-/
import Mathlib.Data.List.TakeWhile
import ShaderBindings.Proofs.Bytes
import ShaderBindings.Proofs.Payload
import ShaderBindings.Proofs.Text.Lines

namespace ShaderBindings.Payload

/-! ## Reading an array -/

/-- Reads literals with white space between them, and nothing else. -/
def readBytes : List Char → Option Bytes
  | [] => some []
  | '0' :: 'x' :: high :: low :: ',' :: rest => do
    let b := Bytes.ofNibbles (← Bytes.hexValue? high) (← Bytes.hexValue? low)
    return b :: (← readBytes rest)
  | c :: rest => if Text.isBlank c then readBytes rest else none

/-- Reads a declared array from its end: the bytes between its braces, and the length in front of
them. -/
def readArray? (text : String) : Option (Nat × Bytes) :=
  match text.toList.reverse with
  | '\x7d' :: back => do
    let data ← readBytes (back.takeWhile (· ≠ '\x7b')).reverse
    let length ← declaredLength? (String.ofList (back.dropWhile (· ≠ '\x7b')).reverse)
    return (length, data)
  | _ => none

/-- The bytes of an array up to the first zero. -/
def cString (data : Bytes) : Bytes := data.takeWhile (· ≠ 0)

/-! ## Literals -/

variable {cs : List Char} {indent : String}

theorem readBytes_blank (h : ∀ c ∈ cs, Text.isBlank c = true) (rest : List Char) :
    readBytes (cs ++ rest) = readBytes rest := by
  induction cs with
  | nil => rfl
  | cons c cs ih =>
    obtain ⟨hc, hcs⟩ := List.forall_mem_cons.mp h
    have hzero : c ≠ '0' := by
      rintro rfl
      exact absurd hc (by decide)
    rw [List.cons_append, readBytes, if_pos hc, ih hcs]
    rintro _ _ _ rfl
    exact absurd rfl hzero

theorem readBytes_literal (b : UInt8) (rest : List Char) :
    readBytes ((literal b).toList ++ rest) = (readBytes rest).map (b :: ·) := by
  have hb := UInt8.toNat_lt b
  have htext : (literal b).toList =
      ['0', 'x', Nat.digitChar (b.toNat / 16), Nat.digitChar (b.toNat % 16), ','] := by
    simp [literal, Bytes.hexByte]
  obtain ⟨hhigh, -, -⟩ := Bytes.hexDigit_read (b.toNat / 16) (by omega)
  obtain ⟨hlow, -, -⟩ := Bytes.hexDigit_read (b.toNat % 16) (by omega)
  rw [htext]
  simp only [List.cons_append, List.nil_append, readBytes, hhigh, hlow]
  cases readBytes rest with
  | none => rfl
  | some more => exact congrArg (fun b' => some (b' :: more)) (Bytes.ofNibbles_div_mod b)

/-- A row is read from its literals. -/
theorem readBytes_row (row : Bytes) (rest : List Char) :
    readBytes ((String.join (row.map literal)).toList ++ rest) =
      (readBytes rest).map (row ++ ·) := by
  rw [String.toList_join, List.flatMap_map]
  induction row with
  | nil => simp
  | cons b row ih =>
    rw [List.flatMap_cons, List.append_assoc, readBytes_literal, ih, Option.map_map]
    rfl

/-- The characters of a line. -/
def lineText (indent : String) (row : Bytes) : List Char :=
  (indent ++ String.join (row.map literal)).toList

theorem map_toList_byteLines (indent : String) (data : Bytes) :
    (byteLines indent data).map String.toList = (rows data).map (lineText indent) := by
  rw [byteLines, List.map_map]
  rfl

/-- A line is read as its row. -/
theorem readBytes_lineText (h : ∀ c ∈ indent.toList, Text.isBlank c = true) (row : Bytes)
    (rest : List Char) :
    readBytes (lineText indent row ++ rest) = (readBytes rest).map (row ++ ·) := by
  rw [lineText, String.toList_append, List.append_assoc, readBytes_blank h, readBytes_row]

/-- Lines are read one behind the other, each with a line feed in front of it. -/
theorem readBytes_lines (h : ∀ c ∈ indent.toList, Text.isBlank c = true) (rows : List Bytes)
    (rest : List Char) :
    readBytes ((rows.map (lineText indent)).flatMap ('\n' :: ·) ++ rest) =
      (readBytes rest).map (rows.flatten ++ ·) := by
  have hfeed : ∀ c ∈ ['\n'], Text.isBlank c = true := List.all_eq_true.mp (by decide)
  induction rows with
  | nil => simp
  | cons row rows ih =>
    rw [List.map_cons, List.flatMap_cons, ← List.singleton_append, List.append_assoc,
      List.append_assoc, readBytes_blank hfeed, readBytes_lineText h, ih, Option.map_map,
      List.flatten_cons]
    simp only [Function.comp_def, List.append_assoc]

/-- The bytes are read from the lines of their literals. -/
theorem readBytes_byteLines (h : ∀ c ∈ indent.toList, Text.isBlank c = true) (data : Bytes) :
    readBytes ("\n".intercalate (byteLines indent data)).toList = some data := by
  have hlines := readBytes_lines h (rows data) []
  rw [List.append_nil, flatten_rows] at hlines
  rw [String.toList_intercalate, map_toList_byteLines]
  change readBytes (['\n'].intercalate ((rows data).map (lineText indent))) = some data
  cases hrows : (rows data).map (lineText indent) with
  | nil =>
    rw [hrows] at hlines
    simpa [readBytes] using hlines
  | cons line lines =>
    -- the first line has no line feed in front of it, which makes no difference
    rw [hrows, List.flatMap_cons, List.cons_append, ← List.singleton_append,
      readBytes_blank (List.all_eq_true.mp (by decide))] at hlines
    rw [Text.intercalate_cons, hlines]
    simp [readBytes]

/-! ## Rows -/

theorem length_rows (data : Bytes) : (rows data).length = (data.length + 15) / 16 := by
  fun_induction rows data with
  | case1 data h => simp_all
  | case2 data h ih =>
    have hpos : 0 < data.length := List.length_pos_iff.mpr (by simpa using h)
    rw [List.length_cons, ih, List.length_drop]
    omega

theorem ne_nil_of_mem_rows {data row : Bytes} (h : row ∈ rows data) : row ≠ [] := by
  fun_induction rows data with
  | case1 data h' => simp at h
  | case2 data hdata ih =>
    rcases List.mem_cons.mp h with rfl | hrow
    · simpa [List.take_eq_nil_iff] using hdata
    · exact ih hrow

/-- All rows but the last are full. -/
theorem length_of_mem_dropLast_rows {data row : Bytes} (h : row ∈ (rows data).dropLast) :
    row.length = 16 := by
  fun_induction rows data with
  | case1 data h' => simp at h
  | case2 data hdata ih =>
    -- there is a row behind the first one only if more than sixteen bytes are left
    by_cases hrest : rows (data.drop 16) = []
    · simp [hrest] at h
    · rw [List.dropLast_cons_of_ne_nil hrest] at h
      rcases List.mem_cons.mp h with rfl | hrow
      · have hlength := length_rows (data.drop 16)
        have hpos := List.length_pos_iff.mpr hrest
        rw [List.length_drop] at hlength
        rw [List.length_take]
        omega
      · exact ih hrow

/-! ## Arrays -/

/-- An array is read at its braces. -/
theorem readArray?_eq {text : String} {front body : List Char}
    (htext : text.toList = front ++ '\x7b' :: (body ++ ['\x7d'])) (h : '\x7b' ∉ body) :
    readArray? text = (readBytes body).bind fun data =>
      (declaredLength? (String.ofList (front ++ ['\x7b']))).map (·, data) := by
  have hback : text.toList.reverse = '\x7d' :: (body.reverse ++ '\x7b' :: front.reverse) := by
    rw [htext]
    simp
  have hbody : ∀ c ∈ body.reverse, decide (c ≠ '\x7b') = true := fun c hc =>
    decide_eq_true (ne_of_mem_of_not_mem (List.mem_reverse.mp hc) h)
  unfold readArray?
  simp only [hback]
  rw [List.takeWhile_append_of_pos hbody, List.takeWhile_cons_of_neg (by decide),
    List.dropWhile_append_of_pos hbody, List.dropWhile_cons_of_neg (by decide), List.append_nil,
    List.reverse_reverse, List.reverse_cons, List.reverse_reverse]
  cases readBytes body with
  | none => rfl
  | some data => cases declaredLength? (String.ofList (front ++ ['\x7b'])) <;> rfl

/-- What stands between the braces of an array. -/
def between (data : Bytes) : List Char :=
  ((rows data).map (lineText "    ")).flatMap ('\n' :: ·) ++ ['\n']

theorem readBytes_between (data : Bytes) : readBytes (between data) = some data := by
  rw [between, readBytes_lines (List.all_eq_true.mp (by decide)), flatten_rows]
  simp [readBytes, show Text.isBlank '\n' = true by decide]

theorem brace_not_mem_between (data : Bytes) : '\x7b' ∉ between data := by
  simp only [between, List.mem_append, List.mem_flatMap, List.mem_cons, not_or]
  refine ⟨?_, by decide⟩
  rintro ⟨line, hline, hmem⟩
  obtain ⟨row, -, rfl⟩ := List.mem_map.mp hline
  exact brace_not_mem_line (by decide) row (hmem.resolve_left (by decide))

theorem toList_arrayLines (name : String) (data : Bytes) :
    ("\n".intercalate (arrayLines name data)).toList = "@(private)\n".toList ++
      (name.toList ++ (" := [" ++ Text.digits data.length ++ "]u8 ").toList) ++
        '\x7b' :: (between data ++ ['\x7d']) := by
  unfold arrayLines
  rw [String.toList_intercalate, List.map_append, List.map_append, map_toList_byteLines,
    List.map_cons, List.cons_append, List.cons_append]
  change ['\n'].intercalate _ = _
  rw [Text.intercalate_cons]
  simp [between]

/-- A generated array is read as its bytes and how many there are. -/
theorem readArray?_arrayLines (name : String) (data : Bytes) :
    readArray? ("\n".intercalate (arrayLines name data)) = some (data.length, data) := by
  have hdeclaration : String.ofList ("@(private)\n".toList ++
      (name.toList ++ (" := [" ++ Text.digits data.length ++ "]u8 ").toList) ++ ['\x7b']) =
      "@(private)\n" ++ name ++ " := [" ++ Text.digits data.length ++ "]u8 \x7b" :=
    String.toList_injective (by simp)
  rw [readArray?_eq (toList_arrayLines name data) (brace_not_mem_between data), hdeclaration,
    declaredLength?_declaration, readBytes_between]
  rfl

/-- The text of an array gives its name and its bytes. -/
theorem arrayLines_inj {name other : String} {data data' : Bytes} :
    "\n".intercalate (arrayLines name data) = "\n".intercalate (arrayLines other data') ↔
      name = other ∧ data = data' := by
  constructor
  · intro h
    have hread := readArray?_arrayLines name data
    rw [h, readArray?_arrayLines] at hread
    obtain rfl := (Prod.mk.inj (Option.some.inj hread)).2
    have htext := congrArg String.toList h
    rw [toList_arrayLines, toList_arrayLines] at htext
    have hfront := List.append_cancel_left (List.append_cancel_right htext)
    exact ⟨String.toList_injective (List.append_cancel_right hfront), rfl⟩
  · rintro ⟨rfl, rfl⟩
    rfl

/-! ## Sources -/

/-- The bytes are those of the text and a zero behind them; up to the first zero they are those of
the text exactly if it has no zero itself. -/
structure Carries (data : Bytes) (source : String) : Prop where
  terminated : data.getLast? = some 0
  text : Bytes.text? data.dropLast = some source
  cString : Bytes.text? (cString data) = some source ↔ '\x00' ∉ source.toList

theorem zero_mem_ofText (s : String) : 0 ∈ Bytes.ofText s ↔ '\x00' ∈ s.toList := by
  have hcount := Bytes.count_ofText (c := '\x00') (by decide) s
  rw [← List.count_pos_iff, ← List.count_pos_iff]
  exact hcount ▸ Iff.rfl

theorem carries_ofSource (source : String) : Carries (ofSource source) source where
  terminated := by simp [ofSource]
  text := by rw [ofSource, List.dropLast_concat, Bytes.text?_eq_some]
  cString := by
    rw [Bytes.text?_eq_some, ← zero_mem_ofText, cString, ofSource]
    constructor
    · intro h hzero
      rw [← h] at hzero
      exact absurd (List.mem_takeWhile_imp hzero) (by decide)
    · intro h
      have hbytes : ∀ b ∈ Bytes.ofText source, decide (b ≠ 0) = true := fun b hb =>
        decide_eq_true (ne_of_mem_of_not_mem hb h)
      rw [List.takeWhile_append_of_pos hbytes, List.takeWhile_cons_of_neg (by decide),
        List.append_nil]

/-- The payload of a snippet without bytecode is that of its source. -/
theorem exists_source_of_not_bytecode {namePrefix snippet : String} {b : BackendOutput}
    {p : Payload} (h : ofSnippet namePrefix snippet b = .ok p) (hsource : p.isBytecode = false) :
    ∃ source, b.source? snippet = some source ∧ p.data = ofSource source.sourceCode := by
  unfold ofSnippet at h
  split at h
  · obtain rfl := Except.ok.inj h
    simp at hsource
  · split at h
    · next source hfound =>
      obtain rfl := Except.ok.inj h
      exact ⟨source, hfound, rfl⟩
    · simp at h

/-- Embedding is lossless: the literals are read back as the bytes, sixteen from each line but the
last, which has some; the text of an array gives its bytes and their number, so that it is the text
of no others; and a source text is read from its payload. -/
theorem embedding_lossless :
    (∀ (indent : String) (data : Bytes), (∀ c ∈ indent.toList, Text.isBlank c = true) →
      readBytes ("\n".intercalate (byteLines indent data)).toList = some data ∧
      ∃ rows : List Bytes, rows.flatten = data ∧ rows.length = (data.length + 15) / 16 ∧
        (∀ row ∈ rows, row ≠ []) ∧ (∀ row ∈ rows.dropLast, row.length = 16) ∧
        List.Forall₂ (fun line row => readBytes line.toList = some row)
          (byteLines indent data) rows) ∧
    (∀ name data,
      readArray? ("\n".intercalate (arrayLines name data)) = some (data.length, data)) ∧
    (∀ name other data data', "\n".intercalate (arrayLines name data) =
      "\n".intercalate (arrayLines other data') ↔ name = other ∧ data = data') ∧
    (∀ source, Carries (ofSource source) source) ∧
    ∀ namePrefix snippet b p, ofSnippet namePrefix snippet b = .ok p → p.isBytecode = false →
      ∃ source, b.source? snippet = some source ∧ Carries p.data source.sourceCode := by
  refine ⟨fun indent data hindent => ⟨readBytes_byteLines hindent data, rows data,
      flatten_rows data, length_rows data, fun row => ne_nil_of_mem_rows,
      fun row => length_of_mem_dropLast_rows, ?_⟩,
    readArray?_arrayLines, fun _ _ _ _ => arrayLines_inj, carries_ofSource,
    fun namePrefix snippet b p h hp => ?_⟩
  · unfold byteLines
    rw [List.forall₂_map_left_iff, List.forall₂_same]
    intro row _
    have hline := readBytes_lineText hindent row []
    rwa [List.append_nil, readBytes, Option.map_some, List.append_nil] at hline
  · obtain ⟨source, hfound, hdata⟩ := exists_source_of_not_bytecode h hp
    exact ⟨source, hfound, hdata ▸ carries_ofSource source.sourceCode⟩

/-- A source with a zero in the middle. -/
def zeroOutput : BackendOutput where
  slang := ⟨"wgsl", "wgsl", ".WGPU", 0⟩
  sources := [⟨"v", "é\x00fn main", { stage := "vs" }⟩]
  blobs := []

/-- Its payload gives the text, but what stands before the first zero does not. -/
theorem zeroOutput_lossless : ∃ p, ofSnippet "" "v" zeroOutput = .ok p ∧
    readBytes ("\n".intercalate (byteLines "\t" p.data)).toList = some p.data ∧
    Bytes.text? p.data.dropLast = some "é\x00fn main" ∧
    Bytes.text? (cString p.data) ≠ some "é\x00fn main" := by
  have hsource : zeroOutput.source? "v" = some ⟨"v", "é\x00fn main", { stage := "vs" }⟩ := rfl
  obtain ⟨p, hp⟩ := exists_ofSnippet_of_source "" hsource
  obtain ⟨hlines, -, -, -, hsources⟩ := embedding_lossless
  have hbytecode : p.isBytecode = false := isBytecode_eq hp
  obtain ⟨source, hfound, hcarries⟩ := hsources "" "v" zeroOutput p hp hbytecode
  obtain rfl := Option.some.inj hfound
  exact ⟨p, hp, (hlines "\t" p.data (List.all_eq_true.mp (by decide))).1, hcarries.text,
    fun hstring => hcarries.cString.mp hstring (by decide)⟩

end ShaderBindings.Payload
