/-
  The payload of a snippet: when there is one (`exists_ofSnippet_eq_ok`), what the name of its
  array tells (`arrayName_inj`), and how it is declared (`declaredLength?`, `literalCount`). A
  name is read from its end. No language's name ends in that of another, so the end tells the
  language; what stands before it tells bytecode from source; the rest is the snippet, whatever
  characters it has.
-/
import ShaderBindings.Payload.Embedding
import ShaderBindings.Proofs.Fallible
import ShaderBindings.Proofs.Slang

namespace ShaderBindings.Payload

variable {namePrefix snippet other : String} {b c : BackendOutput}

/-- A snippet has a payload if it has bytecode or a source. -/
theorem exists_ofSnippet_eq_ok :
    (∃ p, ofSnippet namePrefix snippet b = .ok p) ↔
      (b.blob? snippet).isSome = true ∨ (b.source? snippet).isSome = true := by
  unfold ofSnippet
  cases b.blob? snippet with
  | some blob => simp
  | none =>
    cases b.source? snippet with
    | some source => simp
    | none => simp

theorem exists_ofSnippet_of_source (namePrefix : String) {source : StageSource}
    (h : b.source? snippet = some source) : ∃ p, ofSnippet namePrefix snippet b = .ok p := by
  refine exists_ofSnippet_eq_ok.mpr (.inr ?_)
  rw [h]
  rfl

/-- A payload is bytecode when there is some for the snippet. -/
theorem isBytecode_eq {p : Payload} (h : ofSnippet namePrefix snippet b = .ok p) :
    p.isBytecode = (b.blob? snippet).isSome := by
  unfold ofSnippet at h
  split at h
  · next blob hblob =>
    obtain rfl := Except.ok.inj h
    rw [hblob]
    rfl
  · next hblob =>
    split at h
    · obtain rfl := Except.ok.inj h
      rw [hblob]
      rfl
    · simp at h

/-! ## Names -/

/-- What stands between the snippet and the language in the name of an array. -/
def infixOf (isBytecode : Bool) : List Char :=
  if isBytecode then "_bytecode_".toList else "_source_".toList

theorem toList_arrayName {p : Payload} (h : ofSnippet namePrefix snippet b = .ok p) :
    p.arrayName.toList =
      namePrefix.toList ++ (snippet.toList ++ infixOf p.isBytecode) ++ b.slang.name.toList := by
  unfold ofSnippet at h
  split at h
  · obtain rfl := Except.ok.inj h
    simp [infixOf]
  · split at h
    · obtain rfl := Except.ok.inj h
      simp [infixOf]
    · simp at h

/-- The two sorts of names end differently. -/
theorem append_infixOf_inj {cs ds : List Char} {x y : Bool}
    (h : cs ++ infixOf x = ds ++ infixOf y) : cs = ds ∧ x = y := by
  -- from the right, the two differ in the third character
  have hrev := congrArg List.reverse h
  cases x <;> cases y <;> simp [infixOf] at hrev h
  · exact ⟨h, rfl⟩
  · exact ⟨h, rfl⟩

/-- An array name tells the snippet. -/
theorem snippet_eq_of_arrayName_eq {p q : Payload} (hp : ofSnippet namePrefix snippet b = .ok p)
    (hq : ofSnippet namePrefix other b = .ok q) (h : p.arrayName = q.arrayName) :
    snippet = other := by
  have hlist := congrArg String.toList h
  rw [toList_arrayName hp, toList_arrayName hq] at hlist
  have hmiddle := List.append_cancel_left (List.append_cancel_right hlist)
  exact String.toList_injective (append_infixOf_inj hmiddle).1

/-- An array name tells the snippet, whether the array holds bytecode, and the language. -/
theorem arrayName_inj {p q : Payload} (hb : b.slang.name ∈ Slang.names)
    (hc : c.slang.name ∈ Slang.names) (hp : ofSnippet namePrefix snippet b = .ok p)
    (hq : ofSnippet namePrefix other c = .ok q) (h : p.arrayName = q.arrayName) :
    snippet = other ∧ p.isBytecode = q.isBytecode ∧ b.slang.name = c.slang.name := by
  have hlist := congrArg String.toList h
  rw [toList_arrayName hp, toList_arrayName hq] at hlist
  have hslang := Slang.name_eq_of_append_eq hb hc hlist
  rw [hslang] at hlist
  have hmiddle := List.append_cancel_left (List.append_cancel_right hlist)
  obtain ⟨hsnippet, hbytecode⟩ := append_infixOf_inj hmiddle
  exact ⟨String.toList_injective hsnippet, hbytecode, hslang⟩

/-! ## Declarations -/

/-- The number in front of a text at the end of a line. -/
def declaredLength? (line : String) : Option Nat :=
  let cs := line.toList.reverse
  if "]u8 \x7b".toList.reverse.isPrefixOf cs then
    some (Nat.ofDigitChars 10 ((cs.drop 5).takeWhile Char.isDigit).reverse 0)
  else none

theorem declaredLength?_eq_none {line : String} (h : line.toList.getLast? ≠ some '\x7b') :
    declaredLength? line = none := by
  refine if_neg fun hprefix => ?_
  obtain ⟨rest, hline⟩ := List.isPrefixOf_iff_prefix.mp hprefix
  rw [← List.head?_reverse, ← hline] at h
  simp at h

/-- The length of an array is read from its declaration as it was written. -/
theorem declaredLength?_declaration (name : String) (n : Nat) :
    declaredLength? (name ++ " := [" ++ Text.digits n ++ "]u8 \x7b") = some n := by
  have hdigits : ∀ c ∈ (Nat.toDigits 10 n).reverse, c.isDigit = true := fun c hc =>
    Nat.isDigit_of_mem_toDigits (by decide) (by decide) (List.mem_reverse.mp hc)
  have hline : (name ++ " := [" ++ Text.digits n ++ "]u8 \x7b").toList.reverse =
      "]u8 \x7b".toList.reverse ++
        ((Nat.toDigits 10 n).reverse ++ '[' :: (name ++ " := ").toList.reverse) := by
    simp [Text.toList_digits]
  have hread : (((Nat.toDigits 10 n).reverse ++ '[' :: (name ++ " := ").toList.reverse).takeWhile
      Char.isDigit).reverse = Nat.toDigits 10 n := by
    rw [List.takeWhile_append_of_pos hdigits, List.takeWhile_cons_of_neg (by decide),
      List.append_nil, List.reverse_reverse]
  unfold declaredLength?
  simp only [hline]
  rw [if_pos (List.isPrefixOf_iff_prefix.mpr (List.prefix_append _ _))]
  refine congrArg some ?_
  change Nat.ofDigitChars 10 (((Nat.toDigits 10 n).reverse ++
    '[' :: (name ++ " := ").toList.reverse).takeWhile Char.isDigit).reverse 0 = n
  rw [hread, Nat.ofDigitChars_ten_toDigits]

/-- How many byte literals there are in lines: each ends in a comma. -/
def literalCount (lines : List String) : Nat := (lines.flatMap String.toList).count ','

/-- The rows are the bytes in order. -/
theorem flatten_rows (data : Bytes) : (rows data).flatten = data := by
  fun_induction rows data with
  | case1 data h => simpa using h.symm
  | case2 data h ih => rw [List.flatten_cons, ih, List.take_append_drop]

theorem count_comma_literal (byte : UInt8) : (literal byte).toList.count ',' = 1 := by
  have hdigit : ∀ n < 16, Nat.digitChar n ≠ ',' := by decide
  have hhigh := hdigit (byte.toNat / 16) (by have := byte.toNat_lt; omega)
  have hlow := hdigit (byte.toNat % 16) (Nat.mod_lt _ (by decide))
  simp [literal, Bytes.hexByte, hhigh, hlow]

/-- No brace stands among literals. -/
theorem brace_not_mem_line {indent : String} (h : '\x7b' ∉ indent.toList) (row : Bytes) :
    '\x7b' ∉ (indent ++ String.join (row.map literal)).toList := by
  have hdigit : ∀ n < 16, '\x7b' ≠ Nat.digitChar n := by decide
  simp only [String.toList_append, String.toList_join, List.mem_append, List.mem_flatMap,
    List.mem_map]
  rintro (hmem | ⟨_, ⟨byte, -, rfl⟩, hmem⟩)
  · exact h hmem
  · have hhigh := hdigit (byte.toNat / 16) (by have := byte.toNat_lt; omega)
    have hlow := hdigit (byte.toNat % 16) (Nat.mod_lt _ (by decide))
    simp [literal, Bytes.hexByte, hhigh, hlow] at hmem

/-- There are as many literals as bytes. -/
theorem literalCount_byteLines {indent : String} (h : ',' ∉ indent.toList) (data : Bytes) :
    literalCount (byteLines indent data) = data.length := by
  have hrow (row : Bytes) :
      (indent ++ String.join (row.map literal)).toList.count ',' = row.length := by
    rw [String.toList_append, List.count_append, List.count_eq_zero.mpr h, String.toList_join,
      List.flatMap_map, List.count_flatMap]
    simp [Function.comp_def, count_comma_literal]
  calc literalCount (byteLines indent data)
      = ((rows data).map List.length).sum := by
        unfold literalCount byteLines
        rw [List.flatMap_map, List.count_flatMap]
        simp only [Function.comp_def, hrow]
    _ = data.length := by rw [← List.length_flatten, flatten_rows]

end ShaderBindings.Payload
