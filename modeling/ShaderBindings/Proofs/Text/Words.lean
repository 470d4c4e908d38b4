/-
  Words of a text (`Text.wordsIn`), which stand between white space (`wordsIn_append`), and the
  numbers among them: plain numerals and numerals with a comma between groups of three digits
  (`readGrouped?`, which reads back what is written: `readGrouped?_grouped`).
-/
import Mathlib
import ShaderBindings.Proofs.Layout.TypeText
import ShaderBindings.Proofs.Text.Lines

namespace ShaderBindings.Text

/-! ## Splitting at white space -/

/-- The words of a list of characters. -/
def wordsIn (cs : List Char) : List (List Char) := (cs.splitOnP isBlank).filter (· ≠ [])

/-- The words of a text. -/
def words (s : String) : List String := (wordsIn s.toList).map String.ofList

/-- White space between words. -/
def IsGap (gap : List Char) : Prop := gap ≠ [] ∧ ∀ c ∈ gap, isBlank c = true

def IsWord (word : List Char) : Prop := word ≠ [] ∧ ∀ c ∈ word, isBlank c = false

-- The characters are gone through in the text, and not all that there are.
instance : DecidablePred IsGap := fun gap =>
  decidable_of_iff (gap ≠ [] ∧ gap.all isBlank = true) (by simp [IsGap])

instance : DecidablePred IsWord := fun word =>
  decidable_of_iff (word ≠ [] ∧ word.all (!isBlank ·) = true) (by simp [IsWord])

variable {cs gap word : List Char}

theorem isGap_blanks {n : Nat} (h : 0 < n) : IsGap (List.replicate n ' ') := by
  refine ⟨fun hnil => ?_, fun c hc => ?_⟩
  · rw [List.replicate_eq_nil_iff] at hnil
    exact absurd hnil h.ne'
  · rw [List.eq_of_mem_replicate hc]
    decide

theorem IsWord.append {more : List Char} (h : IsWord word) (hmore : IsWord more) :
    IsWord (word ++ more) := by
  refine ⟨fun hnil => h.1 (List.append_eq_nil_iff.mp hnil).1, fun c hc => ?_⟩
  rcases List.mem_append.mp hc with hc | hc
  · exact h.2 c hc
  · exact hmore.2 c hc

/-- White space in front of a text is no part of its words. -/
theorem wordsIn_blanks (h : ∀ c ∈ gap, isBlank c = true) (cs : List Char) :
    wordsIn (gap ++ cs) = wordsIn cs := by
  induction gap with
  | nil => rfl
  | cons c gap ih =>
    obtain ⟨hc, hgap⟩ := List.forall_mem_cons.mp h
    rw [← ih hgap, List.cons_append, wordsIn, List.splitOnP_cons_eq_if_modifyHead, if_pos hc]
    rfl

theorem wordsIn_word (h : IsWord word) : wordsIn word = [word] := by
  rw [wordsIn, List.splitOnP_eq_singleton h.2]
  simp [h.1]

/-- A word ends at white space. -/
theorem wordsIn_append (hword : IsWord word) (hgap : IsGap gap) (cs : List Char) :
    wordsIn (word ++ (gap ++ cs)) = word :: wordsIn cs := by
  obtain ⟨c, rest, rfl⟩ := List.exists_cons_of_ne_nil hgap.1
  obtain ⟨hc, hrest⟩ := List.forall_mem_cons.mp hgap.2
  have hsplit : wordsIn (word ++ c :: (rest ++ cs)) = wordsIn word ++ wordsIn (rest ++ cs) := by
    rw [wordsIn, List.splitOnP_append_cons _ _ hc, List.filter_append]
    rfl
  rw [List.cons_append, hsplit, wordsIn_word hword, wordsIn_blanks hrest, List.singleton_append]

/-- Words with white space behind each of them, in front of any text. -/
theorem wordsIn_flatMap {parts : List (List Char × List Char)}
    (h : ∀ part ∈ parts, IsWord part.1 ∧ IsGap part.2) (cs : List Char) :
    wordsIn (parts.flatMap (fun part => part.1 ++ part.2) ++ cs) =
      parts.map Prod.fst ++ wordsIn cs := by
  induction parts with
  | nil => rfl
  | cons part parts ih =>
    obtain ⟨⟨hword, hgap⟩, hparts⟩ := List.forall_mem_cons.mp h
    rw [List.flatMap_cons, List.append_assoc, List.append_assoc, wordsIn_append hword hgap,
      ih hparts, List.map_cons, List.cons_append]

/-! ## Numerals -/

theorem isBlank_of_isDigit {c : Char} (h : c.isDigit = true) : isBlank c = false := by
  obtain ⟨hlow, hhigh⟩ := Char.isDigit_iff_toNat.mp h
  have hzero : '0'.toNat = 0x30 := rfl
  have hnine : '9'.toNat = 0x39 := rfl
  exact (not_blank_of_visible (by omega) (by omega)).1

/-- A word is on one line. -/
theorem IsWord.newline_not_mem (h : IsWord word) : '\n' ∉ word := fun hmem =>
  absurd (h.2 _ hmem) (by decide)

theorem isWord_toDigits (n : Nat) : IsWord (Nat.toDigits 10 n) :=
  ⟨Nat.toDigits_ne_nil, fun _ hc =>
    isBlank_of_isDigit (Nat.isDigit_of_mem_toDigits (by decide) (by decide) hc)⟩

theorem hasNumeral_iff {n : Int} : hasNumeral n = true ↔ n.natAbs < 10 ^ longestNumeral := by
  rw [hasNumeral, decide_eq_true_eq, Nat.length_toDigits_le_iff (by decide) (by decide)]

/-! ## Numerals with commas -/

/-- Reads a numeral that has a comma in front of every three digits, counted from the right. -/
def readGrouped? (s : String) : Option Nat :=
  match s.toList.splitOn ',' with
  | [] => none
  | first :: rest =>
    if 0 < first.length ∧ first.length ≤ 3 ∧ ∀ group ∈ rest, group.length = 3 then
      TypeText.digits? (first ++ rest.flatten)
    else none

theorem grouped_natCast (n : Nat) :
    grouped (n : Int) = String.ofList (separated (Nat.toDigits 10 n)) := by
  have h : ¬ (n : Int) < 0 := Int.not_lt.mpr (Int.natCast_nonneg n)
  simp [grouped, h]

theorem mem_separated {c : Char} (h : c ∈ separated cs) : c = ',' ∨ c ∈ cs := by
  induction cs with
  | nil => exact .inr h
  | cons d cs ih =>
    unfold separated at h
    split at h
    · simp only [List.mem_cons] at h ⊢
      tauto
    · simp only [List.mem_cons] at h ⊢
      tauto

/-- A numeral with commas has digits besides, and a minus sign if it is negative. -/
theorem mem_grouped {c : Char} {n : Int} (h : c ∈ (grouped n).toList) :
    c = '-' ∨ c = ',' ∨ c.isDigit = true := by
  have hbody (h : c ∈ (String.ofList (separated (Nat.toDigits 10 n.natAbs))).toList) :
      c = ',' ∨ c.isDigit = true := by
    rw [String.toList_ofList] at h
    exact (mem_separated h).imp_right (Nat.isDigit_of_mem_toDigits (by decide) (by decide))
  unfold grouped at h
  split at h
  · rw [String.toList_append, List.mem_append] at h
    exact h.imp List.mem_singleton.mp hbody
  · exact .inr (hbody h)

theorem separated_ne_nil (h : cs ≠ []) : separated cs ≠ [] := by
  obtain ⟨c, rest, rfl⟩ := List.exists_cons_of_ne_nil h
  unfold separated
  split
  · exact List.cons_ne_nil _ _
  · exact List.cons_ne_nil _ _

theorem isWord_grouped (n : Nat) : IsWord (grouped n).toList := by
  rw [grouped_natCast, String.toList_ofList]
  refine ⟨separated_ne_nil Nat.toDigits_ne_nil, fun c hc => ?_⟩
  rcases mem_separated hc with rfl | hc
  · decide
  · exact (isWord_toDigits n).2 c hc

/-- There is a comma for every three digits behind the first. -/
theorem length_separated (cs : List Char) :
    (separated cs).length = cs.length + (cs.length - 1) / 3 := by
  induction cs with
  | nil => rfl
  | cons c rest ih =>
    unfold separated
    split
    · next h =>
      have hpos : 0 < rest.length := List.length_pos_iff.mpr h.2
      simp only [List.length_cons, ih]
      omega
    · next h =>
      have hlength : rest.length % 3 ≠ 0 ∨ rest.length = 0 := by
        by_cases hnil : rest = []
        · exact .inr (List.length_eq_zero_iff.mpr hnil)
        · exact .inl fun hzero => h ⟨hzero, hnil⟩
      simp only [List.length_cons, ih]
      omega

/-- The groups between the commas: three digits each, but for the first, and together all digits. -/
theorem splitOn_separated (hne : cs ≠ []) (h : ',' ∉ cs) :
    ∃ first rest, (separated cs).splitOn ',' = first :: rest ∧
      first.length = (cs.length - 1) % 3 + 1 ∧ (∀ group ∈ rest, group.length = 3) ∧
      first ++ rest.flatten = cs := by
  induction cs with
  | nil => exact absurd rfl hne
  | cons c tail ih =>
    have hc : (c == ',') = false := beq_false_of_ne (List.ne_of_not_mem_cons h).symm
    by_cases htail : tail = []
    · subst htail
      refine ⟨[c], [], ?_, rfl, List.forall_mem_nil _, rfl⟩
      simp [separated, List.splitOn_cons_eq_if_modifyHead, hc]
    obtain ⟨first, rest, hsplit, hfirst, hrest, hall⟩ := ih htail (List.not_mem_of_not_mem_cons h)
    have hpos : 0 < tail.length := List.length_pos_iff.mpr htail
    by_cases hthree : tail.length % 3 = 0
    · -- a comma behind the digit, so that what was the first group is a whole one
      have hsep : separated (c :: tail) = c :: ',' :: separated tail := by
        rw [separated, if_pos ⟨hthree, htail⟩]
      refine ⟨[c], first :: rest, ?_, ?_, List.forall_mem_cons.mpr ⟨?_, hrest⟩, ?_⟩
      · simp [hsep, List.splitOn_cons_eq_if_modifyHead, hc, hsplit]
      · simp only [List.length_cons, List.length_nil]
        omega
      · omega
      · rw [List.flatten_cons, hall, List.singleton_append]
    · have hsep : separated (c :: tail) = c :: separated tail := by
        rw [separated, if_neg fun h => hthree h.1]
      refine ⟨c :: first, rest, ?_, ?_, hrest, ?_⟩
      · simp [hsep, List.splitOn_cons_eq_if_modifyHead, hc, hsplit]
      · rw [List.length_cons, List.length_cons]
        omega
      · rw [List.cons_append, hall]

theorem readGrouped?_grouped (n : Nat) : readGrouped? (grouped n) = some n := by
  have hcomma : ',' ∉ Nat.toDigits 10 n := fun hmem =>
    absurd (Nat.isDigit_of_mem_toDigits (by decide) (by decide) hmem) (by decide)
  obtain ⟨first, rest, hsplit, hfirst, hrest, hall⟩ :=
    splitOn_separated Nat.toDigits_ne_nil hcomma
  rw [readGrouped?, grouped_natCast, String.toList_ofList, hsplit]
  simp only
  rw [if_pos ⟨by omega, by omega, hrest⟩, hall, TypeText.digits?_toDigits]

/-- The numerals of up to seven digits are those that take fewer than ten characters. -/
theorem length_grouped_lt_iff {n : Nat} : (grouped n).length < 10 ↔ n < 10000000 := by
  have hdigits : (Nat.toDigits 10 n).length ≤ 7 ↔ n < 10 ^ 7 :=
    Nat.length_toDigits_le_iff (by decide) (by decide)
  rw [grouped_natCast, String.length_ofList, length_separated]
  omega

end ShaderBindings.Text
