/-
  The spelling of record names. Behind the first letter of a word there are no capitals of
  ASCII, so no record is spelled like a constant, whose words are all capitals
  (`not_attr_prefix_adaCase`, `not_slot_prefix_adaCase`). And the tables of letter case give no
  stars, so that a name without one is spelled without one (`star_not_mem_adaCase`). Both hold
  of names in any script; the tables themselves are taken as they are.
-/
import Mathlib
import ShaderBindings.Identifier
import ShaderBindings.Proofs.Text.Lines

namespace ShaderBindings

namespace Text

/-- What holds of the code points of ASCII holds of its characters. -/
theorem of_ascii {p : Char → Prop} (h : ∀ n < 0x80, p (Char.ofNat n)) {c : Char}
    (hc : c.toNat < 0x80) : p c := by
  have hp := h c.toNat hc
  rwa [Char.ofNat_toNat] at hp

theorem isUpper_iff {c : Char} : c.isUpper = true ↔ 0x41 ≤ c.toNat ∧ c.toNat ≤ 0x5a := by
  simp [Char.isUpper, UInt32.le_iff_toNat_le, ← Char.toNat_val]

/-- A code point beyond the capitals is none, and one that is no character is read as zero. -/
theorem isUpper_ofNat_eq_false {n : Nat} (h : 0x5a < n) : (Char.ofNat n).isUpper = false := by
  rw [Bool.eq_false_iff, ne_eq, isUpper_iff]
  unfold Char.ofNat
  split
  · change ¬ (0x41 ≤ n ∧ n ≤ 0x5a)
    omega
  · decide

/-- Nor is a code point beyond the star that of a star. -/
theorem ofNat_ne_star {n : Nat} (h : 0x2a < n) : Char.ofNat n ≠ '*' := by
  intro hstar
  have hn := congrArg Char.toNat hstar
  unfold Char.ofNat at hn
  split at hn
  · change n = 0x2a at hn
    omega
  · cases hn

theorem isUpper_shifted?_eq_false {n : Nat} {c : Char} (h : shifted? lowerRuns n = some c) :
    c.isUpper = false := by
  have hruns : ∀ r ∈ lowerRuns, (0x5a : Int) < r.first + r.shift := by decide +kernel
  obtain ⟨r, hr, rfl⟩ := Option.map_eq_some_iff.mp h
  have hfirst := hruns r (List.mem_of_find?_eq_some hr)
  have hn := List.find?_some hr
  simp only [Bool.and_eq_true, decide_eq_true_eq] at hn
  exact isUpper_ofNat_eq_false (by omega)

/-- The counterpart of a character is from one of the tables, or the character itself. -/
theorem mem_recased {words : List (Nat × List Nat)} {runs : List CaseRun} {c d : Char}
    (h : d ∈ recased words runs c) : (∃ w ∈ words, ∃ n ∈ w.2, d = Char.ofNat n) ∨
      shifted? runs c.toNat = some d ∨ d = c := by
  unfold recased at h
  split at h
  · next codes hcodes =>
    obtain ⟨before, after, htable, -⟩ := List.lookup_eq_some_iff.mp hcodes
    obtain ⟨n, hn, rfl⟩ := List.mem_map.mp h
    exact .inl ⟨(c.toNat, codes), by simp [htable], n, hn, rfl⟩
  · obtain rfl := List.mem_singleton.mp h
    cases hshift : shifted? runs c.toNat with
    | some d => exact .inr (.inl rfl)
    | none => exact .inr (.inr rfl)

theorem isUpper_lower_eq_false {c d : Char} (h : d ∈ lower c) : d.isUpper = false := by
  unfold lower at h
  split at h
  · next hascii =>
    obtain rfl := List.mem_singleton.mp h
    exact of_ascii (p := fun c => c.toLower.isUpper = false) (by decide +kernel) hascii
  · next hascii =>
    have hwords : ∀ w ∈ lowerWords, ∀ n ∈ w.2, 0x5a < n := by decide
    rcases mem_recased h with ⟨w, hw, n, hn, rfl⟩ | hshift | rfl
    · exact isUpper_ofNat_eq_false (hwords w hw n hn)
    · exact isUpper_shifted?_eq_false hshift
    · rw [Bool.eq_false_iff, ne_eq, isUpper_iff]
      omega

/-- A text in lower case has no capitals of ASCII. -/
theorem isUpper_lowerFrom_eq_false {before cs : List Char} {d : Char}
    (h : d ∈ lowerFrom before cs) :
    d.isUpper = false := by
  induction cs generalizing before with
  | nil => simp [lowerFrom] at h
  | cons c rest ih =>
    rw [lowerFrom, List.mem_append] at h
    rcases h with h | h
    · split at h
      · obtain rfl := List.mem_singleton.mp h
        split <;> decide
      · exact isUpper_lower_eq_false h
    · exact ih h

/-- The upper case of a character is one character, or a word of the table. -/
theorem upper_cases (c : Char) :
    (∃ d, upper c = [d]) ∨ ∃ w ∈ upperWords, upper c = w.2.map Char.ofNat := by
  unfold upper
  split
  · exact .inl ⟨_, rfl⟩
  · unfold recased
    split
    · next codes hcodes =>
      obtain ⟨before, after, htable, -⟩ := List.lookup_eq_some_iff.mp hcodes
      exact .inr ⟨(c.toNat, codes), by simp [htable], rfl⟩
    · exact .inl ⟨_, rfl⟩

end Text

/-! ## Words -/

section

variable {x y : Char}

/-- Two capitals that start no word of the table start no capitalized word. -/
theorem not_prefix_capitalized (hx : x.isUpper = true) (hy : y.isUpper = true)
    (hwords : ∀ w ∈ Text.upperWords, ¬ [x, y] <+: w.2.map Char.ofNat) (cs : List Char)
    {rest : List Char} (hrest : ∀ z ∈ rest.head?, z = '_') :
    ¬ [x, y] <+: capitalized cs ++ rest := by
  have hscore : ∀ z : Char, z.isUpper = true → z ∉ rest.head? := by
    intro z hz hmem
    rw [hrest z hmem] at hz
    exact absurd hz (by decide)
  intro h
  cases cs with
  | nil =>
    obtain ⟨more, rfl⟩ := h
    exact hscore x hx rfl
  | cons c cs =>
    change [x, y] <+: (Text.upper c ++ Text.lowerAll cs) ++ rest at h
    rcases Text.upper_cases c with ⟨d, hupper⟩ | ⟨w, hw, hupper⟩
    · -- behind the first letter come letters in lower case, or an underscore
      rw [hupper, List.append_assoc, List.singleton_append, List.cons_prefix_cons] at h
      obtain ⟨more, h⟩ := h.2
      cases hlower : Text.lowerAll cs with
      | nil =>
        rw [hlower] at h
        obtain rfl : [y] ++ more = rest := h
        exact hscore y hy rfl
      | cons z zs =>
        rw [hlower] at h
        obtain ⟨rfl, -⟩ : y = z ∧ _ := by simpa using h
        have hmem : y ∈ Text.lowerFrom [] cs := by
          change y ∈ Text.lowerAll cs
          simp [hlower]
        exact absurd hy (by simp [Text.isUpper_lowerFrom_eq_false hmem])
    · have hlength : ∀ w ∈ Text.upperWords, 2 ≤ w.2.length := by decide +kernel
      rw [hupper, List.append_assoc] at h
      refine hwords w hw (List.prefix_of_prefix_length_le h (List.prefix_append _ _) ?_)
      simpa using hlength w hw

theorem not_prefix_adaCase (hx : x.isUpper = true) (hy : y.isUpper = true)
    (hwords : ∀ w ∈ Text.upperWords, ¬ [x, y] <+: w.2.map Char.ofNat) (s : String) :
    ¬ [x, y] <+: (adaCase s).toList := by
  unfold adaCase
  rw [String.toList_ofList]
  cases hwords' : s.toList.splitOn '_' with
  | nil => exact absurd hwords' (List.splitOn_ne_nil '_' s.toList)
  | cons word words =>
    cases words with
    | nil =>
      have h : ¬ [x, y] <+: capitalized word ++ [] :=
        not_prefix_capitalized hx hy hwords word (by simp)
      simpa using h
    | cons other words =>
      rw [List.map_cons, List.map_cons, List.intercalate_cons_cons, List.append_assoc]
      exact not_prefix_capitalized hx hy hwords word (by simp)

end

/-- No record is spelled like the constant of an attribute. -/
theorem not_attr_prefix_adaCase (s : String) : ¬ "ATTR_".toList <+: (adaCase s).toList := by
  intro h
  refine not_prefix_adaCase (x := 'A') (y := 'T') (by decide) (by decide) (by decide +kernel) s ?_
  exact List.IsPrefix.trans ⟨['T', 'R', '_'], rfl⟩ h

/-- No record is spelled like the constant of a slot. -/
theorem not_slot_prefix_adaCase (s : String) : ¬ "SLOT_".toList <+: (adaCase s).toList := by
  intro h
  refine not_prefix_adaCase (x := 'S') (y := 'L') (by decide) (by decide) (by decide +kernel) s ?_
  exact List.IsPrefix.trans ⟨['O', 'T', '_'], rfl⟩ h

/-! ## Stars -/

namespace Text

section

variable {words : List (Nat × List Nat)} {runs : List CaseRun} {c : Char}

/-- Where the tables give no star, only a star has one for its counterpart. -/
theorem star_not_mem_recased (hwords : ∀ w ∈ words, ∀ n ∈ w.2, '*' ≠ Char.ofNat n)
    (hruns : ∀ r ∈ runs, (0x2a : Int) < r.first + r.shift) (hc : '*' ≠ c) :
    '*' ∉ recased words runs c := by
  intro h
  rcases mem_recased h with ⟨w, hw, n, hn, hstar⟩ | hshift | hstar
  · exact hwords w hw n hn hstar
  · obtain ⟨r, hr, hstar⟩ := Option.map_eq_some_iff.mp hshift
    have hfirst := hruns r (List.mem_of_find?_eq_some hr)
    have hn := List.find?_some hr
    simp only [Bool.and_eq_true, decide_eq_true_eq] at hn
    refine ofNat_ne_star ?_ hstar
    omega
  · exact hc hstar

/-- The same with a function in place of the tables for ASCII. -/
theorem star_not_mem_ite {ascii : Char → Char}
    (hascii : ∀ n < 0x80, '*' ≠ Char.ofNat n → '*' ≠ ascii (Char.ofNat n))
    (hwords : ∀ w ∈ words, ∀ n ∈ w.2, '*' ≠ Char.ofNat n)
    (hruns : ∀ r ∈ runs, (0x2a : Int) < r.first + r.shift) (hc : '*' ≠ c) :
    '*' ∉ if c.toNat < 0x80 then [ascii c] else recased words runs c := by
  split
  · next hsmall =>
    have h := of_ascii (p := fun c => '*' ≠ c → '*' ≠ ascii c) hascii hsmall
    simpa using h hc
  · exact star_not_mem_recased hwords hruns hc

theorem star_not_mem_upper (h : '*' ≠ c) : '*' ∉ upper c :=
  star_not_mem_ite (by decide +kernel) (by decide +kernel) (by decide +kernel) h

theorem star_not_mem_lower (h : '*' ≠ c) : '*' ∉ lower c :=
  star_not_mem_ite (by decide +kernel) (by decide +kernel) (by decide +kernel) h

end

theorem star_not_mem_lowerFrom {before cs : List Char} (h : '*' ∉ cs) :
    '*' ∉ lowerFrom before cs := by
  induction cs generalizing before with
  | nil => simp [lowerFrom]
  | cons c rest ih =>
    obtain ⟨hc, hrest⟩ := List.ne_and_not_mem_of_not_mem_cons h
    rw [lowerFrom, List.mem_append, not_or]
    refine ⟨?_, ih hrest⟩
    split
    · split <;> decide
    · exact star_not_mem_lower hc

end Text

theorem star_not_mem_capitalized {cs : List Char} (h : '*' ∉ cs) : '*' ∉ capitalized cs := by
  cases cs with
  | nil => exact h
  | cons c rest =>
    obtain ⟨hc, hrest⟩ := List.ne_and_not_mem_of_not_mem_cons h
    rw [capitalized, List.mem_append, not_or]
    exact ⟨Text.star_not_mem_upper hc, Text.star_not_mem_lowerFrom hrest⟩

/-- What stands in words that are joined by another character stands in one of them. -/
theorem mem_intercalate_of_ne {x c : Char} (h : x ≠ c) (words : List (List Char)) :
    x ∈ [c].intercalate words ↔ ∃ w ∈ words, x ∈ w := by
  induction words with
  | nil => simp
  | cons w words ih =>
    cases words with
    | nil => simp
    | cons v more =>
      rw [List.intercalate_cons_cons, List.mem_append, List.mem_append, ih, List.mem_singleton]
      simp [h]

/-- The words of a text have its characters. -/
theorem mem_of_mem_splitOn {x c : Char} {cs word : List Char} (hword : word ∈ cs.splitOn c)
    (hx : x ∈ word) : x ∈ cs := by
  have hne : x ≠ c := ne_of_mem_of_not_mem hx (Text.notMem_of_mem_splitOn hword)
  have hmem : x ∈ [c].intercalate (cs.splitOn c) :=
    (mem_intercalate_of_ne hne _).mpr ⟨word, hword, hx⟩
  rwa [List.intercalate_splitOn] at hmem

/-- The record spelling of a name without a star has none. -/
theorem star_not_mem_adaCase {s : String} (h : '*' ∉ s.toList) : '*' ∉ (adaCase s).toList := by
  unfold adaCase
  rw [String.toList_ofList, mem_intercalate_of_ne (by decide)]
  rintro ⟨_, hmem, hstar⟩
  obtain ⟨word, hword, rfl⟩ := List.mem_map.mp hmem
  exact star_not_mem_capitalized (fun hstar => h (mem_of_mem_splitOn hword hstar)) hstar

theorem star_not_mem_of_isIdentifier {cs : List Char} (h : isIdentifier cs = true) :
    '*' ∉ cs := by
  cases cs with
  | nil => simp
  | cons c rest =>
    obtain ⟨hc, hrest⟩ := Bool.and_eq_true_iff.mp h
    refine List.not_mem_cons_of_ne_of_not_mem ?_ fun hmem => ?_
    · rintro rfl
      exact absurd hc (by decide)
    · exact absurd (List.all_eq_true.mp hrest _ hmem) (by decide)

theorem star_not_mem_of_isModuleName {s : String} (h : isModuleName s = true) :
    '*' ∉ s.toList := by
  rcases Bool.or_eq_true_iff.mp h with h | h
  · exact star_not_mem_of_isIdentifier h
  · obtain ⟨hlast, hname⟩ := Bool.and_eq_true_iff.mp h
    rw [← List.dropLast_append_getLast? _ (beq_iff_eq.mp hlast), List.mem_append, not_or]
    exact ⟨star_not_mem_of_isIdentifier hname, by decide⟩

end ShaderBindings
