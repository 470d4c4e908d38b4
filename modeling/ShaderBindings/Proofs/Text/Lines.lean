/-
  Lines of a text: split at the breaks, which there is one way to do (`split_iff`, where `Split`
  says it without the function), split and joined at one character (`splitOn_intercalate`), and
  without white space at the end (`trimEnd_append`). Marks do not form across lines
  (`infix_intercalate`).
-/
import Mathlib.Data.List.DropRight
import Mathlib.Data.List.Infix
import ShaderBindings.Text.Blank
import ShaderBindings.Text.Lines

namespace ShaderBindings.Text

variable {c : Char} {cs line : List Char} {parts : List (List Char)}

/-! ## Lines that are split -/

/-- A break in front of a text: one character, where a carriage return with a line feed behind it
is taken with the line feed. -/
inductive Break : List Char → List Char → Prop
  | pair (rest : List Char) : Break ['\r', '\n'] rest
  | single {c : Char} {rest : List Char} (hbreak : isLineBreak c = true)
      (hpair : ¬ (c = '\r' ∧ ['\n'] <+: rest)) : Break [c] rest

/-- A text is split into lines: each ends at a break or, if anything is left, at the end. -/
inductive Split : List Char → List (List Char) → Prop
  | empty : Split [] []
  | last {line : List Char} (hne : line ≠ []) (hline : ∀ c ∈ line, isLineBreak c = false) :
      Split line [line]
  | more {line sep rest : List Char} {parts : List (List Char)}
      (hline : ∀ c ∈ line, isLineBreak c = false) (hsep : Break sep rest)
      (hrest : Split rest parts) : Split (line ++ (sep ++ rest)) (line :: parts)

theorem lines_cons_of_not_break (h : isLineBreak c = false) (cs : List Char) :
    lines (c :: cs) = match lines cs with
      | [] => [[c]]
      | line :: more => (c :: line) :: more := by
  have hreturn : c ≠ '\r' := by
    rintro rfl
    exact absurd h (by decide)
  rw [lines, h]
  · rfl
  · rintro rest rfl
    exact absurd rfl hreturn

theorem lines_break {sep : List Char} (h : Break sep cs) : lines (sep ++ cs) = [] :: lines cs := by
  cases h with
  | pair => rw [List.cons_append, List.cons_append, List.nil_append, lines]
  | @single c rest hbreak hpair =>
    rw [List.singleton_append, lines, if_pos hbreak]
    rintro rest rfl rfl
    exact hpair ⟨rfl, List.prefix_append ['\n'] rest⟩

/-- A break ends the line in front of it. -/
theorem lines_append_break {sep : List Char} (hline : ∀ c ∈ line, isLineBreak c = false)
    (h : Break sep cs) : lines (line ++ (sep ++ cs)) = line :: lines cs := by
  induction line with
  | nil => exact lines_break h
  | cons c line ih =>
    obtain ⟨hc, hline⟩ := List.forall_mem_cons.mp hline
    rw [List.cons_append, lines_cons_of_not_break hc, ih hline]

theorem lines_of_no_break (hne : line ≠ []) (hline : ∀ c ∈ line, isLineBreak c = false) :
    lines line = [line] := by
  induction line with
  | nil => exact absurd rfl hne
  | cons c line ih =>
    obtain ⟨hc, hline⟩ := List.forall_mem_cons.mp hline
    rw [lines_cons_of_not_break hc]
    cases line with
    | nil => rw [lines_nil]
    | cons d line => rw [ih (List.cons_ne_nil d line) hline]

/-- A character that is no break lengthens the first line. -/
theorem Split.cons (h : Split cs (line :: parts)) (hc : isLineBreak c = false) :
    Split (c :: cs) ((c :: line) :: parts) := by
  cases h with
  | last hne hline => exact .last (List.cons_ne_nil c _) (List.forall_mem_cons.mpr ⟨hc, hline⟩)
  | more hline hsep hrest => exact .more (List.forall_mem_cons.mpr ⟨hc, hline⟩) hsep hrest

theorem split_lines (cs : List Char) : Split cs (lines cs) := by
  fun_induction lines cs with
  | case1 => exact .empty
  | case2 rest ih => exact .more (List.forall_mem_nil _) (.pair rest) ih
  | case3 c rest hreturn hbreak ih =>
    refine .more (List.forall_mem_nil _) (.single hbreak ?_) ih
    rintro ⟨rfl, more, rfl⟩
    exact hreturn more rfl rfl
  | case4 c rest hreturn hbreak hlines ih =>
    rw [hlines] at ih
    cases ih
    exact .last (List.cons_ne_nil c []) (by simpa using hbreak)
  | case5 c rest hreturn hbreak line more hlines ih =>
    rw [hlines] at ih
    exact ih.cons (by simpa using hbreak)

/-- The lines of a text are the parts that it is split into, which there is one way to do. -/
theorem split_iff : Split cs parts ↔ lines cs = parts := by
  constructor
  · intro h
    induction h with
    | empty => exact lines_nil
    | last hne hline => exact lines_of_no_break hne hline
    | more hline hsep hrest ih => rw [lines_append_break hline hsep, ih]
  · rintro rfl
    exact split_lines cs

/-- No line has a break in it. -/
theorem Split.not_isLineBreak (h : Split cs parts) (hline : line ∈ parts) (hc : c ∈ line) :
    isLineBreak c = false := by
  induction h with
  | empty => simp at hline
  | last hne hlast =>
    obtain rfl := List.mem_singleton.mp hline
    exact hlast c hc
  | more hfirst hsep hrest ih =>
    rcases List.mem_cons.mp hline with rfl | hline
    · exact hfirst c hc
    · exact ih hline

/-- No part of a text that is split has a character at which the text is split. -/
theorem not_of_mem_splitOnP {p : Char → Bool} {part : List Char} (h : part ∈ cs.splitOnP p)
    (hc : c ∈ part) : p c = false := by
  induction cs generalizing part with
  | nil =>
    obtain rfl := List.mem_singleton.mp (List.splitOnP_nil ▸ h)
    simp at hc
  | cons d cs ih =>
    rw [List.splitOnP_cons_eq_if_modifyHead] at h
    split at h
    · rcases List.mem_cons.mp h with rfl | h
      · simp at hc
      · exact ih h hc
    · next hd =>
      cases hparts : cs.splitOnP p with
      | nil => exact absurd hparts (List.splitOnP_ne_nil p cs)
      | cons first parts =>
        rw [hparts] at h ih
        rcases List.mem_cons.mp h with rfl | h
        · rcases List.mem_cons.mp hc with rfl | hc
          · simpa using hd
          · exact ih List.mem_cons_self hc
        · exact ih (List.mem_cons_of_mem first h) hc

theorem notMem_of_mem_splitOn {part : List Char} (h : part ∈ cs.splitOn c) : c ∉ part := by
  rw [List.splitOn_eq_splitOnP] at h
  intro hc
  simpa using not_of_mem_splitOnP h hc

/-! ## Lines that are joined -/

/-- Each line but the first has the character in front of it. -/
theorem intercalate_cons (c : Char) (line : List Char) (lines : List (List Char)) :
    [c].intercalate (line :: lines) = line ++ lines.flatMap (c :: ·) := by
  induction lines generalizing line with
  | nil => simp
  | cons next lines ih =>
    rw [List.intercalate_cons_cons, ih, List.flatMap_cons, List.append_assoc,
      List.singleton_append, List.cons_append]

/-- Two texts with the character between them are split each for itself. -/
theorem splitOn_append_cons (cs others : List Char) :
    (cs ++ c :: others).splitOn c = cs.splitOn c ++ others.splitOn c := by
  simp only [List.splitOn_eq_splitOnP]
  exact List.splitOnP_append_cons cs others (beq_self_eq_true c)

/-- Texts that are joined and split again are split each for itself. -/
theorem splitOn_intercalate (hne : parts ≠ []) :
    ([c].intercalate parts).splitOn c = parts.flatMap (·.splitOn c) := by
  induction parts with
  | nil => exact absurd rfl hne
  | cons line parts ih =>
    by_cases hparts : parts = []
    · subst hparts
      simp
    · rw [List.intercalate_cons_of_ne_nil hparts, List.append_assoc, List.singleton_append,
        splitOn_append_cons, ih hparts, List.flatMap_cons]

/-- A mark without a certain character stands on one side of it. -/
theorem infix_append_cons {mark : List Char} (hne : mark ≠ []) (hc : c ∉ mark)
    (front back : List Char) : mark <:+: front ++ c :: back ↔ mark <:+: front ∨ mark <:+: back := by
  constructor
  · intro h
    rcases List.infix_append_iff.mp h with hfront | hback | ⟨start, rest, rfl, hstart, hrest⟩
    · exact .inl hfront
    · rcases List.infix_cons_iff.mp hback with hprefix | hback
      · obtain ⟨d, mark, rfl⟩ := List.exists_cons_of_ne_nil hne
        exact absurd (List.cons_prefix_cons.mp hprefix).1 (List.ne_of_not_mem_cons hc).symm
      · exact .inr hback
    · -- a part behind the front would start with the character
      cases rest with
      | nil => exact .inl (by simpa using hstart.isInfix)
      | cons d rest =>
        obtain rfl := (List.cons_prefix_cons.mp hrest).1
        simp at hc
  · rintro (h | h)
    · exact h.trans (List.prefix_append front (c :: back)).isInfix
    · exact h.trans ((List.suffix_cons c back).trans (List.suffix_append front _)).isInfix

/-- A mark in lines that are joined by another character stands in one of them. -/
theorem infix_intercalate {mark : List Char} (hne : mark ≠ []) (hc : c ∉ mark) :
    mark <:+: [c].intercalate parts ↔ ∃ line ∈ parts, mark <:+: line := by
  induction parts with
  | nil => simp [hne]
  | cons line parts ih =>
    cases parts with
    | nil => simp
    | cons next parts =>
      rw [List.intercalate_cons_of_ne_nil (List.cons_ne_nil next parts), List.append_assoc,
        List.singleton_append, infix_append_cons hne hc, ih]
      exact (List.exists_mem_cons_iff _ _ _).symm

/-! ## Lines without white space at the end -/

/-- A character of ASCII that is seen is no white space and no line break. -/
theorem not_blank_of_visible (hlow : 0x20 < c.toNat) (hhigh : c.toNat < 0x7f) :
    isBlank c = false ∧ isLineBreak c = false := by
  have hall : ∀ n < 0x7f, 0x20 < n →
      isBlank (Char.ofNat n) = false ∧ isLineBreak (Char.ofNat n) = false := by
    decide +kernel
  have hchar := hall c.toNat hhigh hlow
  rwa [Char.ofNat_toNat] at hchar

theorem isPrefix_trimEnd (cs : List Char) : trimEnd cs <+: cs := List.rdropWhile_prefix isBlank cs

theorem getLast?_trimEnd (h : (trimEnd cs).getLast? = some c) : isBlank c = false := by
  have hne : trimEnd cs ≠ [] := by
    intro hnil
    simp [hnil] at h
  rw [List.getLast?_eq_some_getLast hne, Option.some_inj] at h
  rw [← h]
  exact Bool.eq_false_iff.mpr (List.rdropWhile_last_not isBlank cs hne)

/-- An indented line is empty or still indented. -/
theorem trimEnd_append {front : List Char} (hfront : ∀ c ∈ front, isBlank c = true)
    (cs : List Char) : trimEnd (front ++ cs) = [] ∨ front <+: trimEnd (front ++ cs) := by
  rcases List.prefix_or_prefix_of_prefix (isPrefix_trimEnd (front ++ cs))
    (List.prefix_append front cs) with h | h
  · left
    by_contra hne
    have hlast := List.getLast?_eq_some_getLast hne
    have hblank := hfront _ (h.subset (List.getLast_mem hne))
    rw [getLast?_trimEnd hlast] at hblank
    simp at hblank
  · exact .inr h

end ShaderBindings.Text
