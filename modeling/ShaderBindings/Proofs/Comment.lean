/-
  Block comments that nest, as the compiler of a generated module reads them (`Comment.read`):
  from the opening mark at the front up to the closing mark that belongs to it. Marks do not
  overlap and are taken from the left. A text is one comment (`IsWhole`) if it is closed at its
  end and no sooner.

  * `neutral_of_star_not_mem`, `neutral_intercalate`: lines without stars do not change how many
    comments are open.
  * `isWhole_lines_iff`: a comment with its marks on lines of their own, where all lines but one
    change nothing, is whole exactly if that one is `Balanced`.
-/
import Mathlib.Data.List.Infix

namespace ShaderBindings.Comment

/-- How a text behind an opening mark is read: the comment is still open at its end, with so many
more around it, or it is closed before and leaves the rest. -/
inductive Reading
  | within (outer : Nat)
  | closed (rest : List Char)
deriving DecidableEq

/-- Reads on inside a comment that has so many around it. -/
def read : Nat → List Char → Reading
  | outer, [] => .within outer
  | outer, '/' :: '*' :: rest => read (outer + 1) rest
  | 0, '*' :: '/' :: rest => .closed rest
  | outer + 1, '*' :: '/' :: rest => read outer rest
  | outer, _ :: rest => read outer rest

/-- What is left of a text behind the comment at its front. -/
def behind? : List Char → Option (List Char)
  | '/' :: '*' :: body =>
    match read 0 body with
    | .closed rest => some rest
    | .within _ => none
  | _ => none

/-- The text is one comment: whatever follows it is left. -/
def IsWhole (text : String) : Prop := ∀ rest, behind? (text.toList ++ rest) = some rest

/-- Inside a comment the text opens and closes comments of its own only. -/
def Balanced (text : String) : Prop := read 0 text.toList = .within 0

instance (text : String) : Decidable (Balanced text) :=
  inferInstanceAs (Decidable (read 0 text.toList = .within 0))

/-- The text leaves the number of open comments as it is, at any depth. -/
def Neutral (cs : List Char) : Prop := ∀ outer, read outer cs = .within outer

/-- Reads on behind a text that has been read. -/
def Reading.andThen : Reading → List Char → Reading
  | .within outer, more => read outer more
  | .closed rest, more => .closed (rest ++ more)

variable {outer : Nat} {cs : List Char} {c : Char}

/-! ## One text behind another -/

theorem read_other (hopen : ¬ ['/', '*'] <+: c :: cs) (hclose : ¬ ['*', '/'] <+: c :: cs) :
    read outer (c :: cs) = read outer cs := by
  rw [read]
  · rintro rest rfl rfl
    exact hopen (List.prefix_append _ rest)
  · rintro rest - rfl rfl
    exact hclose (List.prefix_append _ rest)
  · rintro outer' rest - rfl rfl
    exact hclose (List.prefix_append _ rest)

theorem read_cons (hslash : c ≠ '/') (hstar : c ≠ '*') : read outer (c :: cs) = read outer cs :=
  read_other (fun h => hslash (List.cons_prefix_cons.mp h).1.symm)
    fun h => hstar (List.cons_prefix_cons.mp h).1.symm

/-- A mark at the front of two texts is one of the first text, if that has a second character. -/
theorem not_prefix_append {x y d : Char} (hcs : cs ≠ [])
    (h : ∀ more, d = x → cs = y :: more → False) (rest : List Char) :
    ¬ [x, y] <+: d :: (cs ++ rest) := by
  intro hmark
  obtain ⟨hfirst, hsecond⟩ := List.cons_prefix_cons.mp hmark
  obtain ⟨e, more, rfl⟩ := List.exists_cons_of_ne_nil hcs
  obtain ⟨rfl, -⟩ := List.cons_prefix_cons.mp hsecond
  exact h more hfirst.symm rfl

/-- No mark reaches over a character that belongs to none. -/
theorem not_prefix_across {x y d : Char} (hy : y ≠ c)
    (h : ∀ more, d = x → cs = y :: more → False) (rest : List Char) :
    ¬ [x, y] <+: d :: (cs ++ c :: rest) := by
  cases cs with
  | nil =>
    intro hmark
    obtain ⟨-, hsecond⟩ := List.cons_prefix_cons.mp hmark
    exact hy (List.cons_prefix_cons.mp hsecond).1
  | cons e more => exact not_prefix_append (List.cons_ne_nil e more) h (c :: rest)

/-- No closing mark is none at the outermost comment and none further in. -/
theorem no_close {d : Char} (hlast : ∀ more, outer = 0 → d = '*' → cs = '/' :: more → False)
    (hclose : ∀ o more, outer = o + 1 → d = '*' → cs = '/' :: more → False) :
    ∀ more, d = '*' → cs = '/' :: more → False := by
  intro more hd hcs
  cases outer with
  | zero => exact hlast more rfl hd hcs
  | succ o => exact hclose o more rfl hd hcs

/-- Two texts with such a character between them are read one behind the other. -/
theorem read_append (hslash : c ≠ '/') (hstar : c ≠ '*') (rest : List Char) :
    read outer (cs ++ c :: rest) = (read outer cs).andThen (c :: rest) := by
  fun_induction read outer cs with
  | case1 outer => rfl
  | case2 outer cs ih => rw [List.cons_append, List.cons_append, read, ih]
  | case3 cs => rw [List.cons_append, List.cons_append, read]; rfl
  | case4 outer cs ih => rw [List.cons_append, List.cons_append, read, ih]
  | case5 outer d cs hopen hlast hclose ih =>
    -- a mark that is not in the first text alone would have to hold the character between
    rw [List.cons_append, read_other (not_prefix_across hstar.symm hopen rest)
      (not_prefix_across hslash.symm (no_close hlast hclose) rest), ih]

/-- A comment that is closed leaves what follows alone. -/
theorem read_append_of_closed {left : List Char} (h : read outer cs = .closed left)
    (rest : List Char) : read outer (cs ++ rest) = .closed (left ++ rest) := by
  fun_induction read outer cs with
  | case1 outer => simp at h
  | case2 outer cs ih => rw [List.cons_append, List.cons_append, read, ih h]
  | case3 cs =>
    obtain rfl := Reading.closed.inj h
    rw [List.cons_append, List.cons_append, read]
  | case4 outer cs ih => rw [List.cons_append, List.cons_append, read, ih h]
  | case5 outer d cs hopen hlast hclose ih =>
    have hcs : cs ≠ [] := by
      rintro rfl
      simp [read] at h
    rw [List.cons_append, read_other (not_prefix_append hcs hopen rest)
      (not_prefix_append hcs (no_close hlast hclose) rest), ih h]

/-- Characters that belong to no mark are passed over. -/
theorem read_front {front : List Char} (hslash : '/' ∉ front) (hstar : '*' ∉ front) :
    read outer (front ++ cs) = read outer cs := by
  induction front with
  | nil => rfl
  | cons d front ih =>
    obtain ⟨hd, hfront⟩ := List.ne_and_not_mem_of_not_mem_cons hslash
    obtain ⟨hd', hfront'⟩ := List.ne_and_not_mem_of_not_mem_cons hstar
    rw [List.cons_append, read_cons hd.symm hd'.symm, ih hfront hfront']

/-! ## Texts that are no comments -/

/-- A text without marks changes nothing. -/
theorem neutral_of_no_marks (hopen : ¬ ['/', '*'] <:+: cs) (hclose : ¬ ['*', '/'] <:+: cs) :
    Neutral cs := by
  intro outer
  induction cs with
  | nil => rw [read]
  | cons c cs ih =>
    rw [read_other (fun h => hopen h.isInfix) fun h => hclose h.isInfix]
    exact ih (fun h => hopen (List.infix_cons h)) fun h => hclose (List.infix_cons h)

theorem neutral_of_star_not_mem (h : '*' ∉ cs) : Neutral cs :=
  neutral_of_no_marks (fun hmark => h (hmark.subset (by simp)))
    fun hmark => h (hmark.subset (by simp))

/-- Lines that change nothing are passed over, whatever stands between them. -/
theorem read_intercalate (hslash : c ≠ '/') (hstar : c ≠ '*') {lines more : List (List Char)}
    (h : ∀ line ∈ lines, Neutral line) (hmore : more ≠ []) :
    read outer ([c].intercalate (lines ++ more)) = read outer ([c].intercalate more) := by
  induction lines with
  | nil => rfl
  | cons line lines ih =>
    obtain ⟨hline, hlines⟩ := List.forall_mem_cons.mp h
    rw [List.cons_append, List.intercalate_cons_of_ne_nil (by simp [hmore]), List.append_assoc,
      List.singleton_append, read_append hslash hstar, hline outer, Reading.andThen,
      read_cons hslash hstar, ih hlines]

theorem neutral_intercalate (hslash : c ≠ '/') (hstar : c ≠ '*') {lines : List (List Char)}
    (h : ∀ line ∈ lines, Neutral line) : Neutral ([c].intercalate lines) := by
  intro outer
  rcases List.eq_nil_or_concat' lines with rfl | ⟨first, last, rfl⟩
  · rw [List.intercalate_nil, read]
  · rw [read_intercalate hslash hstar (fun line hline => h line (by simp [hline])) (by simp),
      List.intercalate_singleton]
    exact h last (by simp) outer

/-- Words without marks, with blanks between them, change nothing. -/
theorem balanced_words {words : List String}
    (h : ∀ w ∈ words, ¬ ['/', '*'] <:+: w.toList ∧ ¬ ['*', '/'] <:+: w.toList) :
    Balanced (" ".intercalate words) := by
  have hwords : ∀ cs ∈ words.map String.toList, Neutral cs := by
    intro cs hcs
    obtain ⟨w, hw, rfl⟩ := List.mem_map.mp hcs
    exact neutral_of_no_marks (h w hw).1 (h w hw).2
  unfold Balanced
  rw [String.toList_intercalate]
  exact neutral_intercalate (by decide) (by decide) hwords 0

/-- A text is one comment when its comment is closed at its end. -/
theorem isWhole_iff {text : String} {body : List Char} (h : text.toList = '/' :: '*' :: body) :
    IsWhole text ↔ read 0 body = .closed [] := by
  unfold IsWhole
  rw [h]
  constructor
  · intro hwhole
    have hempty := hwhole []
    rw [List.append_nil, behind?] at hempty
    split at hempty
    · next rest hrest => rw [hrest, Option.some.inj hempty]
    · simp at hempty
  · intro hclosed rest
    rw [List.cons_append, List.cons_append, behind?, read_append_of_closed hclosed]
    rfl

theorem length_of_closed {rest : List Char} (h : read outer cs = .closed rest) :
    rest.length < cs.length := by
  fun_induction read outer cs with
  | case1 outer => simp at h
  | case2 outer cs ih =>
    have := ih h
    simp only [List.length_cons]
    omega
  | case3 cs =>
    obtain rfl := Reading.closed.inj h
    simp only [List.length_cons]
    omega
  | case4 outer cs ih =>
    have := ih h
    simp only [List.length_cons]
    omega
  | case5 outer d cs hopen hlast hclose ih => exact Nat.lt_succ_of_lt (ih h)

/-- With more lines behind it a text is read as one comment and these lines only if it is one. -/
theorem behind?_append_eq_iff {text : String} {body : List Char}
    (h : text.toList = '/' :: '*' :: body) (more : List Char) :
    behind? (text.toList ++ '\n' :: more) = some ('\n' :: more) ↔ IsWhole text := by
  refine ⟨fun hbehind => (isWhole_iff h).mpr ?_, fun hwhole => hwhole _⟩
  rw [h, List.cons_append, List.cons_append, behind?,
    read_append (by decide) (by decide)] at hbehind
  cases hread : read 0 body with
  | closed rest =>
    rw [hread, Reading.andThen, Option.some_inj] at hbehind
    rw [List.append_left_eq_self.mp hbehind]
  | within outer =>
    rw [hread, Reading.andThen] at hbehind
    -- a comment that is closed behind the text leaves less than what is there
    split at hbehind
    · next rest hrest =>
      obtain rfl := Option.some.inj hbehind
      exact absurd (length_of_closed hrest) (Nat.lt_irrefl _)
    · simp at hbehind

/-! ## Lines of a comment -/

/-- Behind a line of an open comment come others that change nothing, and the closing mark: they
close it if the line is balanced, and else it is left open or has been closed before. -/
theorem read_line_iff {line : List Char} {after : List (List Char)}
    (hafter : ∀ l ∈ after, Neutral l) :
    read 0 (line ++ '\n' :: ['\n'].intercalate (after ++ [['*', '/']])) = .closed [] ↔
      read 0 line = .within 0 := by
  have hclose (outer : Nat) : read outer (['\n'].intercalate (after ++ [['*', '/']])) =
      read outer ['*', '/'] := by
    rw [read_intercalate (by decide) (by decide) hafter (by simp), List.intercalate_singleton]
  rw [read_append (by decide) (by decide)]
  cases read 0 line with
  | closed rest => simp [Reading.andThen]
  | within outer =>
    rw [Reading.andThen, read_cons (by decide) (by decide), hclose]
    cases outer <;> simp [read]

/-- A comment with its marks on lines of their own, where all lines but one change nothing, is
whole exactly if the one is balanced. -/
theorem isWhole_lines_iff {before after : List String} {line : String}
    (hbefore : ∀ l ∈ before, Neutral l.toList) (hafter : ∀ l ∈ after, Neutral l.toList) :
    IsWhole ("\n".intercalate ("/*" :: (before ++ line :: (after ++ ["*/"])))) ↔
      Balanced line := by
  have htext : ("\n".intercalate ("/*" :: (before ++ line :: (after ++ ["*/"])))).toList =
      '/' :: '*' :: '\n' :: ['\n'].intercalate (before.map String.toList ++
        (line.toList :: (after.map String.toList ++ [['*', '/']]))) := by
    rw [String.toList_intercalate, List.map_cons, List.intercalate_cons_of_ne_nil (by simp)]
    simp
  rw [isWhole_iff htext, read_cons (by decide) (by decide),
    read_intercalate (by decide) (by decide) (List.forall_mem_map.mpr hbefore) (by simp),
    List.intercalate_cons_of_ne_nil (by simp), List.append_assoc, List.singleton_append]
  exact read_line_iff (List.forall_mem_map.mpr hafter)

end ShaderBindings.Comment
