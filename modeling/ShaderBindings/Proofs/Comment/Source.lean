/-
  A source text in a comment (`Comment.ofSource`) cannot leave it, whether comments nest or not.
  Of its marks the stars are replaced, the opening ones first; this changes no other character
  (`forall₂_disarm`), so that replacing the closing ones brings no opening one back
  (`not_open_disarm`, `not_close_disarm`), and white space around the lines keeps marks from
  forming across them (`not_infix_between`).

  `Shows` says how a line of the source stands in the comment, `Closed` that the text is one
  comment. The comment is proved to be both for every text; nothing is said about the comment at
  the head of a module, whose lines are not disarmed (`Proofs.Module.Header`).
-/
import Mathlib.Data.List.Forall2
import ShaderBindings.Payload.Embedding
import ShaderBindings.Proofs.Comment
import ShaderBindings.Proofs.Fallible
import ShaderBindings.Proofs.Text.Lines

namespace ShaderBindings.Comment

variable {cs ds es : List Char}

/-! ## Comments that do not nest -/

/-- What is left behind the first closing mark. -/
def afterClose? : List Char → Option (List Char)
  | [] => none
  | '*' :: '/' :: rest => some rest
  | _ :: rest => afterClose? rest

/-- What is left of a text behind the comment at its front, where comments do not nest. -/
def behindFlat? : List Char → Option (List Char)
  | '/' :: '*' :: body => afterClose? body
  | _ => none

/-- The text is one comment where comments do not nest. -/
def IsWholeFlat (text : String) : Prop := ∀ rest, behindFlat? (text.toList ++ rest) = some rest

theorem afterClose?_append (h : ¬ ['*', '/'] <:+: cs ++ ['*']) (rest : List Char) :
    afterClose? (cs ++ '*' :: '/' :: rest) = some rest := by
  induction cs with
  | nil => rfl
  | cons c cs ih =>
    rw [List.cons_append, afterClose?, ih fun hmark => h (List.infix_cons hmark)]
    -- a closing mark here would reach at most to the star
    rintro more rfl hmore
    refine h (List.IsPrefix.isInfix ?_)
    cases cs with
    | nil => simp at hmore
    | cons d cs =>
      obtain rfl := (List.cons.inj hmore).1
      exact List.prefix_append ['*', '/'] (cs ++ ['*'])

/-! ## Marks that are replaced -/

/-- Stars may be masked; other characters stay. -/
def Masks (c d : Char) : Prop := d = c ∨ c = '*' ∧ d = '_'

theorem Masks.trans {c d e : Char} (h : Masks c d) (h' : Masks d e) : Masks c e := by
  rcases h with rfl | ⟨rfl, rfl⟩
  · exact h'
  · rcases h' with rfl | ⟨h', -⟩
    · exact .inr ⟨rfl, rfl⟩
    · exact absurd h' (by decide)

theorem Masks.forall₂_trans (h : List.Forall₂ Masks cs ds) (h' : List.Forall₂ Masks ds es) :
    List.Forall₂ Masks cs es := by
  induction h generalizing es with
  | nil => exact h'
  | cons hc hcs ih =>
    obtain ⟨e, es, hd, hds, rfl⟩ := List.forall₂_cons_left_iff.mp h'
    exact .cons (hc.trans hd) (ih hds)

/-- A pair is replaced character by character. -/
theorem forall₂_replacePair {a b c d : Char} (ha : Masks a c) (hb : Masks b d) (cs : List Char) :
    List.Forall₂ Masks cs (replacePair a b c d cs) := by
  fun_induction replacePair a b c d cs with
  | case1 => exact .nil
  | case2 x => exact .cons (.inl rfl) .nil
  | case3 x y rest h ih =>
    obtain ⟨rfl, rfl⟩ := h
    exact .cons ha (.cons hb ih)
  | case4 x y rest h ih => exact .cons (.inl rfl) ih

/-- Where the pair does not occur nothing is replaced. -/
theorem replacePair_eq_self {a b c d : Char} (h : ¬ [a, b] <:+: cs) :
    replacePair a b c d cs = cs := by
  fun_induction replacePair a b c d cs with
  | case1 => rfl
  | case2 x => rfl
  | case3 x y rest hxy ih =>
    obtain ⟨rfl, rfl⟩ := hxy
    exact absurd (List.prefix_append [x, y] rest).isInfix h
  | case4 x y rest hxy ih => rw [ih fun hmark => h (List.infix_cons hmark)]

/-- Replacing keeps a character at the front, if only to put the first of the new pair there. -/
theorem head?_replacePair (a b c d y : Char) (rest : List Char) :
    (replacePair a b c d (y :: rest)).head? = some y ∨
      (replacePair a b c d (y :: rest)).head? = some c := by
  cases rest with
  | nil => exact .inl rfl
  | cons z rest =>
    rw [replacePair]
    split
    · exact .inr rfl
    · exact .inl rfl

/-- A replaced pair does not come back, if what stands for it cannot be part of one. -/
theorem not_infix_replacePair {a b c d : Char} (hd : d ≠ a) (hc : c ≠ b) (h : ¬ (c = a ∧ d = b))
    (cs : List Char) : ¬ [a, b] <:+: replacePair a b c d cs := by
  fun_induction replacePair a b c d cs with
  | case1 => simp
  | case2 x => intro hmark; simpa using hmark.length_le
  | case3 x y rest hxy ih =>
    simp only [List.infix_cons_iff, List.cons_prefix_cons, not_or, not_and]
    exact ⟨fun hca hdb => absurd ⟨hca.symm, hdb.symm⟩ h, fun hda => absurd hda.symm hd, ih⟩
  | case4 x y rest hxy ih =>
    rw [List.infix_cons_iff, List.cons_prefix_cons, not_or, not_and]
    refine ⟨fun hax hb => ?_, ih⟩
    have hhead : (replacePair a b c d (y :: rest)).head? = some b := by
      obtain ⟨more, hmore⟩ := hb
      rw [← hmore]
      rfl
    rcases head?_replacePair a b c d y rest with hy | hy
    · exact hxy ⟨hax.symm, Option.some.inj (hy.symm.trans hhead)⟩
    · exact hc (Option.some.inj (hy.symm.trans hhead))

theorem prefix_of_masks {mark : List Char} (hmark : '_' ∉ mark) (h : List.Forall₂ Masks cs ds)
    (hds : mark <+: ds) : mark <+: cs := by
  induction mark generalizing cs ds with
  | nil => exact List.nil_prefix
  | cons m mark ih =>
    obtain ⟨hm, hmark⟩ := List.ne_and_not_mem_of_not_mem_cons hmark
    obtain ⟨more, rfl⟩ := hds
    obtain ⟨c, cs, hc, hcs, rfl⟩ := List.forall₂_cons_right_iff.mp h
    obtain rfl := hc.resolve_right fun hstar => hm hstar.2.symm
    exact List.cons_prefix_cons.mpr ⟨rfl, ih hmark hcs (List.prefix_append mark more)⟩

/-- Masking makes no mark. -/
theorem infix_of_masks {mark : List Char} (hmark : '_' ∉ mark) (h : List.Forall₂ Masks cs ds)
    (hds : mark <:+: ds) : mark <:+: cs := by
  induction h with
  | nil => exact hds
  | cons hc hcs ih =>
    rcases List.infix_cons_iff.mp hds with hprefix | hds
    · exact (prefix_of_masks hmark (.cons hc hcs) hprefix).isInfix
    · exact List.infix_cons (ih hds)

/-! ## Lines that are disarmed -/

/-- Nothing but stars is masked. -/
theorem forall₂_disarm (cs : List Char) : List.Forall₂ Masks cs (disarm cs) := by
  have hopen := forall₂_replacePair (a := '/') (b := '*') (c := '/') (d := '_') (.inl rfl)
    (.inr ⟨rfl, rfl⟩) cs
  have hclose := forall₂_replacePair (a := '*') (b := '/') (c := '_') (d := '/') (.inr ⟨rfl, rfl⟩)
    (.inl rfl) (replacePair '/' '*' '/' '_' cs)
  exact Masks.forall₂_trans hopen hclose

theorem not_open_disarm (cs : List Char) : ¬ ['/', '*'] <:+: disarm cs := by
  intro h
  have hopen := infix_of_masks (by decide) (forall₂_replacePair (.inr ⟨rfl, rfl⟩) (.inl rfl) _) h
  exact not_infix_replacePair (by decide) (by decide) (by decide) cs hopen

theorem not_close_disarm (cs : List Char) : ¬ ['*', '/'] <:+: disarm cs :=
  not_infix_replacePair (by decide) (by decide) (by decide) _

/-- The text has no marks in it. -/
def Markless (cs : List Char) : Prop := ¬ ['/', '*'] <:+: cs ∧ ¬ ['*', '/'] <:+: cs

/-- A line without marks stays as it is. -/
theorem disarm_eq_self (h : Markless cs) : disarm cs = cs := by
  unfold disarm
  rw [replacePair_eq_self h.1, replacePair_eq_self h.2]

/-- How a line of a source stands in a comment: indented, with stars of marks masked, and without
the white space at its end. -/
structure Shows (part : List Char) (inner : String) : Prop where
  shown : ∃ masked blanks, List.Forall₂ Masks part masked ∧ (Markless part → masked = part) ∧
    "   ".toList ++ masked = inner.toList ++ blanks ∧ ∀ c ∈ blanks, Text.isBlank c = true
  unbroken : ∀ c ∈ inner.toList, Text.isLineBreak c = false
  trimmed : ∀ c, inner.toList.getLast? = some c → Text.isBlank c = false
  indented : inner = "" ∨ "   ".toList <+: inner.toList

theorem toList_innerLine (part : List Char) :
    (innerLine part).toList = Text.trimEnd ("   ".toList ++ disarm part) := by
  rw [innerLine, String.toList_ofList]
  rfl

theorem isPrefix_innerLine (part : List Char) :
    (innerLine part).toList <+: "   ".toList ++ disarm part := by
  rw [toList_innerLine]
  exact Text.isPrefix_trimEnd _

theorem not_isLineBreak_disarm (h : ∀ c ∈ cs, Text.isLineBreak c = false) :
    ∀ c ∈ disarm cs, Text.isLineBreak c = false := by
  intro d hd
  obtain ⟨c, hc, hmask⟩ := Fallible.exists_of_forall₂_right (forall₂_disarm cs) hd
  rcases hmask with rfl | ⟨-, rfl⟩
  · exact h d hc
  · decide

theorem shows_innerLine (h : ∀ c ∈ cs, Text.isLineBreak c = false) : Shows cs (innerLine cs) where
  shown := by
    refine ⟨disarm cs, ("   ".toList ++ disarm cs).rtakeWhile Text.isBlank, forall₂_disarm cs,
      disarm_eq_self, ?_, fun c hc => List.mem_rtakeWhile_imp hc⟩
    rw [toList_innerLine]
    exact List.rdropWhile_append_rtakeWhile.symm
  unbroken := by
    have hindent : ∀ c ∈ "   ".toList, Text.isLineBreak c = false := by
      intro c hc
      obtain rfl : c = ' ' := by simpa using hc
      decide
    intro c hc
    rcases List.mem_append.mp ((isPrefix_innerLine cs).subset hc) with hc | hc
    · exact hindent c hc
    · exact not_isLineBreak_disarm h c hc
  trimmed := by
    intro c hc
    rw [toList_innerLine] at hc
    exact Text.getLast?_trimEnd hc
  indented := by
    rw [toList_innerLine]
    have hindent : ∀ c ∈ "   ".toList, Text.isBlank c = true :=
      List.all_eq_true.mp (by decide)
    rcases Text.trimEnd_append hindent (disarm cs) with h | h
    · exact .inl (congrArg String.ofList h)
    · exact .inr h

/-- No mark is in a line of a comment, and none begins in the white space in front of it. -/
theorem markless_innerLine (part : List Char) : Markless (innerLine part).toList := by
  have hline {mark : List Char} (hne : mark ≠ []) (hmark : ' ' ∉ mark)
      (h : mark <:+: (innerLine part).toList) : mark <:+: disarm part := by
    have hindented := h.trans (isPrefix_innerLine part).isInfix
    refine ((Text.infix_append_cons hne hmark [' ', ' '] _).mp hindented).resolve_left ?_
    intro hindent
    obtain ⟨m, rest, rfl⟩ := List.exists_cons_of_ne_nil hne
    have hm := hindent.subset List.mem_cons_self
    simp only [List.mem_cons, List.not_mem_nil, or_false, or_self] at hm
    exact List.ne_of_not_mem_cons hmark hm.symm
  exact ⟨fun h => not_open_disarm part (hline (by decide) (by decide) h),
    fun h => not_close_disarm part (hline (by decide) (by decide) h)⟩

/-! ## The comment -/

/-- The text is one comment for every reader: marks stand only at its start and at its end. -/
structure Closed (text : String) : Prop where
  opens : ∀ before after, text.toList = before ++ ['/', '*'] ++ after → before = []
  closes : ∀ before after, text.toList = before ++ ['*', '/'] ++ after → after = []
  nested : IsWhole text
  flat : IsWholeFlat text

/-- A mark is in lines between two others only if it is in one of them. -/
theorem not_infix_between {mark first last : List Char} {parts : List (List Char)}
    (hne : mark ≠ []) (hfeed : '\n' ∉ mark) (hfirst : ¬ mark <:+: first)
    (hparts : ∀ part ∈ parts, ¬ mark <:+: part) (hlast : ¬ mark <:+: last) :
    ¬ mark <:+: ['\n'].intercalate (first :: (parts ++ [last])) := by
  rw [Text.infix_intercalate hne hfeed]
  rintro ⟨line, hline, hmark⟩
  simp only [List.mem_cons, List.mem_append, List.not_mem_nil, or_false] at hline
  rcases hline with rfl | hline | rfl
  · exact hfirst hmark
  · exact hparts line hline hmark
  · exact hlast hmark

/-- Lines in a comment, with its marks on lines of their own. -/
def enclose (inner : List String) : String := "\n".intercalate ("/*" :: (inner ++ ["*/"]))

section

variable {inner : List String}

theorem toList_enclose (inner : List String) : (enclose inner).toList =
    ['\n'].intercalate (['/', '*'] :: (inner.map String.toList ++ [['*', '/']])) := by
  rw [enclose, String.toList_intercalate, List.map_cons, List.map_append]
  rfl

/-- Without its first character the text does not open a comment. -/
theorem eq_nil_of_open (h : ∀ line ∈ inner, Markless line.toList) (before after : List Char)
    (htext : (enclose inner).toList = before ++ ['/', '*'] ++ after) : before = [] := by
  have htail : (enclose inner).toList =
      '/' :: ['\n'].intercalate (['*'] :: (inner.map String.toList ++ [['*', '/']])) := by
    rw [toList_enclose, Text.intercalate_cons, Text.intercalate_cons, List.cons_append]
  have hopen : ¬ ['/', '*'] <:+:
      ['\n'].intercalate (['*'] :: (inner.map String.toList ++ [['*', '/']])) :=
    not_infix_between (by decide) (by decide) (by decide)
      (List.forall_mem_map.mpr fun line hline => (h line hline).1) (by decide)
  cases before with
  | nil => rfl
  | cons c before =>
    rw [htail] at htext
    exact absurd ⟨before, after, (List.cons.inj htext).2.symm⟩ hopen

theorem toList_enclose_append (inner : List String) : (enclose inner).toList =
    '/' :: '*' :: ((inner.map String.toList).flatMap ('\n' :: ·) ++ ['\n']) ++ ['*', '/'] := by
  rw [toList_enclose, Text.intercalate_cons]
  simp

/-- Without its last character the text does not close a comment. -/
theorem no_close_enclose (h : ∀ line ∈ inner, Markless line.toList) : ¬ ['*', '/'] <:+:
    '/' :: '*' :: ((inner.map String.toList).flatMap ('\n' :: ·) ++ ['\n']) ++ ['*'] := by
  have hclose : ¬ ['*', '/'] <:+:
      ['\n'].intercalate (['/', '*'] :: (inner.map String.toList ++ [['*']])) :=
    not_infix_between (by decide) (by decide) (by decide)
      (List.forall_mem_map.mpr fun line hline => (h line hline).2) (by decide)
  rw [Text.intercalate_cons] at hclose
  simpa using hclose

theorem eq_nil_of_close (h : ∀ line ∈ inner, Markless line.toList) (before after : List Char)
    (htext : (enclose inner).toList = before ++ ['*', '/'] ++ after) : after = [] := by
  rcases List.eq_nil_or_concat' after with rfl | ⟨after, c, rfl⟩
  · rfl
  · rw [toList_enclose_append, List.append_cons, ← List.append_assoc] at htext
    exact absurd ⟨before, after, (List.append_inj_left' htext rfl).symm⟩ (no_close_enclose h)

theorem isWhole_enclose (h : ∀ line ∈ inner, Markless line.toList) : IsWhole (enclose inner) := by
  have hbody : (enclose inner).toList =
      '/' :: '*' :: '\n' :: ['\n'].intercalate (inner.map String.toList ++ [['*', '/']]) := by
    rw [toList_enclose, List.intercalate_cons_of_ne_nil (by simp)]
    rfl
  have hneutral : ∀ part ∈ inner.map String.toList, Neutral part :=
    List.forall_mem_map.mpr fun line hline => neutral_of_no_marks (h line hline).1 (h line hline).2
  rw [isWhole_iff hbody, read_cons (by decide) (by decide),
    read_intercalate (by decide) (by decide) hneutral (by simp), List.intercalate_singleton, read]

theorem isWholeFlat_enclose (h : ∀ line ∈ inner, Markless line.toList) :
    IsWholeFlat (enclose inner) := by
  intro rest
  have hclose : ¬ ['*', '/'] <:+:
      (inner.map String.toList).flatMap ('\n' :: ·) ++ ['\n'] ++ ['*'] :=
    fun hmark => no_close_enclose h (List.infix_cons (List.infix_cons hmark))
  rw [toList_enclose_append]
  simpa [behindFlat?] using afterClose?_append hclose rest

end

/-- A source stays in its comment, whatever it is: its lines are the lines of the comment, and
nothing in them ends the comment or opens another one. -/
theorem ofSource_confined (source : String) :
    (∃ parts inner, Text.Split source.toList parts ∧ List.Forall₂ Shows parts inner ∧
      ofSource source = "/*" :: (inner ++ ["*/"])) ∧
    Closed ("\n".intercalate (ofSource source)) := by
  have hsplit := Text.split_lines source.toList
  constructor
  · refine ⟨_, (Text.lines source.toList).map innerLine, hsplit, ?_, rfl⟩
    rw [List.forall₂_map_right_iff, List.forall₂_same]
    exact fun part hpart => shows_innerLine fun c hc => hsplit.not_isLineBreak hpart hc
  · have h : ∀ line ∈ (Text.lines source.toList).map innerLine, Markless line.toList :=
      List.forall_mem_map.mpr fun part _ => markless_innerLine part
    exact ⟨eq_nil_of_open h, eq_nil_of_close h, isWhole_enclose h, isWholeFlat_enclose h⟩

/-- Marks that overlap are disarmed as well. -/
example : ofSource "/*/\r\n*/* \x0b" = ["/*", "   /_/", "   _/_", "*/"] := by decide +kernel

end ShaderBindings.Comment
