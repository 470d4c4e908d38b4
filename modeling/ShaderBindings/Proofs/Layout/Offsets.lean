/-
  Where the fields of a record lie (`BlockLayout.starts`). A field starts at its offset or where
  the field before it ends, whichever comes later; so all fields are at their offsets exactly
  when the uniforms of the block lie in order of declaration without overlaps
  (`UniformBlock.InOrder`, `starts_ofBlock_eq_offsets_iff`). The segments add up to the size of
  the record (`sum_ofBlock`), which is the end of the last field rounded up to sixteen bytes
  (`size_ofBlock`).

  All lemmas about segments are inductions on the uniforms, with the cursor left general.
-/
import Mathlib
import ShaderBindings.Layout.Block
import ShaderBindings.Proofs.Layout.Rounding

namespace ShaderBindings

namespace Layout

/-- Where the fields among segments start, the segments being laid out from the cursor on. -/
def startsFrom (cursor : Int) : List Segment → List Int
  | [] => []
  | .padding n :: rest => startsFrom (cursor + n) rest
  | .field f :: rest => cursor :: startsFrom (cursor + f.uniform.size) rest

end Layout

namespace BlockLayout

/-- Where the fields start. -/
def starts (l : BlockLayout) : List Int := Layout.startsFrom 0 l.segments

/-- Where the fields end. -/
def ends (l : BlockLayout) : List Int :=
  List.zipWith (fun start f => start + f.uniform.size) l.starts l.fields

/-- Where the last field ends, zero without fields. -/
def lastEnd (l : BlockLayout) : Int := l.ends.getLast?.getD 0

end BlockLayout

/-- The uniforms lie in order of declaration: none below zero, and none in front of the end of
the one before it. -/
structure UniformBlock.InOrder (b : UniformBlock) : Prop where
  first : ∀ u ∈ b.uniforms.head?, 0 ≤ u.offset
  later : b.uniforms.IsChain fun u v => u.offset + u.size ≤ v.offset

namespace Layout

variable {hosts : HostTypes}

/-! ## Segments from a cursor -/

theorem startsFrom_gap (cursor n : Int) (rest : List Segment) :
    startsFrom cursor (gap n ++ rest) = startsFrom (cursor + max n 0) rest := by
  unfold gap
  split
  · rw [Int.max_eq_left (by omega)]
    rfl
  · rw [Int.max_eq_right (by omega), Int.add_zero]
    rfl

theorem startsFrom_cons (cursor : Int) (u : Uniform) (us : List Uniform) :
    startsFrom cursor (segmentsFrom hosts cursor (u :: us)) =
      max u.offset cursor ::
        startsFrom (max u.offset cursor + u.size)
          (segmentsFrom hosts (max u.offset cursor + u.size) us) := by
  have hmax : cursor + max (u.offset - cursor) 0 = max u.offset cursor := by omega
  rw [segmentsFrom, startsFrom_gap, hmax]
  rfl

theorem startsFrom_nil (cursor : Int) : startsFrom cursor (segmentsFrom hosts cursor []) = [] := by
  have h := startsFrom_gap cursor (roundUp cursor 16 - cursor) []
  rw [List.append_nil] at h
  rw [segmentsFrom, h]
  rfl

/-- A start is the sum of the sizes in front of it. -/
theorem startsFrom_append_field (cursor : Int) (before after : List Segment) (f : Field) :
    (startsFrom cursor (before ++ .field f :: after))[(before.filterMap Segment.field?).length]? =
      some (cursor + (before.map Segment.size).sum) := by
  induction before generalizing cursor with
  | nil => simp [startsFrom]
  | cons s before ih =>
    cases s with
    | padding n =>
      have h := ih (cursor + n)
      rw [Int.add_assoc] at h
      exact h
    | field g =>
      have h := ih (cursor + g.uniform.size)
      rw [Int.add_assoc] at h
      exact h

theorem filterMap_field?_gap (n : Int) : (gap n).filterMap Segment.field? = [] := by
  unfold gap
  split <;> rfl

theorem fields_segmentsFrom (cursor : Int) (us : List Uniform) :
    (segmentsFrom hosts cursor us).filterMap Segment.field? =
      us.map fun u => ⟨u, OdinType.ofUniform hosts u⟩ := by
  induction us generalizing cursor with
  | nil => rw [segmentsFrom, filterMap_field?_gap]; rfl
  | cons u us ih =>
    rw [segmentsFrom, List.filterMap_append, filterMap_field?_gap, List.nil_append, List.map_cons,
      ← ih (max u.offset cursor + u.size)]
    rfl

theorem sum_gap (n : Int) : ((gap n).map Segment.size).sum = max n 0 := by
  unfold gap
  split
  · rw [Int.max_eq_left (by omega)]
    simp [Segment.size]
  · rw [Int.max_eq_right (by omega)]
    rfl

theorem sum_segmentsFrom (cursor : Int) (us : List Uniform) :
    ((segmentsFrom hosts cursor us).map Segment.size).sum =
      roundUp (endFrom cursor us) 16 - cursor := by
  induction us generalizing cursor with
  | nil =>
    have := le_roundUp_sixteen cursor
    rw [segmentsFrom, sum_gap, endFrom]
    omega
  | cons u us ih =>
    rw [segmentsFrom, List.map_append, List.sum_append, sum_gap, List.map_cons, List.sum_cons, ih,
      endFrom]
    simp only [Segment.size]
    omega

theorem filterMap_padding?_gap_pos (n : Int) : ∀ m ∈ (gap n).filterMap Segment.padding?, 0 < m := by
  unfold gap
  split
  · simpa [Segment.padding?]
  · simp

theorem paddings_segmentsFrom_pos (cursor : Int) (us : List Uniform) :
    ∀ m ∈ (segmentsFrom hosts cursor us).filterMap Segment.padding?, 0 < m := by
  induction us generalizing cursor with
  | nil => exact filterMap_padding?_gap_pos _
  | cons u us ih =>
    intro m hm
    rw [segmentsFrom, List.filterMap_append, List.mem_append] at hm
    rcases hm with hm | hm
    · exact filterMap_padding?_gap_pos _ m hm
    · exact ih _ m hm

/-- No two paddings follow each other: behind a gap comes a field or nothing. -/
theorem segmentsFrom_isChain (cursor : Int) (us : List Uniform) :
    (segmentsFrom hosts cursor us).IsChain fun s t => s.padding? = none ∨ t.padding? = none := by
  induction us generalizing cursor with
  | nil =>
    rw [segmentsFrom]
    unfold gap
    split <;> simp
  | cons u us ih =>
    have hfield : (Segment.field ⟨u, OdinType.ofUniform hosts u⟩ ::
        segmentsFrom hosts (max u.offset cursor + u.size) us).IsChain
          fun s t => s.padding? = none ∨ t.padding? = none :=
      (ih _).cons fun _ _ => Or.inl rfl
    rw [segmentsFrom]
    unfold gap
    split
    · exact hfield.cons (by simp [Segment.padding?])
    · exact hfield

theorem getLast?_segmentsFrom_lt {cursor n : Int} {us : List Uniform}
    (h : (segmentsFrom hosts cursor us).getLast? = some (.padding n)) : n < 16 := by
  induction us generalizing cursor with
  | nil =>
    have := roundUp_sixteen_lt cursor
    rw [segmentsFrom] at h
    unfold gap at h
    split at h
    · simp at h
      omega
    · simp at h
  | cons u us ih =>
    rw [segmentsFrom, List.getLast?_append, List.getLast?_cons] at h
    cases hlast : (segmentsFrom hosts (max u.offset cursor + u.size) us).getLast? with
    | none => simp [hlast] at h
    | some s =>
      rw [hlast] at h
      have hpadding : (segmentsFrom hosts (max u.offset cursor + u.size) us).getLast? =
          some (.padding n) := by simpa [hlast] using h
      exact ih hpadding

/-! ## Starts and ends -/

/-- The ends of uniforms that are laid out from the cursor on. -/
def endsFrom (hosts : HostTypes) (cursor : Int) (us : List Uniform) : List Int :=
  List.zipWith (fun start (f : Field) => start + f.uniform.size)
    (startsFrom cursor (segmentsFrom hosts cursor us))
    (us.map fun u => ⟨u, OdinType.ofUniform hosts u⟩)

theorem endsFrom_cons (cursor : Int) (u : Uniform) (us : List Uniform) :
    endsFrom hosts cursor (u :: us) =
      (max u.offset cursor + u.size) :: endsFrom hosts (max u.offset cursor + u.size) us := by
  rw [endsFrom, startsFrom_cons]
  rfl

/-- The uniform and the end in front of it decide where a field starts. -/
theorem startsFrom_eq_zipWith (cursor : Int) (us : List Uniform) :
    startsFrom cursor (segmentsFrom hosts cursor us) =
      List.zipWith (fun u before => max u.offset before) us
        (cursor :: endsFrom hosts cursor us) := by
  induction us generalizing cursor with
  | nil => exact startsFrom_nil cursor
  | cons u us ih =>
    rw [startsFrom_cons, endsFrom_cons, List.zipWith_cons_cons, ih]

theorem getLast?_endsFrom (cursor : Int) (us : List Uniform) :
    (endsFrom hosts cursor us).getLast?.getD cursor = endFrom cursor us := by
  induction us generalizing cursor with
  | nil => simp [endsFrom, endFrom]
  | cons u us ih =>
    rw [endsFrom_cons, List.getLast?_cons, Option.getD_some, ih, endFrom]

/-- All fields are at their offsets exactly when no uniform reaches in front of the cursor or
into the one before it. -/
theorem startsFrom_eq_offsets_iff (cursor : Int) (us : List Uniform) :
    startsFrom cursor (segmentsFrom hosts cursor us) = us.map Uniform.offset ↔
      (∀ u ∈ us.head?, cursor ≤ u.offset) ∧
        us.IsChain fun u v => u.offset + u.size ≤ v.offset := by
  induction us generalizing cursor with
  | nil => simp [startsFrom_nil]
  | cons u us ih =>
    rw [startsFrom_cons, List.map_cons, List.cons.injEq, ih, List.isChain_cons]
    constructor
    · intro h
      obtain ⟨hmax, hhead, hchain⟩ := h
      rw [hmax] at hhead
      exact ⟨by simp; omega, hhead, hchain⟩
    · intro h
      obtain ⟨hfirst, hhead, hchain⟩ := h
      have hmax : max u.offset cursor = u.offset := Int.max_eq_left (hfirst u rfl)
      rw [hmax]
      exact ⟨rfl, hhead, hchain⟩

/-- Uniforms in order end where the last one ends. -/
theorem endFrom_eq_of_inOrder {cursor : Int} {us : List Uniform} {last : Uniform}
    (hfirst : ∀ u ∈ us.head?, cursor ≤ u.offset)
    (hlater : us.IsChain fun u v => u.offset + u.size ≤ v.offset)
    (hlast : us.getLast? = some last) : endFrom cursor us = last.offset + last.size := by
  induction us generalizing cursor with
  | nil => simp at hlast
  | cons u us ih =>
    have hmax : max u.offset cursor = u.offset := Int.max_eq_left (hfirst u rfl)
    rw [List.isChain_cons] at hlater
    rw [endFrom, hmax]
    cases us with
    | nil =>
      obtain rfl : u = last := by simpa using hlast
      rfl
    | cons v vs => exact ih hlater.1 hlater.2 (by rwa [List.getLast?_cons_cons] at hlast)

end Layout

namespace BlockLayout

open Layout

variable (hosts : HostTypes) (b : UniformBlock)

theorem fields_ofBlock :
    (ofBlock hosts b).fields = b.uniforms.map fun u => ⟨u, OdinType.ofUniform hosts u⟩ :=
  fields_segmentsFrom 0 b.uniforms

theorem ends_ofBlock : (ofBlock hosts b).ends = endsFrom hosts 0 b.uniforms := by
  rw [ends, fields_ofBlock]
  rfl

theorem lastEnd_ofBlock : (ofBlock hosts b).lastEnd = endFrom 0 b.uniforms := by
  rw [lastEnd, ends_ofBlock, getLast?_endsFrom]

theorem starts_ofBlock :
    (ofBlock hosts b).starts =
      List.zipWith (fun u before => max u.offset before) b.uniforms
        (0 :: (ofBlock hosts b).ends) := by
  rw [ends_ofBlock]
  exact startsFrom_eq_zipWith 0 b.uniforms

theorem sum_ofBlock :
    ((ofBlock hosts b).segments.map Segment.size).sum = (ofBlock hosts b).size := by
  rw [ofBlock, sum_segmentsFrom, Int.sub_zero]

theorem size_ofBlock : (ofBlock hosts b).size = roundUp (ofBlock hosts b).lastEnd 16 := by
  rw [lastEnd_ofBlock]
  rfl

theorem starts_ofBlock_eq_offsets_iff :
    (ofBlock hosts b).starts = b.uniforms.map Uniform.offset ↔ b.InOrder :=
  (startsFrom_eq_offsets_iff 0 b.uniforms).trans
    ⟨fun h => ⟨h.1, h.2⟩, fun h => ⟨h.first, h.later⟩⟩

/-- The size that a block is told to have rounds to that of its record, if it reaches the end of
the last uniform and not beyond the record. -/
theorem roundUp_size_eq {hosts : HostTypes} {b : UniformBlock} {last : Uniform} (h : b.InOrder)
    (hlast : b.uniforms.getLast? = some last) (hle : last.offset + last.size ≤ b.size)
    (hge : b.size ≤ roundUp (last.offset + last.size) 16) :
    roundUp b.size 16 = (ofBlock hosts b).size := by
  have hend := endFrom_eq_of_inOrder h.first h.later hlast
  rw [size_ofBlock, lastEnd_ofBlock, hend]
  exact roundUp_sixteen_eq_of_between hle hge

end BlockLayout

end ShaderBindings
