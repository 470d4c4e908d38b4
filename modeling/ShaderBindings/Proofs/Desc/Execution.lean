/-
  What statements leave behind when they are carried out, one after another, on a description
  that is all zeros (`Content.execute`). A statement at an index outside of its array ends the
  run (`Place.InBounds`).

  Statements that assign each place once, inside its array, leave what they say, in whatever
  order they stand (`execute_zeroed`). So it is enough to know which place gets which value, and
  that is put together from the parts of a description (`Assigns`): parts at different places
  one behind the other (`Assigns.append`), and parts for different slots one after another
  (`Assigns.flatten`). Different places have different texts (`Place.eq_of_text_eq`), so the
  same holds of the written statements.
-/
import Mathlib.Data.List.Nodup
import Mathlib.Logic.Function.Basic
import ShaderBindings.Proofs.Desc.Stage

namespace ShaderBindings

namespace Desc

/-! ## Carrying out statements -/

/-- An index of the place is below the bound of its array. The uniforms of a block have no bound
of their own here. -/
def Place.InBounds : Place → Prop
  | .attr slot _ => slot < ResourceKind.attr.bound
  | .stage _ (.block slot _) => slot < ResourceKind.uniformBlock.bound
  | .stage _ (.image slot _) => slot < ResourceKind.image.bound
  | .stage _ (.sampler slot _) => slot < ResourceKind.sampler.bound
  | .stage _ (.pair slot _) => slot < ResourceKind.imageSampler.bound
  | _ => True

instance (p : Place) : Decidable p.InBounds := by
  unfold Place.InBounds
  split <;> infer_instance

/-- What a description holds at each place; nothing where it is still zero. -/
abbrev Content := Place → Option Value

def Content.zeroed : Content := fun _ => none

/-- Carries out a statement, if its place is there. -/
def Content.assign (c : Content) (a : Assignment) : Option Content :=
  if a.place.InBounds then some (Function.update c a.place (some a.value)) else none

/-- Carries out statements in order. -/
def Content.execute (c : Content) (as : List Assignment) : Option Content := as.foldlM assign c

/-- The statements assign no place twice, and at each place what the relation says. -/
structure Assigns (as : List Assignment) (R : Place → Value → Prop) : Prop where
  once : (as.map Assignment.place).Nodup
  mem : ∀ p v, ⟨p, v⟩ ∈ as ↔ R p v

variable {as bs : List Assignment} {R S : Place → Value → Prop} {c : Content}

/-- Statements at different places leave their values, and all else as it was. -/
theorem execute_eq (hbounds : ∀ a ∈ as, a.place.InBounds)
    (honce : (as.map Assignment.place).Nodup) :
    ∃ d : Content, c.execute as = some d ∧ (∀ a ∈ as, d a.place = some a.value) ∧
      ∀ p, p ∉ as.map Assignment.place → d p = c p := by
  induction as generalizing c with
  | nil => exact ⟨c, rfl, by simp, fun _ _ => rfl⟩
  | cons a as ih =>
    obtain ⟨ha, hbounds⟩ := List.forall_mem_cons.mp hbounds
    obtain ⟨hnew, honce⟩ := List.nodup_cons.mp honce
    obtain ⟨d, hd, hassigned, hother⟩ :=
      ih (c := Function.update c a.place (some a.value)) hbounds honce
    refine ⟨d, ?_, List.forall_mem_cons.mpr ⟨?_, hassigned⟩, fun p hp => ?_⟩
    · rw [Content.execute, List.foldlM_cons, Content.assign, if_pos ha]
      exact hd
    · rw [hother _ hnew, Function.update_self]
    · rw [List.map_cons, List.mem_cons, not_or] at hp
      rw [hother p hp.2, Function.update_of_ne hp.1]

namespace Assigns

/-- Statements that assign the content of a description leave it behind. -/
theorem execute_zeroed (h : Assigns as fun p v => c p = some v)
    (hbounds : ∀ a ∈ as, a.place.InBounds) : Content.zeroed.execute as = some c := by
  obtain ⟨d, hd, hassigned, hother⟩ := execute_eq (c := Content.zeroed) hbounds h.once
  rw [hd]
  refine congrArg some (funext fun p => ?_)
  cases hp : c p with
  | some v => exact hassigned ⟨p, v⟩ ((h.mem p v).mpr hp)
  | none =>
    refine hother p fun hmem => ?_
    obtain ⟨a, ha, rfl⟩ := List.mem_map.mp hmem
    have hvalue : c a.place = some a.value := (h.mem _ _).mp ha
    rw [hp] at hvalue
    simp at hvalue

theorem congr (h : Assigns as R) (hRS : ∀ p v, R p v ↔ S p v) : Assigns as S :=
  ⟨h.once, fun p v => (h.mem p v).trans (hRS p v)⟩

theorem of_mem (h : Assigns as R) {a : Assignment} (ha : a ∈ as) : R a.place a.value :=
  (h.mem _ _).mp ha

theorem nil : Assigns [] fun _ _ => False := ⟨List.nodup_nil, by simp⟩

theorem append (h : Assigns as R) (h' : Assigns bs S) (hapart : ∀ p v w, R p v → ¬ S p w) :
    Assigns (as ++ bs) fun p v => R p v ∨ S p v where
  once := by
    rw [List.map_append, List.nodup_append']
    refine ⟨h.once, h'.once, ?_⟩
    intro p hp hp'
    obtain ⟨a, ha, rfl⟩ := List.mem_map.mp hp
    obtain ⟨b, hb, hplace⟩ := List.mem_map.mp hp'
    exact hapart _ _ _ (h.of_mem ha) (hplace ▸ h'.of_mem hb)
  mem p v := by rw [List.mem_append, h.mem, h'.mem]

/-- Parts at different places, one after another. -/
theorem flatten {ι : Type} {xs : List ι} {parts : List (List Assignment)}
    {R : ι → Place → Value → Prop} (h : List.Forall₂ (fun x part => Assigns part (R x)) xs parts)
    (hapart : xs.Pairwise fun x y => ∀ p v w, R x p v → ¬ R y p w) :
    Assigns parts.flatten fun p v => ∃ x ∈ xs, R x p v := by
  induction h with
  | nil => exact nil.congr (by simp)
  | @cons x part xs parts hx _ ih =>
    obtain ⟨hhead, htail⟩ := List.pairwise_cons.mp hapart
    refine (hx.append (ih htail) fun p v w hv hw => ?_).congr fun p v => by simp
    obtain ⟨y, hy, hw⟩ := hw
    exact hhead y hy p v w hv hw

end Assigns

/-! ## Places as they are written -/

theorem digits_injective {m n : Nat} (h : Text.digits m = Text.digits n) : m = n := by
  have hdigits : Nat.toDigits 10 m = Nat.toDigits 10 n := by
    rw [← Text.toList_digits, h, Text.toList_digits]
  rw [← Nat.ofDigitChars_ten_toDigits (n := m), hdigits, Nat.ofDigitChars_ten_toDigits]

/-- Texts that are cut at the first place of a character have equal parts. -/
theorem eq_of_append_cons_eq {c : Char} {front front' back back' : List Char} (hc : c ∉ front)
    (hc' : c ∉ front') (h : front ++ c :: back = front' ++ c :: back') :
    front = front' ∧ back = back' := by
  induction front generalizing front' with
  | nil =>
    cases front' with
    | nil => exact ⟨rfl, (List.cons.inj h).2⟩
    | cons d front' => exact absurd (List.mem_cons.mpr (.inl (List.cons.inj h).1)) hc'
  | cons d front ih =>
    cases front' with
    | nil => exact absurd (List.mem_cons.mpr (.inl (List.cons.inj h).1.symm)) hc
    | cons d' front' =>
      obtain ⟨rfl, hrest⟩ := List.cons.inj h
      obtain ⟨rfl, hback⟩ :=
        ih (List.not_mem_of_not_mem_cons hc) (List.not_mem_of_not_mem_cons hc') hrest
      exact ⟨rfl, hback⟩

/-- A field behind an index is read up to the bracket, the index up to the next one. -/
theorem indexed_append_inj {field field' rest rest' : String} {m n : Nat}
    (hfield : '[' ∉ field.toList) (hfield' : '[' ∉ field'.toList)
    (h : indexed field m ++ "." ++ rest = indexed field' n ++ "." ++ rest') :
    field = field' ∧ m = n ∧ rest = rest' := by
  have hdigits (k : Nat) : ']' ∉ (Text.digits k).toList := fun hmem => by
    rw [Text.toList_digits] at hmem
    exact absurd (Nat.isDigit_of_mem_toDigits (by decide) (by decide) hmem) (by decide)
  have hlist := congrArg String.toList h
  simp only [indexed, String.toList_append, List.append_assoc] at hlist
  change field.toList ++ '[' :: ((Text.digits m).toList ++ ']' :: '.' :: rest.toList) =
    field'.toList ++ '[' :: ((Text.digits n).toList ++ ']' :: '.' :: rest'.toList) at hlist
  obtain ⟨hf, hlist⟩ := eq_of_append_cons_eq hfield hfield' hlist
  obtain ⟨hn, hlist⟩ := eq_of_append_cons_eq (hdigits m) (hdigits n) hlist
  exact ⟨String.toList_inj.mp hf, digits_injective (String.toList_inj.mp hn),
    String.toList_inj.mp (List.cons.inj hlist).2⟩

theorem AttrField.text_injective : Function.Injective AttrField.text := by
  intro f g
  cases f <;> cases g <;> decide

theorem UniformField.text_injective : Function.Injective UniformField.text := by
  intro f g
  cases f <;> cases g <;> decide

theorem ImageField.text_injective : Function.Injective ImageField.text := by
  intro f g
  cases f <;> cases g <;> decide

theorem SamplerField.text_injective : Function.Injective SamplerField.text := by
  intro f g
  cases f <;> cases g <;> decide

theorem PairField.text_injective : Function.Injective PairField.text := by
  intro f g
  cases f <;> cases g <;> decide

/-- A text with an index in it is none of the plain ones. -/
theorem indexed_append_ne {field rest other : String} {n : Nat} (h : '[' ∉ other.toList) :
    indexed field n ++ "." ++ rest ≠ other := by
  rintro rfl
  exact h (by simp [indexed])

theorem BlockField.text_injective : Function.Injective BlockField.text := by
  intro f g h
  cases f with
  | size =>
    cases g with
    | size => rfl
    | layout => exact absurd h (by decide)
    | uniform => exact absurd h.symm (indexed_append_ne (by decide))
  | layout =>
    cases g with
    | size => exact absurd h (by decide)
    | layout => rfl
    | uniform => exact absurd h.symm (indexed_append_ne (by decide))
  | uniform index f =>
    cases g with
    | size => exact absurd h (indexed_append_ne (by decide))
    | layout => exact absurd h (indexed_append_ne (by decide))
    | uniform index' f' =>
      obtain ⟨-, rfl, hf⟩ := indexed_append_inj (by decide) (by decide) h
      rw [UniformField.text_injective hf]

/-- The array that a place is in, its index there, and what is behind it. -/
def StagePlace.cell? : StagePlace → Option (String × Nat × String)
  | block slot f => some ("uniform_blocks", slot, f.text)
  | image slot f => some ("images", slot, f.text)
  | sampler slot f => some ("samplers", slot, f.text)
  | pair slot f => some ("image_sampler_pairs", slot, f.text)
  | _ => none

theorem StagePlace.text_of_cell? {p : StagePlace} {field rest : String} {slot : Nat}
    (h : p.cell? = some (field, slot, rest)) :
    p.text = indexed field slot ++ "." ++ rest ∧ '[' ∉ field.toList := by
  cases p <;> simp only [cell?, reduceCtorEq, Option.some.injEq, Prod.mk.injEq] at h
  all_goals
    obtain ⟨rfl, rfl, rfl⟩ := h
    exact ⟨rfl, by decide⟩

theorem StagePlace.bracket_notMem_of_cell? {p : StagePlace} (h : p.cell? = none) :
    '[' ∉ p.text.toList := by
  cases p <;> simp only [cell?, reduceCtorEq] at h
  all_goals decide

theorem StagePlace.eq_of_cell? {p q : StagePlace} {cell : String × Nat × String}
    (hp : p.cell? = some cell) (hq : q.cell? = some cell) : p = q := by
  have h : p.cell? = q.cell? := hp.trans hq.symm
  cases p <;> simp only [cell?, reduceCtorEq] at hp <;>
    cases q <;>
    simp only [cell?, reduceCtorEq, Option.some.injEq, Prod.mk.injEq, String.reduceEq, false_and,
      true_and, BlockField.text_injective.eq_iff, ImageField.text_injective.eq_iff,
      SamplerField.text_injective.eq_iff, PairField.text_injective.eq_iff] at h
  all_goals rw [h.1, h.2]

theorem StagePlace.text_injective : Function.Injective StagePlace.text := by
  intro p q h
  cases hp : p.cell? with
  | none =>
    cases hq : q.cell? with
    | none =>
      cases p <;> simp only [cell?, reduceCtorEq] at hp <;>
        cases q <;> simp only [cell?, reduceCtorEq] at hq
      all_goals revert h; decide
    | some cell =>
      rw [(text_of_cell? hq).1] at h
      exact absurd h.symm (indexed_append_ne (bracket_notMem_of_cell? hp))
  | some cell =>
    obtain ⟨htext, hfield⟩ := text_of_cell? hp
    cases hq : q.cell? with
    | none =>
      rw [htext] at h
      exact absurd h (indexed_append_ne (bracket_notMem_of_cell? hq))
    | some cell' =>
      obtain ⟨htext', hfield'⟩ := text_of_cell? hq
      rw [htext, htext'] at h
      obtain ⟨hname, hslot, hrest⟩ := indexed_append_inj hfield hfield' h
      have hcell : cell = cell' := Prod.ext hname (Prod.ext hslot hrest)
      exact eq_of_cell? hp (hcell ▸ hq)

/-- The place is in one of the two stages of a program, or outside of them. -/
def Place.Staged : Place → Prop
  | .stage tag _ => ∃ s : ProgramStage, tag = s.tag
  | _ => True

/-- The text of a place in a program's description tells the place. -/
theorem Place.eq_of_text_eq {p q : Place} (hp : p.Staged) (hq : q.Staged) (h : p.text = q.text) :
    p = q := by
  -- behind the common front the kinds of places differ in their first letter
  have hfront : (p.text.toList.drop 5).head? = (q.text.toList.drop 5).head? := by rw [h]
  cases p with
  | attr slot f =>
    cases q with
    | attr slot' f' =>
      simp only [text, String.append_assoc, String.append_right_inj] at h
      rw [← String.append_assoc, ← String.append_assoc] at h
      obtain ⟨-, rfl, hf⟩ := indexed_append_inj (by decide) (by decide) h
      rw [AttrField.text_injective hf]
    | stage tag place =>
      obtain ⟨s, rfl⟩ := hq
      cases s <;> simp [text, indexed, ProgramStage.tag] at hfront
    | label => simp [text, indexed] at hfront
  | stage tag place =>
    obtain ⟨s, rfl⟩ := hp
    cases q with
    | attr slot f => cases s <;> simp [text, indexed, ProgramStage.tag] at hfront
    | stage tag' place' =>
      obtain ⟨s', rfl⟩ := hq
      have hs : s = s' := by
        revert hfront
        cases s <;> cases s' <;> simp [text, ProgramStage.tag]
      subst hs
      simp only [text, String.append_assoc, String.append_right_inj] at h
      rw [StagePlace.text_injective h]
    | label => cases s <;> simp [text, ProgramStage.tag] at hfront
  | label =>
    cases q with
    | attr slot f => simp [text, indexed] at hfront
    | stage tag place =>
      obtain ⟨s, rfl⟩ := hq
      cases s <;> simp [text, ProgramStage.tag] at hfront
    | label => rfl

/-- Statements at different places of a program's description have different texts in front of
their values. -/
theorem nodup_texts {as : List Assignment} (hstaged : ∀ a ∈ as, a.place.Staged)
    (honce : (as.map Assignment.place).Nodup) : (as.map fun a => a.place.text).Nodup := by
  have htexts : (as.map fun a => a.place.text) = (as.map Assignment.place).map Place.text := by
    rw [List.map_map]
    rfl
  rw [htexts]
  refine honce.map_on fun p hp q hq h => ?_
  obtain ⟨a, ha, rfl⟩ := List.mem_map.mp hp
  obtain ⟨b, hb, rfl⟩ := List.mem_map.mp hq
  exact Place.eq_of_text_eq (hstaged a ha) (hstaged b hb) h

end Desc

end ShaderBindings
