/-
  Lists in an order, of which there is one with given elements: a strict order
  (`eq_of_pairwise_asymm`), or the order of a key, where what has the same key stays as it was
  (`StablySorted.unique`). Sorting by the key gives the second (`StablySorted.mergeSort`).
-/
import Mathlib.Data.List.Sort

namespace ShaderBindings

/-- Lists in a strict order that have the same elements are equal. -/
theorem eq_of_pairwise_asymm {α : Type} {r : α → α → Prop} (hr : ∀ a b, r a b → ¬ r b a)
    {as bs : List α} (has : as.Pairwise r) (hbs : bs.Pairwise r) (h : ∀ a, a ∈ as ↔ a ∈ bs) :
    as = bs := by
  have hirrefl : Std.Irrefl r := ⟨fun a ha => hr a a ha ha⟩
  have hantisymm : Std.Antisymm r := ⟨fun a b hab hba => absurd hba (hr a b hab)⟩
  exact has.eq_of_mem_iff hbs h

variable {α κ : Type} [LE κ] [DecidableEq κ] {key : α → κ}

/-- The elements of a list in the order of a key. For each key the same elements come in the same
order in both lists, so that none is lost and none comes twice. -/
structure StablySorted (key : α → κ) (as sorted : List α) : Prop where
  ascending : sorted.Pairwise fun a b => key a ≤ key b
  stable : ∀ k, (sorted.filter fun a => key a = k) = as.filter fun a => key a = k

variable [Std.IsLinearOrder κ]

/-- Lists in the order of a key that agree on each key are equal. -/
theorem eq_of_filter_eq {as bs : List α} (has : as.Pairwise fun a b => key a ≤ key b)
    (hbs : bs.Pairwise fun a b => key a ≤ key b)
    (h : ∀ k, (as.filter fun a => key a = k) = bs.filter fun a => key a = k) : as = bs := by
  induction as generalizing bs with
  | nil =>
    refine (List.eq_nil_iff_forall_not_mem.mpr fun b hb => ?_).symm
    have hmem : b ∈ bs.filter fun a => key a = key b := by simpa using hb
    rw [← h] at hmem
    simp at hmem
  | cons a as ih =>
    obtain ⟨ha, hasTail⟩ := List.pairwise_cons.mp has
    cases bs with
    | nil => simpa using h (key a)
    | cons b bs =>
      obtain ⟨hb, hbsTail⟩ := List.pairwise_cons.mp hbs
      -- each first element is also in the other list, so that neither has the greater key
      have hmem : ∀ x, x ∈ a :: as ↔ x ∈ b :: bs := fun x => by
        have hx := congrArg (x ∈ ·) (h (key x))
        simpa using hx
      have hle : key a ≤ key b := by
        rcases List.mem_cons.mp ((hmem b).mpr List.mem_cons_self) with rfl | hin
        · exact Std.le_refl _
        · exact ha b hin
      have hge : key b ≤ key a := by
        rcases List.mem_cons.mp ((hmem a).mp List.mem_cons_self) with rfl | hin
        · exact Std.le_refl _
        · exact hb a hin
      have hkey : key a = key b := Std.le_antisymm hle hge
      have hfirst := h (key a)
      rw [List.filter_cons_of_pos (by simp), List.filter_cons_of_pos (by simp [hkey])] at hfirst
      obtain rfl := (List.cons.inj hfirst).1
      refine congrArg (a :: ·) (ih hasTail hbsTail fun k => ?_)
      have hk := h k
      by_cases hka : key a = k
      · rw [List.filter_cons_of_pos (by simp [hka]), List.filter_cons_of_pos (by simp [hka])] at hk
        exact (List.cons.inj hk).2
      · rwa [List.filter_cons_of_neg (by simp [hka]), List.filter_cons_of_neg (by simp [hka])] at hk

namespace StablySorted

variable {as sorted other : List α}

protected theorem unique (h : StablySorted key as sorted) (h' : StablySorted key as other) :
    sorted = other :=
  eq_of_filter_eq h.ascending h'.ascending fun k => (h.stable k).trans (h'.stable k).symm

protected theorem mergeSort [DecidableLE κ] (key : α → κ) (as : List α) :
    StablySorted key as (as.mergeSort fun a b => key a ≤ key b) := by
  have htrans (a b c : α) (hab : decide (key a ≤ key b) = true)
      (hbc : decide (key b ≤ key c) = true) : decide (key a ≤ key c) = true :=
    decide_eq_true (Std.le_trans (of_decide_eq_true hab) (of_decide_eq_true hbc))
  have htotal (a b : α) : (decide (key a ≤ key b) || decide (key b ≤ key a)) = true := by
    simpa using Std.le_total (a := key a) (b := key b)
  refine ⟨(List.pairwise_mergeSort htrans htotal as).imp of_decide_eq_true, fun k => ?_⟩
  -- elements of one key are in order already, and so they are in the sorted list as they were
  have hordered :
      (as.filter fun a => key a = k).Pairwise fun a b => decide (key a ≤ key b) = true :=
    List.pairwise_of_forall_mem_list fun a ha b hb => by
      have hak : key a = k := by simpa using (List.mem_filter.mp ha).2
      have hbk : key b = k := by simpa using (List.mem_filter.mp hb).2
      rw [hak, hbk]
      exact decide_eq_true (Std.le_refl k)
  have hsublist := (List.sublist_mergeSort htrans htotal hordered List.filter_sublist).filter
    fun a => decide (key a = k)
  rw [List.filter_filter] at hsublist
  simp only [Bool.and_self] at hsublist
  exact (hsublist.eq_of_length ((List.mergeSort_perm as _).filter _).length_eq.symm).symm

omit [Std.IsLinearOrder κ] in
/-- What holds between elements in the order they were in still holds between those of one key. -/
theorem pairwise {R : α → α → Prop} (h : StablySorted key as sorted) (hR : as.Pairwise R) :
    sorted.Pairwise fun a b => key a ≤ key b ∧ (key a = key b → R a b) := by
  rw [List.pairwise_iff_forall_sublist]
  intro a b hab
  refine ⟨List.pairwise_iff_forall_sublist.mp h.ascending hab, fun hkey => ?_⟩
  have hsublist := hab.filter fun c => decide (key c = key b)
  rw [h.stable (key b), List.filter_cons_of_pos (by simpa using hkey),
    List.filter_cons_of_pos (by simp), List.filter_nil] at hsublist
  exact List.pairwise_iff_forall_sublist.mp hR (hsublist.trans List.filter_sublist)

end StablySorted

end ShaderBindings
