/-
  Lookups by key. Where keys differ the order of entries does not matter (`get?_of_perm`), and
  an entry counts for its own key only (`get?_between_ne`, `get?_between_self`).
-/
import Mathlib.Data.List.Perm.Basic
import ShaderBindings.Keyed

namespace ShaderBindings

section

variable {κ α : Type} [DecidableEq κ]

/-- Where keys differ, the first with a key is the first in any order. -/
theorem find?_of_perm {key : α → κ} {as bs : List α} (h : as.Perm bs) (hkeys : (as.map key).Nodup)
    (k : κ) : as.find? (key · == k) = bs.find? (key · == k) := by
  induction h with
  | nil => rfl
  | @cons a as bs _ ih =>
    rw [List.map_cons, List.nodup_cons] at hkeys
    rw [List.find?_cons, List.find?_cons, ih hkeys.2]
  | swap a b rest =>
    have hne : key a ≠ key b := by
      simp only [List.map_cons, List.nodup_cons, List.mem_cons, not_or] at hkeys
      exact Ne.symm hkeys.1.1
    simp only [List.find?_cons]
    by_cases ha : key a = k
    · have hb : (key b == k) = false := by simpa [← ha] using Ne.symm hne
      simp only [ha, hb, beq_self_eq_true]
    · have ha : (key a == k) = false := by simpa using ha
      simp only [ha]
  | trans h₁ _ ih₁ ih₂ =>
    exact (ih₁ hkeys).trans (ih₂ ((h₁.map key).nodup_iff.mp hkeys))

namespace Keyed

variable {entries : Keyed κ α}

/-- An entry that is found is there. -/
theorem mem_of_get? {key : κ} {a : α} (h : entries.get? key = some a) : (key, a) ∈ entries := by
  induction entries with
  | nil => simp at h
  | cons e rest ih =>
    rw [Keyed.get?_cons] at h
    by_cases he : e.1 = key
    · rw [if_pos he] at h
      obtain rfl := Option.some.inj h
      subst he
      exact List.mem_cons_self
    · rw [if_neg he] at h
      exact List.mem_cons_of_mem e (ih h)

/-- What is there after an entry is given was there before, or is that entry. -/
theorem mem_of_mem_put {key : κ} {a : α} {e : κ × α} (h : e ∈ entries.put key a) :
    e = (key, a) ∨ e ∈ entries := by
  induction entries with
  | nil => exact .inl (List.mem_singleton.mp h)
  | cons first rest ih =>
    rw [put_cons] at h
    split at h
    · exact (List.mem_cons.mp h).imp_right (List.mem_cons_of_mem first)
    · rcases List.mem_cons.mp h with rfl | h
      · exact .inr List.mem_cons_self
      · exact (ih h).imp_right (List.mem_cons_of_mem first)

theorem get?_eq_none {key : κ} : entries.get? key = none ↔ key ∉ entries.map Prod.fst := by
  induction entries with
  | nil => simp
  | cons e rest ih =>
    rw [get?_cons, List.map_cons, List.mem_cons, not_or, ← ih]
    split
    · next he => simp [he]
    · next he => simp [Ne.symm he]

theorem get?_eq_find? (key : κ) : entries.get? key = (entries.find? (·.1 == key)).map Prod.snd := by
  induction entries with
  | nil => rfl
  | cons e rest ih =>
    rw [get?_cons, List.find?_cons]
    by_cases he : e.1 = key
    · rw [if_pos he, he, beq_self_eq_true]
      rfl
    · have hb : (e.1 == key) = false := by simpa using he
      rw [if_neg he, ih, hb]

theorem get?_of_perm {others : Keyed κ α} (h : entries.Perm others)
    (hkeys : (entries.map Prod.fst).Nodup) (key : κ) : entries.get? key = others.get? key := by
  rw [get?_eq_find?, get?_eq_find?, find?_of_perm h hkeys]

variable {more : Keyed κ α}

/-- A key has an entry in the end if it has one in either list. -/
theorem get?_override_eq_none {key : κ} :
    (entries.override more).get? key = none ↔
      entries.get? key = none ∧ more.get? key = none := by
  induction more generalizing entries with
  | nil => simp [override]
  | cons e more ih =>
    change ((entries.put e.1 e.2).override more).get? key = none ↔ _
    rw [ih, get?_put, get?_cons]
    split <;> simp

theorem mem_of_mem_override {e : κ × α} (h : e ∈ entries.override more) :
    e ∈ entries ∨ e ∈ more := by
  induction more generalizing entries with
  | nil => exact .inl h
  | cons first more ih =>
    change e ∈ (entries.put first.1 first.2).override more at h
    rcases ih h with h | h
    · rcases mem_of_mem_put h with rfl | h
      · exact .inr List.mem_cons_self
      · exact .inl h
    · exact .inr (List.mem_cons_of_mem first h)

/-! An entry between others. -/

variable {before after : Keyed κ α} {name key : κ} {a : α}

theorem get?_between_ne (h : name ≠ key) :
    Keyed.get? (before ++ (name, a) :: after) key = Keyed.get? (before ++ after) key := by
  induction before with
  | nil =>
    rw [List.nil_append, List.nil_append, get?_cons, if_neg h]
  | cons e before ih => rw [List.cons_append, List.cons_append, get?_cons, get?_cons, ih]

/-- For its own key the entry counts unless there is one before it. -/
theorem get?_between_self :
    Keyed.get? (before ++ (name, a) :: after) name = (before.get? name).or (some a) := by
  induction before with
  | nil =>
    rw [List.nil_append, get?_cons, if_pos rfl]
    rfl
  | cons e before ih =>
    rw [List.cons_append, get?_cons, get?_cons, ih]
    split <;> rfl

end Keyed

end

end ShaderBindings
