/-
  Entries by key (`Keyed`), each key once, in the order of first insertion: `Keyed.get?`,
  `Keyed.put`, `Keyed.erase` and `Keyed.override`, with one lemma for each step along the list
  (`get?_cons`, `put_cons`, `erase_cons`) and `get?_put`. A list with a key in it twice is a
  `Keyed` as well; its first entry counts.
-/

namespace ShaderBindings

abbrev Keyed (κ α : Type) := List (κ × α)

namespace Keyed

variable {κ α : Type} [DecidableEq κ]

/-- The entry of a key. -/
def get? (entries : Keyed κ α) (key : κ) : Option α := entries.lookup key

/-- Gives a key an entry: in place of the old one, or at the end. -/
def put (entries : Keyed κ α) (key : κ) (a : α) : Keyed κ α :=
  match entries with
  | [] => [(key, a)]
  | e :: rest => if e.1 = key then (key, a) :: rest else e :: put rest key a

/-- The entries without that of a key. -/
def erase (entries : Keyed κ α) (key : κ) : Keyed κ α := entries.filter fun e => e.1 ≠ key

/-- Entries of the second list added to the first, the second winning. -/
def override (entries more : Keyed κ α) : Keyed κ α :=
  more.foldl (fun kept e => kept.put e.1 e.2) entries

@[simp] theorem get?_nil (key : κ) : get? ([] : Keyed κ α) key = none := rfl

theorem get?_cons (e : κ × α) (rest : Keyed κ α) (key : κ) :
    get? (e :: rest) key = if e.1 = key then some e.2 else get? rest key := by
  obtain ⟨k, a⟩ := e
  rw [get?, List.lookup_cons]
  by_cases h : k = key
  · subst h
    simp
  · have : (key == k) = false := by simpa using Ne.symm h
    simp [get?, this, h]

theorem put_cons (e : κ × α) (rest : Keyed κ α) (key : κ) (a : α) :
    put (e :: rest) key a = if e.1 = key then (key, a) :: rest else e :: put rest key a := rfl

/-- A key has the entry that it was given, and other keys keep theirs. -/
theorem get?_put (entries : Keyed κ α) (key other : κ) (a : α) :
    (put entries key a).get? other = if key = other then some a else entries.get? other := by
  induction entries with
  | nil => simp [put, get?_cons]
  | cons e rest ih =>
    by_cases he : e.1 = key
    · subst he
      by_cases ho : e.1 = other <;> simp [put_cons, get?_cons, ho]
    · rw [put_cons, if_neg he, get?_cons, ih, get?_cons]
      by_cases ho : e.1 = other
      · have : key ≠ other := fun h => he (ho.trans h.symm)
        simp [ho, this]
      · simp [ho]

theorem erase_cons (e : κ × α) (rest : Keyed κ α) (key : κ) :
    erase (e :: rest) key = if e.1 = key then erase rest key else e :: erase rest key := by
  by_cases h : e.1 = key <;> simp [erase, h]

/-- An entry at the end goes away again. -/
theorem erase_put_of_get?_eq_none {entries : Keyed κ α} {key : κ} (h : entries.get? key = none)
    (a : α) : erase (put entries key a) key = entries := by
  induction entries with
  | nil => simp [put, erase]
  | cons e rest ih =>
    rw [get?_cons] at h
    by_cases he : e.1 = key
    · simp [he] at h
    · rw [if_neg he] at h
      simp [put_cons, he, erase_cons, ih h]

end Keyed

end ShaderBindings
