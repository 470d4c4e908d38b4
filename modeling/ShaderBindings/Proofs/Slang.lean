/-
  Requests of languages. A request counts as a set: its order and its repetitions are lost when
  it is put in the order of the table (`inOrder_congr`). No two of its languages share a backend
  exactly when the backends, in that order, are pairwise different (`sharedBackend?_eq_none`).
  The name of a language can be told from the end of a text (`name_eq_of_append_eq`).
-/
import Mathlib.Data.List.Infix
import Mathlib.Data.List.Nodup
import ShaderBindings.Slang

namespace ShaderBindings.Slang

variable {request wider : List Slang}

/-! ## Order -/

/-- The languages in order are those of the table that are requested, whatever the request's own
order. -/
theorem inOrder_congr (h : ∀ s, s ∈ request ↔ s ∈ wider) : inOrder request = inOrder wider := by
  unfold inOrder
  refine List.filter_congr fun s _ => ?_
  simp only [h s]

/-- Requesting less leaves out languages and keeps the order of the others. -/
theorem inOrder_of_subset (h : request ⊆ wider) :
    inOrder request = (inOrder wider).filter (· ∈ request) := by
  unfold inOrder
  rw [List.filter_filter]
  refine List.filter_congr fun s _ => ?_
  by_cases hs : s ∈ request
  · simp [hs, h hs]
  · simp [hs]

/-- Only what is requested counts, not in which order or how often. -/
theorem ordered?_congr (h : ∀ s, s ∈ request ↔ s ∈ wider) : ordered? request = ordered? wider := by
  have hall : request.all (· ∈ table) = wider.all (· ∈ table) := by
    rw [Bool.eq_iff_iff, List.all_eq_true, List.all_eq_true]
    simp only [h]
  unfold ordered?
  rw [hall, inOrder_congr h]

theorem inOrder_nodup (request : List Slang) : (inOrder request).Nodup :=
  List.Nodup.filter _ (by decide)

/-- Languages in the order of the table are strictly ascending there. -/
theorem pairwise_inOrder (request : List Slang) :
    (inOrder request).Pairwise fun a b => table.idxOf a < table.idxOf b := by
  have htable : table.Pairwise fun a b => table.idxOf a < table.idxOf b := by decide
  exact htable.sublist List.filter_sublist

/-! ## Backends -/

theorem sharedFrom_cons_of_seen {seen : List Slang} {s other : Slang} (rest : List Slang)
    (h : seen.find? (·.backend == s.backend) = some other) :
    sharedFrom seen (s :: rest) = some (other, s) := by
  rw [sharedFrom, h]

theorem sharedFrom_cons_of_new {seen : List Slang} {s : Slang} (rest : List Slang)
    (h : seen.find? (·.backend == s.backend) = none) :
    sharedFrom seen (s :: rest) = sharedFrom (seen ++ [s]) rest := by
  rw [sharedFrom, h]

/-- The search stops at the first language that shares its backend with one before it. -/
theorem sharedFrom_eq_some {seen slangs : List Slang} {a b : Slang} :
    sharedFrom seen slangs = some (a, b) ↔ ∃ before after, slangs = before ++ b :: after ∧
      sharedFrom seen before = none ∧ (seen ++ before).find? (·.backend == b.backend) = some a := by
  induction slangs generalizing seen with
  | nil => simp [sharedFrom]
  | cons s rest ih =>
    cases hfind : seen.find? (·.backend == s.backend) with
    | some other =>
      rw [sharedFrom_cons_of_seen rest hfind]
      constructor
      · intro h
        obtain ⟨rfl, rfl⟩ := Prod.mk.inj (Option.some.inj h)
        exact ⟨[], rest, rfl, rfl, by rwa [List.append_nil]⟩
      · rintro ⟨before, after, hsplit, hbefore, hb⟩
        cases before with
        | nil =>
          obtain ⟨rfl, rfl⟩ := List.cons.inj hsplit
          rw [List.append_nil, hfind] at hb
          rw [Option.some.inj hb]
        | cons t before =>
          obtain rfl := (List.cons.inj hsplit).1
          simp [sharedFrom_cons_of_seen before hfind] at hbefore
    | none =>
      rw [sharedFrom_cons_of_new rest hfind, ih]
      constructor
      · rintro ⟨before, after, rfl, hbefore, hb⟩
        exact ⟨s :: before, after, rfl, (sharedFrom_cons_of_new before hfind).trans hbefore,
          by simpa using hb⟩
      · rintro ⟨before, after, hsplit, hbefore, hb⟩
        cases before with
        | nil =>
          obtain ⟨rfl, rfl⟩ := List.cons.inj hsplit
          rw [List.append_nil, hfind] at hb
          cases hb
        | cons t before =>
          obtain ⟨rfl, rfl⟩ := List.cons.inj hsplit
          rw [sharedFrom_cons_of_new before hfind] at hbefore
          exact ⟨before, after, rfl, hbefore, by simpa using hb⟩

theorem sharedFrom_eq_none {seen slangs : List Slang} :
    sharedFrom seen slangs = none ↔
      (slangs.map Slang.backend).Nodup ∧ ∀ s ∈ slangs, s.backend ∉ seen.map Slang.backend := by
  induction slangs generalizing seen with
  | nil => simp [sharedFrom]
  | cons s rest ih =>
    unfold sharedFrom
    cases hfind : seen.find? (·.backend == s.backend) with
    | some other =>
      have hmem := List.mem_of_find?_eq_some hfind
      have hbackend : other.backend = s.backend := by simpa using List.find?_some hfind
      have hseen : s.backend ∈ seen.map Slang.backend := List.mem_map.mpr ⟨other, hmem, hbackend⟩
      simp only [reduceCtorEq, false_iff, not_and]
      exact fun _ h => h s List.mem_cons_self hseen
    | none =>
      have hseen : s.backend ∉ seen.map Slang.backend := by
        intro hmem
        obtain ⟨other, hother, hbackend⟩ := List.mem_map.mp hmem
        simpa [hbackend] using List.find?_eq_none.mp hfind other hother
      -- a later language must differ from those seen before and from this one
      have hlater : (∀ t ∈ rest, t.backend ∉ (seen ++ [s]).map Slang.backend) ↔
          s.backend ∉ rest.map Slang.backend ∧ ∀ t ∈ rest, t.backend ∉ seen.map Slang.backend := by
        simp only [List.map_append, List.mem_append, not_or, List.map_cons, List.map_nil,
          List.mem_singleton, List.mem_map, not_exists, not_and]
        exact ⟨fun h => ⟨fun t ht => (h t ht).2, fun t ht => (h t ht).1⟩,
          fun h t ht => ⟨h.2 t ht, h.1 t ht⟩⟩
      rw [ih, hlater, List.map_cons, List.nodup_cons, List.forall_mem_cons]
      constructor
      · intro h
        obtain ⟨hnodup, hs, hrest⟩ := h
        exact ⟨⟨hs, hnodup⟩, hseen, hrest⟩
      · intro h
        obtain ⟨⟨hs, hnodup⟩, -, hrest⟩ := h
        exact ⟨hnodup, hs, hrest⟩

theorem sharedBackend?_eq_none :
    sharedBackend? request = none ↔ ((inOrder request).map Slang.backend).Nodup := by
  unfold sharedBackend?
  rw [sharedFrom_eq_none]
  simp

/-- Where no two languages share a backend, the backend tells the language. -/
theorem backend_inj (h : sharedBackend? wider = none) {s t : Slang} (hs : s ∈ inOrder wider)
    (ht : t ∈ inOrder wider) (hst : s.backend = t.backend) : s = t :=
  List.inj_on_of_nodup_map (sharedBackend?_eq_none.mp h) hs ht hst

/-! ## Names -/

theorem eq_of_name_eq {s t : Slang} (hs : s ∈ table) (ht : t ∈ table) (h : s.name = t.name) :
    s = t := by
  have hnames : ∀ s ∈ table, ∀ t ∈ table, s.name = t.name → s = t := by decide
  exact hnames s hs t ht h

/-- Texts that end in the names of languages are equal only for the same language: no name of a
language ends in that of another. -/
theorem name_eq_of_append_eq {s t : String} (hs : s ∈ names) (ht : t ∈ names) {cs ds : List Char}
    (h : cs ++ s.toList = ds ++ t.toList) : s = t := by
  have hsuffix : ∀ s ∈ names, ∀ t ∈ names, s.toList <:+ t.toList → s = t := by decide
  have hleft : s.toList <:+ ds ++ t.toList := ⟨cs, h⟩
  rcases List.suffix_or_suffix_of_suffix hleft (List.suffix_append ds t.toList) with hst | hts
  · exact hsuffix s hs t ht hst
  · exact (hsuffix t ht s hs hts).symm

end ShaderBindings.Slang
