/-
  Computations that may end with a fault, taken apart: when a sequence (`bind_eq_ok`,
  `bind_eq_error`), a traversal of a list (`mapM_eq_ok`, `exists_of_mapM_eq_error`) or a change
  of faults (`mapError_eq_ok`) has a result. `fault?` is the fault alone; `fault?_bind` and
  `fault?_mapM` say which of several comes first.
-/
import Mathlib.Data.List.Perm.Basic

namespace ShaderBindings.Fallible

variable {ε ε' α β γ : Type}

theorem bind_eq_ok {x : Except ε α} {f : α → Except ε β} {b : β} :
    x >>= f = .ok b ↔ ∃ a, x = .ok a ∧ f a = .ok b := by
  cases x with
  | error e => simp [bind, Except.bind]
  | ok a => simp [bind, Except.bind]

theorem bind_eq_error {x : Except ε α} {f : α → Except ε β} {e : ε} :
    x >>= f = .error e ↔ x = .error e ∨ ∃ a, x = .ok a ∧ f a = .error e := by
  cases x with
  | error e => simp [bind, Except.bind]
  | ok a => simp [bind, Except.bind]

/-- A fault that neither part has is not one of the sequence. -/
theorem bind_ne_error {x : Except ε α} {f : α → Except ε β} {e : ε} (hx : x ≠ .error e)
    (hf : ∀ a, f a ≠ .error e) : x >>= f ≠ .error e := by
  intro h
  rcases bind_eq_error.mp h with h | ⟨a, -, h⟩
  · exact hx h
  · exact hf a h

theorem ok_bind (a : α) (f : α → Except ε β) : (Except.ok a >>= f) = f a := rfl

theorem error_bind (e : ε) (f : α → Except ε β) : (Except.error e >>= f) = .error e := rfl

theorem pure_eq_ok {a b : α} : (pure a : Except ε α) = .ok b ↔ a = b :=
  Except.ok.injEq a b ▸ Iff.rfl

theorem mapError_ok (f : ε → ε') (a : α) : (Except.ok a).mapError f = .ok a := rfl

/-- Another way of naming faults does not change results. -/
theorem mapError_eq_ok {f : ε → ε'} {a : α} {x : Except ε α} :
    x.mapError f = .ok a ↔ x = .ok a := by
  cases x with
  | error e => simp [Except.mapError]
  | ok b => simp [Except.mapError]

theorem mapError_eq_error {f : ε → ε'} {e' : ε'} {x : Except ε α} :
    x.mapError f = .error e' ↔ ∃ e, x = .error e ∧ f e = e' := by
  cases x with
  | error e => simp [Except.mapError]
  | ok b => simp [Except.mapError]

theorem exists_eq_ok_of_toBool {x : Except ε α} (h : x.toBool = true) : ∃ a, x = .ok a := by
  cases x with
  | error e => simp [Except.toBool] at h
  | ok a => exact ⟨a, rfl⟩

theorem exists_eq_error_of_toBool {x : Except ε α} (h : x.toBool = false) :
    ∃ e, x = .error e := by
  cases x with
  | error e => exact ⟨e, rfl⟩
  | ok a => cases h

theorem exists_eq_ok_of_any {x : Except ε α} {P : α → Prop} [DecidablePred P]
    (h : (x.toOption.any fun a => P a) = true) : ∃ a, x = .ok a ∧ P a := by
  cases x with
  | error e => simp [Except.toOption] at h
  | ok a => exact ⟨a, rfl, by simpa [Except.toOption] using h⟩

theorem map_eq_ok {f : α → β} {b : β} {x : Except ε α} :
    f <$> x = .ok b ↔ ∃ a, x = .ok a ∧ b = f a := by
  cases x with
  | error e => simp [Functor.map, Except.map]
  | ok a => simp [Functor.map, Except.map, eq_comm]

theorem map_eq_error {f : α → β} {e : ε} {x : Except ε α} : f <$> x = .error e ↔ x = .error e := by
  cases x with
  | error e => simp [Functor.map, Except.map]
  | ok a => simp [Functor.map, Except.map]

/-! ## Traversals -/

theorem exists_of_forall₂_left {R : α → β → Prop} {as : List α} {bs : List β}
    (h : List.Forall₂ R as bs) {a : α} (ha : a ∈ as) : ∃ b ∈ bs, R a b := by
  induction h with
  | nil => simp at ha
  | @cons a' b' as' bs' hR _ ih =>
    rcases List.mem_cons.mp ha with rfl | ha
    · exact ⟨b', List.mem_cons_self, hR⟩
    · obtain ⟨b, hb, hab⟩ := ih ha
      exact ⟨b, List.mem_cons_of_mem b' hb, hab⟩

theorem exists_of_forall₂_right {R : α → β → Prop} {as : List α} {bs : List β}
    (h : List.Forall₂ R as bs) {b : β} (hb : b ∈ bs) : ∃ a ∈ as, R a b :=
  exists_of_forall₂_left h.flip hb

theorem mapM_cons_eq_ok {a : α} {as : List α} {f : α → Except ε β} {found : List β} :
    (a :: as).mapM f = .ok found ↔ ∃ b bs, f a = .ok b ∧ as.mapM f = .ok bs ∧ found = b :: bs := by
  rw [List.mapM_cons, bind_eq_ok]
  constructor
  · intro h
    obtain ⟨b, hb, h⟩ := h
    obtain ⟨bs, hbs, h⟩ := bind_eq_ok.mp h
    exact ⟨b, bs, hb, hbs, (pure_eq_ok.mp h).symm⟩
  · intro h
    obtain ⟨b, bs, hb, hbs, rfl⟩ := h
    exact ⟨b, hb, bind_eq_ok.mpr ⟨bs, hbs, rfl⟩⟩

theorem forall₂_imp_of_mem {R S : α → β → Prop} {as : List α} {bs : List β}
    (h : List.Forall₂ R as bs) (hRS : ∀ a ∈ as, ∀ b, R a b → S a b) : List.Forall₂ S as bs := by
  induction h with
  | nil => exact .nil
  | @cons a b as' bs' hR _ ih =>
    refine .cons (hRS a List.mem_cons_self b hR) (ih fun a' ha' => ?_)
    exact hRS a' (List.mem_cons_of_mem a ha')

/-- Elements related in pairs stay so when one list is filtered as the other is. -/
theorem forall₂_filter {R : α → β → Prop} {p : α → Bool} {q : β → Bool} {as : List α} {bs : List β}
    (h : List.Forall₂ R as bs) (hpq : ∀ a ∈ as, ∀ b, R a b → p a = q b) :
    List.Forall₂ R (as.filter p) (bs.filter q) := by
  induction h with
  | nil => exact .nil
  | @cons a b as' bs' hR _ ih =>
    have ih := ih fun a' ha' => hpq a' (List.mem_cons_of_mem a ha')
    rw [List.filter_cons, List.filter_cons, hpq a List.mem_cons_self b hR]
    by_cases hq : q b = true
    · rw [if_pos hq, if_pos hq]
      exact .cons hR ih
    · rw [if_neg hq, if_neg hq]
      exact ih

/-- What related elements have in common, the two lists have. -/
theorem map_eq_map_of_forall₂ {R : α → β → Prop} {f : α → γ} {g : β → γ} {as : List α}
    {bs : List β} (h : List.Forall₂ R as bs) (hfg : ∀ a b, R a b → f a = g b) :
    as.map f = bs.map g := by
  induction h with
  | nil => rfl
  | cons hR _ ih => rw [List.map_cons, List.map_cons, hfg _ _ hR, ih]

/-- A traversal has the results of its elements, one for each. -/
theorem mapM_eq_ok {as : List α} {f : α → Except ε β} {bs : List β} :
    as.mapM f = .ok bs ↔ List.Forall₂ (fun a b => f a = .ok b) as bs := by
  induction as generalizing bs with
  | nil =>
    rw [List.mapM_nil, pure_eq_ok, List.forall₂_nil_left_iff, eq_comm]
  | cons a as ih =>
    rw [mapM_cons_eq_ok, List.forall₂_cons_left_iff]
    simp only [ih]

/-- What is read back from what was written for each element is the list. -/
theorem mapM_map_eq_ok {as : List α} {f : α → β} {g : β → Except ε α}
    (h : ∀ a ∈ as, g (f a) = .ok a) : (as.map f).mapM g = .ok as := by
  rw [mapM_eq_ok, List.forall₂_map_left_iff, List.forall₂_same]
  exact h

/-- In another order a traversal has the same results in that order. -/
theorem exists_mapM_of_perm {as cs : List α} (h : as.Perm cs) {f : α → Except ε β} {bs : List β}
    (hbs : as.mapM f = .ok bs) : ∃ ds, cs.mapM f = .ok ds ∧ bs.Perm ds := by
  obtain ⟨ds, hds, hperm⟩ := List.perm_comp_forall₂ h.symm (mapM_eq_ok.mp hbs)
  exact ⟨ds, mapM_eq_ok.mpr hds, hperm.symm⟩

/-- A traversal has the result of an element between those of the elements around it. -/
theorem mapM_between_eq_ok {before after : List α} {a : α} {f : α → Except ε β} {found : List β} :
    (before ++ a :: after).mapM f = .ok found ↔ ∃ first b rest, before.mapM f = .ok first ∧
      f a = .ok b ∧ after.mapM f = .ok rest ∧ found = first ++ b :: rest := by
  rw [List.mapM_append, bind_eq_ok]
  constructor
  · rintro ⟨first, hfirst, h⟩
    obtain ⟨more, hmore, h⟩ := bind_eq_ok.mp h
    obtain ⟨b, rest, hb, hrest, rfl⟩ := mapM_cons_eq_ok.mp hmore
    exact ⟨first, b, rest, hfirst, hb, hrest, (pure_eq_ok.mp h).symm⟩
  · rintro ⟨first, b, rest, hfirst, hb, hrest, rfl⟩
    refine ⟨first, hfirst, bind_eq_ok.mpr ⟨b :: rest, ?_, rfl⟩⟩
    exact mapM_cons_eq_ok.mpr ⟨b, rest, hb, hrest, rfl⟩

/-- A traversal looks at the elements of the list only. -/
theorem mapM_congr {as : List α} {f g : α → Except ε β} (h : ∀ a ∈ as, f a = g a) :
    as.mapM f = as.mapM g := by
  induction as with
  | nil => rfl
  | cons a as ih =>
    rw [List.mapM_cons, List.mapM_cons, h a List.mem_cons_self,
      ih fun a' ha' => h a' (List.mem_cons_of_mem a ha')]

/-- A traversal has a result when all its elements have one. -/
theorem exists_mapM_eq_ok {as : List α} {f : α → Except ε β} :
    (∃ bs, as.mapM f = .ok bs) ↔ ∀ a ∈ as, ∃ b, f a = .ok b := by
  induction as with
  | nil => simp [pure, Except.pure]
  | cons a as ih =>
    rw [List.forall_mem_cons, ← ih]
    constructor
    · intro h
      obtain ⟨found, h⟩ := h
      obtain ⟨b, bs, hb, hbs, -⟩ := mapM_cons_eq_ok.mp h
      exact ⟨⟨b, hb⟩, bs, hbs⟩
    · intro h
      obtain ⟨⟨b, hb⟩, bs, hbs⟩ := h
      exact ⟨b :: bs, mapM_cons_eq_ok.mpr ⟨b, bs, hb, hbs, rfl⟩⟩

/-- The fault of a traversal is that of one of its elements. -/
theorem exists_of_mapM_eq_error {as : List α} {f : α → Except ε β} {e : ε}
    (h : as.mapM f = .error e) : ∃ a ∈ as, f a = .error e := by
  induction as with
  | nil => simp [pure, Except.pure] at h
  | cons a as ih =>
    rw [List.mapM_cons, bind_eq_error] at h
    rcases h with h | ⟨b, -, h⟩
    · exact ⟨a, List.mem_cons_self, h⟩
    · rcases bind_eq_error.mp h with h | ⟨bs, -, h⟩
      · obtain ⟨a', ha', he⟩ := ih h
        exact ⟨a', List.mem_cons_of_mem a ha', he⟩
      · simp [pure, Except.pure] at h

theorem forM_eq_ok {as : List α} {f : α → Except ε Unit} :
    as.forM f = .ok () ↔ ∀ a ∈ as, f a = .ok () := by
  induction as with
  | nil => simp [pure, Except.pure]
  | cons a as ih =>
    rw [List.forall_mem_cons, ← ih, show (a :: as).forM f = (f a >>= fun _ => as.forM f) from rfl,
      bind_eq_ok]
    constructor
    · intro h
      obtain ⟨_, ha, has⟩ := h
      exact ⟨ha, has⟩
    · intro h
      obtain ⟨ha, has⟩ := h
      exact ⟨(), ha, has⟩

/-- The fault of a sequence of checks is that of one of them. -/
theorem exists_of_forM_eq_error {as : List α} {f : α → Except ε Unit} {e : ε}
    (h : as.forM f = .error e) : ∃ a ∈ as, f a = .error e := by
  induction as with
  | nil => simp [pure, Except.pure] at h
  | cons a as ih =>
    rcases bind_eq_error.mp h with h | ⟨_, -, h⟩
    · exact ⟨a, List.mem_cons_self, h⟩
    · obtain ⟨a', ha', he⟩ := ih h
      exact ⟨a', List.mem_cons_of_mem a ha', he⟩

theorem forM_congr {as : List α} {f g : α → Except ε Unit} (h : ∀ a ∈ as, f a = g a) :
    as.forM f = as.forM g := by
  induction as with
  | nil => rfl
  | cons a as ih =>
    change (f a >>= fun _ => as.forM f) = (g a >>= fun _ => as.forM g)
    rw [h a List.mem_cons_self, ih fun a' ha' => h a' (List.mem_cons_of_mem a ha')]

/-! ## Faults on their own -/

/-- The fault of a computation, if it has one. -/
def fault? : Except ε α → Option ε
  | .error e => some e
  | .ok _ => none

theorem fault?_eq_some {x : Except ε α} {e : ε} : fault? x = some e ↔ x = .error e := by
  cases x <;> simp [fault?]

theorem fault?_eq_none {x : Except ε α} : fault? x = none ↔ ∃ a, x = .ok a := by
  cases x <;> simp [fault?]

/-- The fault of a sequence is the first one, if what comes second fails alike for all results of
what comes first. -/
theorem fault?_bind {x : Except ε α} {f : α → Except ε β} {later : Option ε}
    (h : ∀ a, x = .ok a → fault? (f a) = later) : fault? (x >>= f) = (fault? x).or later := by
  cases x with
  | error e => rfl
  | ok a => exact h a rfl

theorem fault?_mapError {f : ε → ε'} {x : Except ε α} :
    fault? (x.mapError f) = (fault? x).map f := by
  cases x <;> rfl

theorem fault?_map {f : α → β} {x : Except ε α} : fault? (x.map f) = fault? x := by
  cases x <;> rfl

theorem fault?_bind_pure {f : α → β} {x : Except ε α} :
    fault? (x >>= fun a => pure (f a)) = fault? x := by
  cases x <;> rfl

/-- The fault of a traversal is that of the first element that has one. -/
theorem fault?_mapM {as : List α} {f : α → Except ε β} :
    fault? (as.mapM f) = (as.filterMap fun a => fault? (f a)).head? := by
  induction as with
  | nil => rfl
  | cons a as ih =>
    rw [List.mapM_cons, fault?_bind fun b _ => fault?_bind_pure, List.filterMap_cons, ih]
    cases fault? (f a) <;> rfl

end ShaderBindings.Fallible
