/-
  Lookups in a reflection: which resource a slot holds (`mem_occupied`), when a name has one
  (`exists_named?_eq_ok`, `named?_eq_error`), and which pairs of image and sampler resolve
  (`StageReflection.Resolved`). A pair that is declared and not bound need not resolve.
-/
import Mathlib.Data.List.Basic
import ShaderBindings.Reflection.Slots

namespace ShaderBindings

namespace StageReflection

variable {α : Type} [Resource α] {r : StageReflection}

/-- The occupied slots are those in bounds that hold a resource. -/
theorem mem_occupied {slot : Nat} {a : α} :
    (slot, a) ∈ r.occupied α ↔ slot < (Resource.kind α).bound ∧ r.atSlot? α slot = some a := by
  unfold occupied
  rw [List.mem_filterMap]
  constructor
  · intro h
    obtain ⟨s, hs, h⟩ := h
    obtain ⟨a', ha', heq⟩ := Option.map_eq_some_iff.mp h
    obtain ⟨rfl, rfl⟩ := Prod.mk.inj heq
    exact ⟨List.mem_range.mp hs, ha'⟩
  · intro h
    obtain ⟨hs, ha⟩ := h
    exact ⟨slot, List.mem_range.mpr hs, by rw [ha]; rfl⟩

theorem slot_of_atSlot? {slot : Int} {a : α} (h : r.atSlot? α slot = some a) :
    Resource.slot a = slot := by
  unfold atSlot? at h
  split at h
  · simp at h
  · simpa using List.find?_some h

/-- A bound resource has the slot that it is bound to. -/
theorem slot_of_mem_occupied {slot : Nat} {a : α} (h : (slot, a) ∈ r.occupied α) :
    Resource.slot a = slot :=
  slot_of_atSlot? (mem_occupied.mp h).2

variable (α r) in
/-- The occupied slots ascend. -/
theorem occupied_ascending : ((r.occupied α).map Prod.fst).Pairwise (· < ·) := by
  unfold occupied
  rw [List.pairwise_map, List.pairwise_filterMap]
  refine List.pairwise_lt_range.imp fun {s t} hst x hx y hy => ?_
  obtain ⟨a, -, rfl⟩ := Option.map_eq_some_iff.mp hx
  obtain ⟨c, -, rfl⟩ := Option.map_eq_some_iff.mp hy
  exact hst

/-- A slot holds one resource. -/
theorem eq_of_mem_occupied {slot : Nat} {a a' : α} (h : (slot, a) ∈ r.occupied α)
    (h' : (slot, a') ∈ r.occupied α) : a = a' := by
  have ha := (mem_occupied.mp h).2
  rw [(mem_occupied.mp h').2] at ha
  exact (Option.some.inj ha).symm

theorem mem_declared_of_atSlot? {slot : Int} {a : α} (h : r.atSlot? α slot = some a) :
    a ∈ (Resource.declared r : List α) := by
  unfold atSlot? at h
  split at h
  · simp at h
  · exact List.mem_of_find?_eq_some h

/-- Only declared resources are in a slot. -/
theorem mem_declared_of_mem_occupied {slot : Nat} {a : α} (h : (slot, a) ∈ r.occupied α) :
    a ∈ (Resource.declared r : List α) :=
  mem_declared_of_atSlot? (mem_occupied.mp h).2

/-- A name is known when a declared resource has it. -/
theorem exists_named?_eq_ok {name : String} :
    (∃ a, r.named? α name = .ok a) ↔
      ∃ a ∈ (Resource.declared r : List α), Resource.name a = name := by
  unfold named?
  cases h : (Resource.declared r : List α).find? (Resource.name · == name) with
  | none =>
    rw [List.find?_eq_none] at h
    simp only [reduceCtorEq, exists_false, false_iff, not_exists, not_and]
    intro a ha
    simpa using h a ha
  | some a =>
    have hname := List.find?_some h
    exact ⟨fun _ => ⟨a, List.mem_of_find?_eq_some h, by simpa using hname⟩, fun _ => ⟨a, rfl⟩⟩

/-- A name is not known when no declared resource has it. -/
theorem named?_eq_error {name : String} {u : UnknownResource} : r.named? α name = .error u ↔
    (∀ a ∈ (Resource.declared r : List α), Resource.name a ≠ name) ∧
      u = ⟨Resource.kind α, name⟩ := by
  unfold named?
  cases h : (Resource.declared r : List α).find? (Resource.name · == name) with
  | none =>
    have hnone : ∀ a ∈ (Resource.declared r : List α), Resource.name a ≠ name := by
      simpa using h
    rw [Except.error.injEq, eq_comm]
    exact ⟨fun hu => ⟨hnone, hu⟩, fun hu => hu.2⟩
  | some a =>
    have hname : Resource.name a = name := by simpa using List.find?_some h
    simp only [reduceCtorEq, false_iff, not_and]
    exact fun hnone => absurd hname (hnone a (List.mem_of_find?_eq_some h))

/-! ## Pairs -/

/-- The reflection names the image and the sampler of a pair. -/
def Resolves (r : StageReflection) (p : ImageSampler) : Prop :=
  (∃ i ∈ r.images, i.name = p.imageName) ∧ ∃ s ∈ r.samplers, s.name = p.samplerName

/-- All bound pairs resolve. -/
def Resolved (r : StageReflection) : Prop :=
  ∀ sp ∈ r.occupied ImageSampler, r.Resolves sp.2

theorem resolves_iff {p : ImageSampler} :
    r.Resolves p ↔ (∃ i, r.named? Image p.imageName = .ok i) ∧
      ∃ s, r.named? Sampler p.samplerName = .ok s := by
  rw [exists_named?_eq_ok, exists_named?_eq_ok]
  rfl

/-- If all declared pairs resolve, so do those that are bound. -/
theorem resolved_of_declared (h : ∀ p ∈ r.imageSamplers, r.Resolves p) : r.Resolved :=
  fun sp hsp => h sp.2 (mem_declared_of_mem_occupied hsp)

end StageReflection

end ShaderBindings
