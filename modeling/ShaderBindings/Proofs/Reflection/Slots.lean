/-
  The occupied slots of a kind as a view of the declared resources (`ShowsSlots`). The slots
  ascend within the bound of the kind, each shows the resource that is declared first with it
  (`DeclaredFirst`), and none is left out; there is one such view (`ShowsSlots.eq`). Where no
  two resources are in one slot (`SlotsDistinct`) the view has all that are in bounds, in the
  order of their slots, whatever the order they are declared in (`occupied_of_perm`).
-/
import ShaderBindings.Proofs.Reflection
import ShaderBindings.Proofs.StableOrder

namespace ShaderBindings

/-- The slots of a kind are numbered from zero. -/
def ResourceKind.HasSlot (k : ResourceKind) (n : Int) : Prop := 0 ≤ n ∧ n < k.bound

instance (k : ResourceKind) : DecidablePred k.HasSlot :=
  fun _ => inferInstanceAs (Decidable (_ ∧ _))

namespace StageReflection

section

variable {α : Type} [Resource α]

/-- A resource is declared with a slot, and none before it is. -/
def DeclaredFirst (r : StageReflection) (n : Int) (a : α) : Prop :=
  ∃ before after, (Resource.declared r : List α) = before ++ a :: after ∧
    Resource.slot a = n ∧ ∀ c ∈ before, Resource.slot c ≠ n

/-- A list shows which slots of a kind hold a resource, in ascending order, and for each of them the
resource that counts. -/
structure ShowsSlots (r : StageReflection) (entries : List (Nat × α)) : Prop where
  ascending : entries.Pairwise fun x y => x.1 < y.1
  slots : ∀ n : Int, (∃ e ∈ entries, (e.1 : Int) = n) ↔
    (Resource.kind α).HasSlot n ∧ ∃ a ∈ (Resource.declared r : List α), Resource.slot a = n
  first : ∀ e ∈ entries, r.DeclaredFirst e.1 e.2

variable (α) in
/-- The resources with a slot in bounds, as they are declared. -/
def bindable (r : StageReflection) : List α :=
  (Resource.declared r : List α).filter fun a => (Resource.kind α).HasSlot (Resource.slot a)

variable (α) in
/-- No two resources have one slot, those out of bounds aside. -/
def SlotsDistinct (r : StageReflection) : Prop := ((r.bindable α).map Resource.slot).Nodup

end

variable {α : Type} [Resource α] {r r' : StageReflection} {a c : α} {n : Int} {slot : Nat}
  {entries others : List (Nat × α)}

/-! ## The first resource of a slot -/

theorem declaredFirst_iff : r.DeclaredFirst n a ↔
    (Resource.declared r : List α).find? (Resource.slot · == n) = some a := by
  rw [List.find?_eq_some_iff_append]
  simp only [beq_iff_eq, Bool.not_eq_true', beq_eq_false_iff_ne]
  constructor
  · rintro ⟨before, after, hdeclared, hslot, hbefore⟩
    exact ⟨hslot, before, after, hdeclared, hbefore⟩
  · rintro ⟨hslot, before, after, hdeclared, hbefore⟩
    exact ⟨before, after, hdeclared, hslot, hbefore⟩

theorem DeclaredFirst.unique (h : r.DeclaredFirst n a) (h' : r.DeclaredFirst n c) : a = c :=
  Option.some.inj ((declaredFirst_iff.mp h).symm.trans (declaredFirst_iff.mp h'))

theorem DeclaredFirst.slot_eq (h : r.DeclaredFirst n a) : Resource.slot a = n := by
  obtain ⟨before, after, -, hslot, -⟩ := h
  exact hslot

theorem DeclaredFirst.mem (h : r.DeclaredFirst n a) : a ∈ (Resource.declared r : List α) := by
  obtain ⟨before, after, hdeclared, -⟩ := h
  simp [hdeclared]

/-- A slot with a resource has a first one. -/
theorem exists_declaredFirst (ha : a ∈ (Resource.declared r : List α))
    (hslot : Resource.slot a = n) : ∃ c : α, r.DeclaredFirst n c := by
  simp only [declaredFirst_iff, ← Option.isSome_iff_exists, List.find?_isSome]
  exact ⟨a, ha, beq_iff_eq.mpr hslot⟩

/-! ## What the view shows -/

theorem mem_occupied_iff_declaredFirst : (slot, a) ∈ r.occupied α ↔
    (Resource.kind α).HasSlot slot ∧ r.DeclaredFirst slot a := by
  rw [mem_occupied, declaredFirst_iff, atSlot?, if_neg (by omega), ResourceKind.HasSlot]
  exact and_congr_left fun _ => by omega

theorem showsSlots_occupied (r : StageReflection) : r.ShowsSlots (r.occupied α) := by
  refine ⟨List.pairwise_map.mp (occupied_ascending α r), fun n => ⟨?_, ?_⟩, ?_⟩
  · rintro ⟨⟨slot, a⟩, hmem, rfl⟩
    obtain ⟨hbound, hfirst⟩ := mem_occupied_iff_declaredFirst.mp hmem
    exact ⟨hbound, a, hfirst.mem, hfirst.slot_eq⟩
  · rintro ⟨hbound, a, ha, hslot⟩
    obtain ⟨c, hfirst⟩ := exists_declaredFirst ha hslot
    obtain ⟨slot, rfl⟩ := Int.eq_ofNat_of_zero_le hbound.1
    exact ⟨(slot, c), mem_occupied_iff_declaredFirst.mpr ⟨hbound, hfirst⟩, rfl⟩
  · rintro ⟨slot, a⟩ hmem
    exact (mem_occupied_iff_declaredFirst.mp hmem).2

/-- The entries of such a list are told by the declared resources. -/
theorem ShowsSlots.mem_iff (h : r.ShowsSlots entries) : (slot, a) ∈ entries ↔
    (Resource.kind α).HasSlot slot ∧ r.DeclaredFirst slot a := by
  constructor
  · intro hmem
    exact ⟨((h.slots slot).mp ⟨(slot, a), hmem, rfl⟩).1, h.first _ hmem⟩
  · rintro ⟨hbound, hfirst⟩
    obtain ⟨⟨slot', c⟩, hmem, hslot⟩ :=
      (h.slots slot).mpr ⟨hbound, a, hfirst.mem, hfirst.slot_eq⟩
    obtain rfl : slot' = slot := Int.ofNat.inj hslot
    obtain rfl : c = a := (h.first _ hmem).unique hfirst
    exact hmem

/-- There is one such list. -/
theorem ShowsSlots.eq (h : r.ShowsSlots entries) (h' : r.ShowsSlots others) : entries = others :=
  eq_of_pairwise_asymm (fun _ _ => Nat.lt_asymm) h.ascending h'.ascending
    fun _ => h.mem_iff.trans h'.mem_iff.symm

/-! ## Distinct slots -/

theorem mem_bindable : a ∈ r.bindable α ↔
    a ∈ (Resource.declared r : List α) ∧ (Resource.kind α).HasSlot (Resource.slot a) := by
  simp [bindable]

/-- Where slots are distinct, each resource in bounds is the first of its slot. -/
theorem SlotsDistinct.mem_occupied (h : r.SlotsDistinct α) :
    (slot, a) ∈ r.occupied α ↔ a ∈ r.bindable α ∧ Resource.slot a = slot := by
  rw [mem_occupied_iff_declaredFirst, mem_bindable]
  constructor
  · rintro ⟨hbound, hfirst⟩
    rw [hfirst.slot_eq]
    exact ⟨⟨hfirst.mem, hbound⟩, rfl⟩
  · rintro ⟨⟨ha, hbound⟩, hslot⟩
    obtain ⟨c, hfirst⟩ := exists_declaredFirst ha hslot
    have hc : c ∈ r.bindable α :=
      mem_bindable.mpr ⟨hfirst.mem, by rwa [hfirst.slot_eq, ← hslot]⟩
    obtain rfl : c = a := List.inj_on_of_nodup_map h hc (mem_bindable.mpr ⟨ha, hbound⟩)
      (hfirst.slot_eq.trans hslot.symm)
    exact ⟨hslot ▸ hbound, hfirst⟩

/-- The resources of a view ascend in their slots. -/
theorem pairwise_map_snd_occupied (r : StageReflection) :
    ((r.occupied α).map Prod.snd).Pairwise fun a c => Resource.slot a < Resource.slot c := by
  rw [List.pairwise_map]
  refine (showsSlots_occupied r).ascending.imp_of_mem fun {x y} hx hy hxy => ?_
  rw [slot_of_mem_occupied hx, slot_of_mem_occupied hy]
  exact Int.ofNat_lt.mpr hxy

theorem SlotsDistinct.mem_map_snd_occupied (h : r.SlotsDistinct α) :
    a ∈ (r.occupied α).map Prod.snd ↔ a ∈ r.bindable α := by
  rw [List.mem_map]
  constructor
  · rintro ⟨⟨slot, a⟩, hmem, rfl⟩
    exact (h.mem_occupied.mp hmem).1
  · intro ha
    obtain ⟨slot, hslot⟩ := Int.eq_ofNat_of_zero_le (mem_bindable.mp ha).2.1
    exact ⟨(slot, a), h.mem_occupied.mpr ⟨ha, hslot⟩, rfl⟩

/-- The view has the resources in bounds, sorted by slot, exactly if the slots are distinct. -/
theorem map_snd_occupied_eq_iff : (r.occupied α).map Prod.snd =
      (r.bindable α).mergeSort (fun a c => Resource.slot a ≤ Resource.slot c) ↔
    r.SlotsDistinct α := by
  have hperm : ((r.bindable α).mergeSort fun a c => Resource.slot a ≤ Resource.slot c).Perm
      (r.bindable α) := List.mergeSort_perm _ _
  constructor
  · intro h
    have hnodup : (((r.occupied α).map Prod.snd).map Resource.slot).Nodup :=
      List.pairwise_map.mpr ((pairwise_map_snd_occupied r).imp Int.ne_of_lt)
    rw [h] at hnodup
    exact (hperm.map Resource.slot).nodup_iff.mp hnodup
  · intro h
    have hascending := (StablySorted.mergeSort Resource.slot (r.bindable α)).ascending
    have hne : ((r.bindable α).mergeSort fun a c => Resource.slot a ≤ Resource.slot c).Pairwise
        fun a c => Resource.slot a ≠ Resource.slot c :=
      List.pairwise_map.mp ((hperm.map Resource.slot).nodup_iff.mpr h)
    have hsorted : ((r.bindable α).mergeSort fun a c => Resource.slot a ≤ Resource.slot c).Pairwise
        fun a c => Resource.slot a < Resource.slot c :=
      (hascending.and hne).imp fun hac => Int.lt_iff_le_and_ne.mpr hac
    exact eq_of_pairwise_asymm (fun _ _ => Int.lt_asymm) (pairwise_map_snd_occupied r) hsorted
      fun a => h.mem_map_snd_occupied.trans hperm.mem_iff.symm

/-! ## Order of declaration -/

theorem bindable_perm (h : (Resource.declared r : List α).Perm (Resource.declared r')) :
    (r.bindable α).Perm (r'.bindable α) := h.filter _

theorem SlotsDistinct.of_perm (hdistinct : r.SlotsDistinct α)
    (h : (Resource.declared r : List α).Perm (Resource.declared r')) : r'.SlotsDistinct α :=
  ((bindable_perm h).map Resource.slot).nodup_iff.mp hdistinct

theorem occupied_of_perm (hdistinct : r.SlotsDistinct α)
    (h : (Resource.declared r : List α).Perm (Resource.declared r')) :
    r'.occupied α = r.occupied α := by
  have hdistinct' := hdistinct.of_perm h
  refine eq_of_pairwise_asymm (fun _ _ => Nat.lt_asymm) (showsSlots_occupied r').ascending
    (showsSlots_occupied r).ascending fun e => ?_
  rw [hdistinct.mem_occupied, hdistinct'.mem_occupied, (bindable_perm h).mem_iff]

/-- The occupied slots of a kind are those in bounds that a resource is declared with, in ascending
order, each with the first such resource. They hold the resources in bounds and nothing else, sorted
by slot, exactly if no two of these are in one slot; and then they do not depend on the order of
declaration. -/
theorem occupied_eq_iff_showsSlots (α : Type) [Resource α] (r : StageReflection) :
    (∀ entries : List (Nat × α), r.occupied α = entries ↔ r.ShowsSlots entries) ∧
    ((r.occupied α).map Prod.snd =
        (r.bindable α).mergeSort (fun a c => Resource.slot a ≤ Resource.slot c) ↔
      r.SlotsDistinct α) ∧
    ∀ r' : StageReflection, r.SlotsDistinct α →
      (Resource.declared r : List α).Perm (Resource.declared r') →
      r'.occupied α = r.occupied α := by
  refine ⟨fun entries => ⟨?_, fun h => ?_⟩, map_snd_occupied_eq_iff,
    fun r' hdistinct hperm => occupied_of_perm hdistinct hperm⟩
  · rintro rfl
    exact showsSlots_occupied r
  · exact (showsSlots_occupied r).eq h

/-- Textures out of order, one without a slot and two beyond the last. -/
def scattered : StageReflection where
  stage := "fs"
  images := [⟨11, "shadow", "2d", "depth", false⟩, ⟨-1, "unused", "2d", "float", false⟩,
    ⟨12, "detail", "2d", "float", false⟩, ⟨3, "normals", "2d", "float", false⟩,
    ⟨12, "noise", "2d", "float", false⟩, ⟨0, "albedo", "2d", "float", false⟩]

theorem scattered_reordered :
    (scattered.SlotsDistinct Image ∧
      scattered.images.Perm { scattered with images := scattered.images.reverse }.images) ∧
    { scattered with images := scattered.images.reverse }.occupied Image =
      scattered.occupied Image ∧
    (scattered.occupied Image).map (fun e => (e.1, e.2.name)) =
      [(0, "albedo"), (3, "normals"), (11, "shadow")] := by
  have hdistinct : scattered.SlotsDistinct Image := by
    unfold SlotsDistinct
    decide
  have hperm : scattered.images.Perm
      { scattered with images := scattered.images.reverse }.images :=
    (List.reverse_perm scattered.images).symm
  obtain ⟨-, -, hreordered⟩ := occupied_eq_iff_showsSlots Image scattered
  exact ⟨⟨hdistinct, hperm⟩, hreordered _ hdistinct hperm, by decide⟩

end StageReflection

end ShaderBindings
