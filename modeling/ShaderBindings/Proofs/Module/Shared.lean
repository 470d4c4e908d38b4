/-
  Shared resources: of the resources of embedded shaders one for each name, the first, in the
  order of slots (`mem_sharedResources`). Nothing else is declared
  (`mem_declaredIn_of_mem_sharedResources`), and no name is left out or comes twice
  (`exists_mem_sharedResources`, `nodup_sharedResources`).
-/
import Mathlib.Data.List.Nodup
import ShaderBindings.Module.Shared

namespace ShaderBindings

variable {α : Type} [Resource α] {inp : ShaderInput} {b : BackendOutput}

/-! ## First of each name -/

/-- The first resource of a name stands for all of that name. -/
theorem exists_firstOfEachName {as : List α} {a : α} (h : a ∈ as) :
    ∃ c ∈ firstOfEachName α as, c ∈ as ∧ Resource.name c = Resource.name a := by
  induction as with
  | nil => simp at h
  | cons first rest ih =>
    unfold firstOfEachName
    by_cases hname : Resource.name a = Resource.name first
    · exact ⟨first, List.mem_cons_self, List.mem_cons_self, hname.symm⟩
    · have hrest : a ∈ rest := by
        rcases List.mem_cons.mp h with rfl | h
        · exact absurd rfl hname
        · exact h
      obtain ⟨c, hc, hmem, hca⟩ := ih hrest
      have hkept : (Resource.name c != Resource.name first) = true := by
        rw [hca]
        simpa using hname
      exact ⟨c, List.mem_cons_of_mem first (List.mem_filter.mpr ⟨hc, hkept⟩),
        List.mem_cons_of_mem first hmem, hca⟩

theorem mem_of_mem_firstOfEachName {as : List α} {a : α} (h : a ∈ firstOfEachName α as) :
    a ∈ as := by
  induction as with
  | nil => exact h
  | cons first rest ih =>
    unfold firstOfEachName at h
    rcases List.mem_cons.mp h with rfl | h
    · exact List.mem_cons_self
    · exact List.mem_cons_of_mem first (ih (List.mem_of_mem_filter h))

theorem nodup_firstOfEachName (as : List α) :
    ((firstOfEachName α as).map Resource.name).Nodup := by
  induction as with
  | nil => exact List.nodup_nil
  | cons first rest ih =>
    unfold firstOfEachName
    rw [List.map_cons, List.nodup_cons]
    refine ⟨fun hmem => ?_, ih.sublist (List.filter_sublist.map _)⟩
    obtain ⟨c, hc, hname⟩ := List.mem_map.mp hmem
    simpa [hname] using (List.mem_filter.mp hc).2

/-! ## Declared resources -/

theorem mem_declaredIn {s : Snippet} (hs : s ∈ inp.shaders) {source : StageSource}
    (hsource : b.source? s.name = some source) {a : α}
    (ha : a ∈ (Resource.declared source.reflection : List α)) : a ∈ declaredIn α inp b := by
  refine List.mem_flatMap.mpr ⟨s, hs, ?_⟩
  rw [hsource]
  exact ha

theorem exists_of_mem_declaredIn {a : α} (h : a ∈ declaredIn α inp b) :
    ∃ s ∈ inp.shaders, ∃ source, b.source? s.name = some source ∧
      a ∈ (Resource.declared source.reflection : List α) := by
  obtain ⟨s, hs, ha⟩ := List.mem_flatMap.mp h
  cases hsource : b.source? s.name with
  | none => simp [hsource] at ha
  | some source => exact ⟨s, hs, source, hsource, by simpa [hsource] using ha⟩

/-! ## Shared resources -/

theorem mem_sharedResources {a : α} :
    a ∈ sharedResources α inp b ↔ a ∈ firstOfEachName α (declaredIn α inp b) :=
  (List.mergeSort_perm _ _).mem_iff

theorem mem_declaredIn_of_mem_sharedResources {a : α} (h : a ∈ sharedResources α inp b) :
    a ∈ declaredIn α inp b :=
  mem_of_mem_firstOfEachName (mem_sharedResources.mp h)

/-- The names of shared resources are those of all resources. -/
theorem exists_mem_sharedResources {name : String} :
    (∃ a ∈ sharedResources α inp b, Resource.name a = name) ↔
      ∃ a ∈ declaredIn α inp b, Resource.name a = name := by
  constructor
  · intro h
    obtain ⟨a, ha, hname⟩ := h
    exact ⟨a, mem_declaredIn_of_mem_sharedResources ha, hname⟩
  · intro h
    obtain ⟨a, ha, rfl⟩ := h
    obtain ⟨c, hc, -, hname⟩ := exists_firstOfEachName ha
    exact ⟨c, mem_sharedResources.mpr hc, hname⟩

/-- Shared resources of one kind have different names. -/
theorem nodup_sharedResources :
    ((sharedResources α inp b).map Resource.name).Nodup :=
  ((List.mergeSort_perm _ _).map _).nodup_iff.mpr (nodup_firstOfEachName _)

end ShaderBindings
