/-
  Where shared resources come from. Each resource stands at a `Position`: that of a snippet in
  the shader file and its own in the reflection. A module declares a resource for each name, the
  one at the first position of the name (`FirstAt`), in the order of slots and, in one slot, of
  positions (`ListsFirsts`); there is one such list (`ListsFirsts.eq`). The order of the
  snippets does not matter if resources of one name are equal and names differ in their slots
  (`Consistent`, `sharedResources_of_perm`).
-/
import ShaderBindings.Proofs.Module.Shared
import ShaderBindings.Proofs.StableOrder

namespace ShaderBindings

/-! ## Positions -/

/-- The numbers of a snippet in the shader file and of a resource in the snippet's reflection. -/
structure Position where
  snippet : Nat
  resource : Nat
deriving DecidableEq, Repr

namespace Position

variable {p q : Position}

/-- Snippets come in the order of the shader file, and resources in that of the reflection. -/
def Before (p q : Position) : Prop :=
  p.snippet < q.snippet ∨ p.snippet = q.snippet ∧ p.resource < q.resource

theorem Before.asymm (h : p.Before q) : ¬ q.Before p := by
  unfold Before at *
  omega

theorem not_before_self : ¬ p.Before p := fun h => h.asymm h

theorem eq_of_not_before (h : ¬ p.Before q) (h' : ¬ q.Before p) : p = q := by
  obtain ⟨i, j⟩ := p
  obtain ⟨i', j'⟩ := q
  simp only [Before] at h h'
  rw [mk.injEq]
  omega

end Position

variable {α : Type} [Resource α] {inp : ShaderInput} {b : BackendOutput} {a c : α} {p q : Position}

/-- A resource is at a position: in the reflection of the source of a vertex or fragment shader. -/
def OccursAt (inp : ShaderInput) (b : BackendOutput) (p : Position) (a : α) : Prop :=
  ∃ s source, inp.snippets[p.snippet]? = some s ∧ (s.stage = "vs" ∨ s.stage = "fs") ∧
    b.source? s.name = some source ∧
    (Resource.declared source.reflection : List α)[p.resource]? = some a

/-- A resource is at a position, and none of its name is at one before. -/
structure FirstAt (inp : ShaderInput) (b : BackendOutput) (p : Position) (a : α) : Prop where
  occurs : OccursAt inp b p a
  first : ∀ (q : Position) (c : α), OccursAt inp b q c → Resource.name c = Resource.name a →
    ¬ q.Before p

/-! ## All resources with their positions -/

theorem isShader_iff {s : Snippet} : s.isShader = true ↔ s.stage = "vs" ∨ s.stage = "fs" := by
  simp [Snippet.isShader, ProgramStage.tag]

variable (α) in
/-- The resources in the reflection of a snippet. -/
def declaredFor (b : BackendOutput) (s : Snippet) : List α :=
  if s.isShader then
    match b.source? s.name with
    | none => []
    | some source => Resource.declared source.reflection
  else []

variable (α) in
/-- All resources with their positions, in order. -/
def placed (inp : ShaderInput) (b : BackendOutput) : List (Position × α) :=
  inp.snippets.zipIdx.flatMap fun (s, i) =>
    (declaredFor α b s).zipIdx.map fun (a, j) => (⟨i, j⟩, a)

theorem getElem?_declaredFor {s : Snippet} {j : Nat} : (declaredFor α b s)[j]? = some a ↔
    (s.stage = "vs" ∨ s.stage = "fs") ∧ ∃ source, b.source? s.name = some source ∧
      (Resource.declared source.reflection : List α)[j]? = some a := by
  unfold declaredFor
  rw [← isShader_iff]
  split
  · next hs => cases b.source? s.name <;> simp [hs]
  · next hs => simp [hs]

theorem mem_placed : (p, a) ∈ placed α inp b ↔ OccursAt inp b p a := by
  unfold placed OccursAt
  simp only [List.mem_flatMap, List.mem_map, Prod.exists, Prod.mk.injEq,
    List.mem_zipIdx_iff_getElem?]
  constructor
  · rintro ⟨s, i, hs, a, j, ha, rfl, rfl⟩
    obtain ⟨hstage, source, hsource, ha⟩ := getElem?_declaredFor.mp ha
    exact ⟨s, source, hs, hstage, hsource, ha⟩
  · rintro ⟨s, source, hs, hstage, hsource, ha⟩
    exact ⟨s, p.snippet, hs, a, p.resource,
      getElem?_declaredFor.mpr ⟨hstage, source, hsource, ha⟩, rfl, rfl⟩

/-- Without their positions they are the resources that are declared. -/
theorem map_snd_placed : (placed α inp b).map Prod.snd = declaredIn α inp b := by
  have hfor : (placed α inp b).map Prod.snd = inp.snippets.flatMap (declaredFor α b) := by
    unfold placed
    rw [List.map_flatMap]
    calc inp.snippets.zipIdx.flatMap _
        = inp.snippets.zipIdx.flatMap fun x => declaredFor α b x.1 := by
          refine List.flatMap_congr fun x _ => ?_
          rw [List.map_map]
          exact List.zipIdx_map_fst 0 _
      _ = inp.snippets.flatMap (declaredFor α b) := by
          rw [← List.flatMap_map, List.zipIdx_map_fst]
  rw [hfor]
  unfold declaredIn ShaderInput.shaders
  induction inp.snippets with
  | nil => rfl
  | cons s rest ih =>
    rw [List.flatMap_cons, ih]
    by_cases hs : s.isShader = true
    · have hfirst : declaredFor α b s = match b.source? s.name with
          | none => []
          | some source => Resource.declared source.reflection := if_pos hs
      rw [List.filter_cons_of_pos hs, List.flatMap_cons]
      exact congrArg (· ++ _) hfirst
    · rw [List.filter_cons_of_neg hs, declaredFor, if_neg hs, List.nil_append]

theorem pairwise_snd_zipIdx {β : Type} (l : List β) : l.zipIdx.Pairwise fun x y => x.2 < y.2 := by
  have h : (l.zipIdx.map Prod.snd).Pairwise (· < ·) := by
    rw [List.zipIdx_map_snd]
    exact List.pairwise_lt_range'
  exact List.pairwise_map.mp h

theorem pairwise_placed : (placed α inp b).Pairwise fun x y => x.1.Before y.1 := by
  unfold placed
  rw [List.pairwise_flatMap]
  constructor
  · rintro ⟨s, i⟩ -
    rw [List.pairwise_map]
    exact (pairwise_snd_zipIdx _).imp fun h => .inr ⟨rfl, h⟩
  · refine (pairwise_snd_zipIdx _).imp fun {x y} hxy u hu v hv => ?_
    obtain ⟨_, -, rfl⟩ := List.mem_map.mp hu
    obtain ⟨_, -, rfl⟩ := List.mem_map.mp hv
    exact .inl hxy

/-! ## The first of each name -/

/-- The first entry of a name in a list of resources with their positions. -/
structure FirstIn (entries : List (Position × α)) (p : Position) (a : α) : Prop where
  mem : (p, a) ∈ entries
  first : ∀ q c, (q, c) ∈ entries → Resource.name c = Resource.name a → ¬ q.Before p

theorem firstIn_placed : FirstIn (placed α inp b) p a ↔ FirstAt inp b p a := by
  constructor
  · intro h
    exact ⟨mem_placed.mp h.mem, fun q c hc => h.first q c (mem_placed.mpr hc)⟩
  · intro h
    exact ⟨mem_placed.mpr h.occurs, fun q c hc => h.first q c (mem_placed.mp hc)⟩

section

variable {e : Position × α} {entries : List (Position × α)}

/-- The first entry of a list counts for its name, and the others only for other names. -/
theorem firstIn_cons (hentries : (e :: entries).Pairwise fun x y => x.1.Before y.1) :
    FirstIn (e :: entries) p a ↔
      (p, a) = e ∨ FirstIn entries p a ∧ Resource.name a ≠ Resource.name e.2 := by
  have hbefore : ∀ x ∈ entries, e.1.Before x.1 := (List.pairwise_cons.mp hentries).1
  constructor
  · intro h
    rcases List.mem_cons.mp h.mem with hfirst | hmem
    · exact .inl hfirst
    · refine .inr ⟨⟨hmem, fun q c hc => h.first q c (List.mem_cons_of_mem e hc)⟩, fun hname => ?_⟩
      exact h.first e.1 e.2 List.mem_cons_self hname.symm (hbefore _ hmem)
  · rintro (rfl | ⟨h, hname⟩)
    · refine ⟨List.mem_cons_self, fun q c hc _ => ?_⟩
      rcases List.mem_cons.mp hc with hfirst | hmem
      · rw [(Prod.mk.inj hfirst).1]
        exact Position.not_before_self
      · exact (hbefore _ hmem).asymm
    · refine ⟨List.mem_cons_of_mem e h.mem, fun q c hc hca => ?_⟩
      rcases List.mem_cons.mp hc with rfl | hmem
      · exact absurd hca.symm hname
      · exact h.first q c hmem hca

theorem mem_firstOfEachName_iff (hentries : entries.Pairwise fun x y => x.1.Before y.1) :
    a ∈ firstOfEachName α (entries.map Prod.snd) ↔ ∃ p, FirstIn entries p a := by
  induction entries with
  | nil =>
    simp only [List.map_nil, firstOfEachName, List.not_mem_nil, false_iff, not_exists]
    exact fun p h => List.not_mem_nil h.mem
  | cons e entries ih =>
    have htail := ih (List.pairwise_cons.mp hentries).2
    simp only [List.map_cons, firstOfEachName, List.mem_cons, List.mem_filter, htail, bne_iff_ne,
      firstIn_cons hentries, exists_or, exists_and_right]
    refine or_congr_left ⟨?_, ?_⟩
    · rintro rfl
      exact ⟨e.1, rfl⟩
    · rintro ⟨p, rfl⟩
      rfl

/-- The first resources of their names are in the order of their positions. -/
theorem pairwise_firstOfEachName (hentries : entries.Pairwise fun x y => x.1.Before y.1) :
    (firstOfEachName α (entries.map Prod.snd)).Pairwise fun a c =>
      ∃ p q, FirstIn entries p a ∧ FirstIn entries q c ∧ p.Before q := by
  induction entries with
  | nil => exact .nil
  | cons e entries ih =>
    obtain ⟨hbefore, htail⟩ := List.pairwise_cons.mp hentries
    have hlater {c : α} {q : Position} (hc : FirstIn entries q c)
        (hname : Resource.name c ≠ Resource.name e.2) : FirstIn (e :: entries) q c :=
      (firstIn_cons hentries).mpr (.inr ⟨hc, hname⟩)
    have hkept {c : α} (hc : c ∈ (firstOfEachName α (entries.map Prod.snd)).filter fun c =>
        Resource.name c != Resource.name e.2) : Resource.name c ≠ Resource.name e.2 := by
      simpa using (List.mem_filter.mp hc).2
    rw [List.map_cons, firstOfEachName, List.pairwise_cons]
    constructor
    · intro c hc
      obtain ⟨q, hq⟩ := (mem_firstOfEachName_iff htail).mp (List.mem_of_mem_filter hc)
      exact ⟨e.1, q, (firstIn_cons hentries).mpr (.inl rfl), hlater hq (hkept hc),
        hbefore _ hq.mem⟩
    · refine ((ih htail).filter _).imp_of_mem fun {a c} ha hc h => ?_
      obtain ⟨p, q, hp, hq, hpq⟩ := h
      exact ⟨p, q, hlater hp (hkept ha), hlater hq (hkept hc), hpq⟩

end

/-! ## Shared resources -/

theorem exists_occursAt_iff : (∃ p, OccursAt inp b p a) ↔ a ∈ declaredIn α inp b := by
  rw [← map_snd_placed, List.mem_map]
  constructor
  · rintro ⟨p, hp⟩
    exact ⟨(p, a), mem_placed.mpr hp, rfl⟩
  · rintro ⟨⟨p, c⟩, hmem, rfl⟩
    exact ⟨p, mem_placed.mp hmem⟩

/-- A name has one first position. -/
theorem FirstAt.unique (h : FirstAt inp b p a) (h' : FirstAt inp b q c)
    (hname : Resource.name a = Resource.name c) : p = q :=
  Position.eq_of_not_before (h'.first p a h.occurs hname) (h.first q c h'.occurs hname.symm)

/-- Of two resources the one with the lower slot comes first and, in one slot, the one that is
found first. -/
def Precedes (inp : ShaderInput) (b : BackendOutput) (a c : α) : Prop :=
  Resource.slot a ≤ Resource.slot c ∧ (Resource.slot a = Resource.slot c →
    ∃ p q, FirstAt inp b p a ∧ FirstAt inp b q c ∧ p.Before q)

theorem Precedes.asymm (h : Precedes inp b a c) : ¬ Precedes inp b c a := by
  intro h'
  have hslot : Resource.slot a = Resource.slot c := Int.le_antisymm h.1 h'.1
  obtain ⟨p, q, hp, hq, hpq⟩ := h.2 hslot
  obtain ⟨q', p', hq', hp', hqp⟩ := h'.2 hslot.symm
  obtain rfl : p = p' := hp.unique hp' rfl
  obtain rfl : q = q' := hq.unique hq' rfl
  exact hpq.asymm hqp

/-- A list has one resource for each name that is found, the one that is found first, in order. -/
structure ListsFirsts (inp : ShaderInput) (b : BackendOutput) (found : List α) : Prop where
  mem : ∀ a, a ∈ found ↔ ∃ p, FirstAt inp b p a
  named : ∀ name, name ∈ found.map Resource.name ↔
    ∃ p a, OccursAt inp b p (a : α) ∧ Resource.name a = name
  once : (found.map Resource.name).Nodup
  ordered : found.Pairwise (Precedes inp b)

theorem listsFirsts_sharedResources (inp : ShaderInput) (b : BackendOutput) :
    ListsFirsts inp b (sharedResources α inp b) := by
  refine ⟨fun a => ?_, fun name => ?_, nodup_sharedResources, ?_⟩
  · rw [mem_sharedResources, ← map_snd_placed, mem_firstOfEachName_iff pairwise_placed]
    simp only [firstIn_placed]
  · rw [List.mem_map, exists_mem_sharedResources]
    simp only [← exists_occursAt_iff]
    constructor
    · rintro ⟨a, ⟨p, hp⟩, hname⟩
      exact ⟨p, a, hp, hname⟩
    · rintro ⟨p, a, hp, hname⟩
      exact ⟨a, ⟨p, hp⟩, hname⟩
  · have hplaced : (placed α inp b).Pairwise fun x y => x.1.Before y.1 := pairwise_placed
    have hfirsts := pairwise_firstOfEachName hplaced
    rw [map_snd_placed] at hfirsts
    simp only [firstIn_placed] at hfirsts
    exact (StablySorted.mergeSort Resource.slot _).pairwise hfirsts

/-- There is one such list. -/
theorem ListsFirsts.eq {found other : List α} (h : ListsFirsts inp b found)
    (h' : ListsFirsts inp b other) : found = other :=
  eq_of_pairwise_asymm (fun _ _ hac => hac.asymm) h.ordered h'.ordered
    fun a => (h.mem a).trans (h'.mem a).symm

/-! ## Order of the snippets -/

/-- Resources of one name are equal, and resources of different names have different slots. -/
structure Consistent (α : Type) [Resource α] (inp : ShaderInput) (b : BackendOutput) : Prop where
  equal : ∀ p q (a c : α), OccursAt inp b p a → OccursAt inp b q c →
    Resource.name a = Resource.name c → a = c
  apart : ∀ p q (a c : α), OccursAt inp b p a → OccursAt inp b q c →
    Resource.name a ≠ Resource.name c → Resource.slot a ≠ Resource.slot c

theorem mem_declaredIn_of_perm {snippets : List Snippet} (h : inp.snippets.Perm snippets) :
    a ∈ declaredIn α { inp with snippets } b ↔ a ∈ declaredIn α inp b :=
  (List.Perm.flatMap_right _ (h.symm.filter Snippet.isShader)).mem_iff

theorem mem_sharedResources_of_equal (h : Consistent α inp b) :
    a ∈ sharedResources α inp b ↔ a ∈ declaredIn α inp b := by
  refine ⟨mem_declaredIn_of_mem_sharedResources, fun ha => ?_⟩
  obtain ⟨c, hc, hname⟩ := exists_mem_sharedResources.mpr ⟨a, ha, rfl⟩
  obtain ⟨p, hp⟩ := exists_occursAt_iff.mpr ha
  obtain ⟨q, hq⟩ := exists_occursAt_iff.mpr (mem_declaredIn_of_mem_sharedResources hc)
  rwa [h.equal p q a c hp hq hname.symm]

/-- Where names differ in their slots, the slots of shared resources ascend. -/
theorem slots_ascending (h : Consistent α inp b) :
    (sharedResources α inp b).Pairwise fun a c => Resource.slot a < Resource.slot c := by
  have hlists := listsFirsts_sharedResources (α := α) inp b
  have hnames := List.pairwise_map.mp hlists.once
  refine (hlists.ordered.and hnames).imp_of_mem fun {a c} ha hc hac => ?_
  obtain ⟨p, hp⟩ := (hlists.mem a).mp ha
  obtain ⟨q, hq⟩ := (hlists.mem c).mp hc
  have hslot := h.apart p q a c hp.occurs hq.occurs hac.2
  exact lt_of_le_of_ne hac.1.1 hslot

theorem Consistent.of_perm {snippets : List Snippet} (h : Consistent α inp b)
    (hperm : inp.snippets.Perm snippets) : Consistent α { inp with snippets } b := by
  have hfound {p : Position} {a : α} (ha : OccursAt { inp with snippets } b p a) :
      ∃ q, OccursAt inp b q a :=
    exists_occursAt_iff.mpr ((mem_declaredIn_of_perm hperm).mp (exists_occursAt_iff.mp ⟨p, ha⟩))
  constructor
  · intro p q a c ha hc
    obtain ⟨p', ha⟩ := hfound ha
    obtain ⟨q', hc⟩ := hfound hc
    exact h.equal p' q' a c ha hc
  · intro p q a c ha hc
    obtain ⟨p', ha⟩ := hfound ha
    obtain ⟨q', hc⟩ := hfound hc
    exact h.apart p' q' a c ha hc

theorem sharedResources_of_perm {snippets : List Snippet} (h : Consistent α inp b)
    (hperm : inp.snippets.Perm snippets) :
    sharedResources α { inp with snippets } b = sharedResources α inp b := by
  have hother := h.of_perm hperm
  refine eq_of_pairwise_asymm (fun a c => Int.lt_asymm) (slots_ascending hother)
    (slots_ascending h) fun a => ?_
  rw [mem_sharedResources_of_equal hother, mem_sharedResources_of_equal h,
    mem_declaredIn_of_perm hperm]

/-- The shared resources of a kind are those that are found first of all of their names, one for
each name that is found, in the order of slots and, in one slot, in that in which they are found.
They do not depend on the order of the snippets if resources of one name are equal and names differ
in their slots. -/
theorem sharedResources_eq_iff_listsFirsts (α : Type) [Resource α] :
    (∀ (inp : ShaderInput) (b : BackendOutput) (found : List α),
      sharedResources α inp b = found ↔ ListsFirsts inp b found) ∧
    ∀ (inp : ShaderInput) (b : BackendOutput) (snippets : List Snippet), Consistent α inp b →
      inp.snippets.Perm snippets →
      sharedResources α { inp with snippets } b = sharedResources α inp b := by
  refine ⟨fun inp b found => ⟨?_, fun h => ?_⟩, fun inp b snippets => sharedResources_of_perm⟩
  · rintro rfl
    exact listsFirsts_sharedResources inp b
  · exact (listsFirsts_sharedResources inp b).eq h

/-! ## Shaders that share a texture -/

/-- Two shaders with a block between them. -/
def sharingTwo : ShaderInput where
  basePath := ""
  snippets := [⟨"v", "vs"⟩, ⟨"common", "block"⟩, ⟨"f", "fs"⟩]

/-- Both sample one texture, and the fragment shader one more in a lower slot. -/
def sharingOutput : BackendOutput where
  slang := ⟨"wgsl", "wgsl", ".WGPU", 0⟩
  sources := [
    ⟨"v", "", { stage := "vs", images := [{ slot := 1, name := "tex" }] }⟩,
    ⟨"f", "", { stage := "fs",
                images := [{ slot := 0, name := "lut" }, { slot := 1, name := "tex" }] }⟩]

theorem sharingTwo_consistent : Consistent Image sharingTwo sharingOutput := by
  have hequal : ∀ x ∈ placed Image sharingTwo sharingOutput,
      ∀ y ∈ placed Image sharingTwo sharingOutput, x.2.name = y.2.name → x.2 = y.2 := by decide
  have hapart : ∀ x ∈ placed Image sharingTwo sharingOutput,
      ∀ y ∈ placed Image sharingTwo sharingOutput, x.2.name ≠ y.2.name → x.2.slot ≠ y.2.slot := by
    decide
  exact ⟨fun p q a c ha hc => hequal (p, a) (mem_placed.mpr ha) (q, c) (mem_placed.mpr hc),
    fun p q a c ha hc => hapart (p, a) (mem_placed.mpr ha) (q, c) (mem_placed.mpr hc)⟩

theorem sharingTwo_reordered :
    (Consistent Image sharingTwo sharingOutput ∧
      sharingTwo.snippets.Perm [⟨"f", "fs"⟩, ⟨"common", "block"⟩, ⟨"v", "vs"⟩]) ∧
    sharedResources Image { sharingTwo with
        snippets := [⟨"f", "fs"⟩, ⟨"common", "block"⟩, ⟨"v", "vs"⟩] } sharingOutput =
      sharedResources Image sharingTwo sharingOutput ∧
    ListsFirsts sharingTwo sharingOutput
      [({ slot := 0, name := "lut" } : Image), { slot := 1, name := "tex" }] := by
  have hperm : sharingTwo.snippets.Perm [⟨"f", "fs"⟩, ⟨"common", "block"⟩, ⟨"v", "vs"⟩] := by
    decide
  have hfirsts : firstOfEachName Image (declaredIn Image sharingTwo sharingOutput) =
      [{ slot := 1, name := "tex" }, { slot := 0, name := "lut" }] := by decide
  have hfound : sharedResources Image sharingTwo sharingOutput =
      [{ slot := 0, name := "lut" }, { slot := 1, name := "tex" }] := by
    rw [sharedResources, hfirsts]
    simp [List.mergeSort, List.MergeSort.Internal.splitInTwo, Resource.slot]
  obtain ⟨hlists, hreordered⟩ := sharedResources_eq_iff_listsFirsts Image
  exact ⟨⟨sharingTwo_consistent, hperm⟩, hreordered _ _ _ sharingTwo_consistent hperm,
    (hlists _ _ _).mp hfound⟩

end ShaderBindings
