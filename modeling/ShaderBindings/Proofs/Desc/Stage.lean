/-
  The statements of a stage, part by part: when there are any (`exists_stage_eq_ok`), which
  faults stand in their place (`stage_eq_error`), and which arrays they refer to
  (`arrays_stage`). Blocks and pairs are the two parts that may fail; each is gathered from the
  occupied slots (`gather_eq_ok`). `place_of_mem_stageRest` and `mem_code_or_place` say at which
  places each part assigns.
-/
import ShaderBindings.Desc.Emitter
import ShaderBindings.Proofs.Fallible
import ShaderBindings.Proofs.Reflection

namespace ShaderBindings

namespace Desc

/-- The array that a value refers to. -/
def Value.array? : Value → Option String
  | .address array => some array
  | .cstring array => some array
  | _ => none

/-- The arrays that statements refer to, in order. -/
def arrays (as : List Assignment) : List String := as.filterMap (·.value.array?)

@[simp]
theorem arrays_append (as bs : List Assignment) : arrays (as ++ bs) = arrays as ++ arrays bs :=
  List.filterMap_append

theorem arrays_eq_nil {as : List Assignment} : arrays as = [] ↔ ∀ a ∈ as, a.value.array? = none :=
  List.filterMap_eq_nil_iff

theorem arrays_flatMap {α : Type} (xs : List α) (f : α → List Assignment)
    (h : ∀ x, arrays (f x) = []) : arrays (xs.flatMap f) = [] := by
  refine arrays_eq_nil.mpr fun a ha => ?_
  obtain ⟨x, -, hax⟩ := List.mem_flatMap.mp ha
  exact arrays_eq_nil.mp (h x) a hax

theorem arrays_flatten {parts : List (List Assignment)} (h : ∀ part ∈ parts, arrays part = []) :
    arrays parts.flatten = [] := by
  refine arrays_eq_nil.mpr fun a ha => ?_
  obtain ⟨part, hpart, hap⟩ := List.mem_flatten.mp ha
  exact arrays_eq_nil.mp (h part hpart) a hap

end Desc

namespace Emitter

open Desc Fallible

variable {e : Emitter} {tag : String} {r : StageReflection} {p : Payload}

/-! ## Blocks and pairs -/

theorem block_eq_ok {slot : Nat} {b : UniformBlock} {part : List Assignment} :
    e.block tag slot b = .ok part ↔
      Text.hasNumeral (Layout.roundUp b.size 16) = true ∧
        part = [⟨.stage tag (.block slot .size), .number (Layout.roundUp b.size 16)⟩,
            ⟨.stage tag (.block slot .layout), .tag (.known ".STD140")⟩]
          ++ e.uniforms tag slot b := by
  unfold block
  by_cases h : Text.hasNumeral (Layout.roundUp b.size 16) = true
  · simp [h, eq_comm]
  · simp [h]

theorem block_eq_error {slot : Nat} {b : UniformBlock} {f : DescFault}
    (h : e.block tag slot b = .error f) : f = .hugeBlock := by
  unfold block at h
  by_cases hn : Text.hasNumeral (Layout.roundUp b.size 16) = true
  · simp [hn] at h
  · simpa [hn, eq_comm] using h

theorem pair_eq_ok {slot : Nat} {s : ImageSampler} {part : List Assignment} :
    e.pair tag r slot s = .ok part ↔
      ∃ image sampler, r.named? Image s.imageName = .ok image ∧
        r.named? Sampler s.samplerName = .ok sampler ∧
        part = [⟨.stage tag (.pair slot .used), .flag true⟩,
            ⟨.stage tag (.pair slot .imageSlot), .number image.slot⟩,
            ⟨.stage tag (.pair slot .samplerSlot), .number sampler.slot⟩]
          ++ e.pairName tag slot s := by
  unfold pair
  rw [bind_eq_ok]
  constructor
  · intro h
    obtain ⟨image, himage, h⟩ := h
    obtain ⟨sampler, hsampler, h⟩ := bind_eq_ok.mp h
    exact ⟨image, sampler, himage, hsampler, (pure_eq_ok.mp h).symm⟩
  · intro h
    obtain ⟨image, sampler, himage, hsampler, rfl⟩ := h
    exact ⟨image, himage, bind_eq_ok.mpr ⟨sampler, hsampler, rfl⟩⟩

theorem gather_eq_ok {ε α : Type} {describe : Nat → α → Except ε (List Assignment)}
    {slots : List (Nat × α)} {as : List Assignment} :
    gather describe slots = .ok as ↔ ∃ parts,
      List.Forall₂ (fun sa part => describe sa.1 sa.2 = .ok part) slots parts ∧
        as = parts.flatten := by
  induction slots generalizing as with
  | nil => simp [gather, eq_comm]
  | cons sa rest ih =>
    rw [gather, bind_eq_ok]
    constructor
    · intro h
      obtain ⟨here, hhere, h⟩ := h
      obtain ⟨more, hmore, h⟩ := bind_eq_ok.mp h
      obtain ⟨parts, hparts, rfl⟩ := ih.mp hmore
      exact ⟨here :: parts, .cons hhere hparts, (pure_eq_ok.mp h).symm⟩
    · intro h
      obtain ⟨parts, hparts, rfl⟩ := h
      cases hparts with
      | @cons _ here _ parts hhere hparts =>
        exact ⟨here, hhere, bind_eq_ok.mpr ⟨parts.flatten, ih.mpr ⟨parts, hparts, rfl⟩, rfl⟩⟩

theorem exists_gather_eq_ok {ε α : Type} {describe : Nat → α → Except ε (List Assignment)}
    {slots : List (Nat × α)} :
    (∃ as, gather describe slots = .ok as) ↔
      ∀ sa ∈ slots, ∃ part, describe sa.1 sa.2 = .ok part := by
  rw [← exists_mapM_eq_ok]
  constructor
  · intro h
    obtain ⟨as, has⟩ := h
    obtain ⟨parts, hparts, -⟩ := gather_eq_ok.mp has
    exact ⟨parts, mapM_eq_ok.mpr hparts⟩
  · intro h
    obtain ⟨parts, hparts⟩ := h
    exact ⟨parts.flatten, gather_eq_ok.mpr ⟨parts, mapM_eq_ok.mp hparts, rfl⟩⟩

theorem exists_of_gather_eq_error {ε α : Type} {describe : Nat → α → Except ε (List Assignment)}
    {slots : List (Nat × α)} {f : ε} (h : gather describe slots = .error f) :
    ∃ sa ∈ slots, describe sa.1 sa.2 = .error f := by
  induction slots with
  | nil => simp [gather] at h
  | cons sa rest ih =>
    rw [gather, bind_eq_error] at h
    rcases h with h | ⟨here, -, h⟩
    · exact ⟨sa, List.mem_cons_self, h⟩
    · rcases bind_eq_error.mp h with h | ⟨more, -, h⟩
      · obtain ⟨sa', hmem, hf⟩ := ih h
        exact ⟨sa', List.mem_cons_of_mem sa hmem, hf⟩
      · simp [pure, Except.pure] at h

/-! ## Stages -/

/-- The statements of a stage, given those of its blocks and pairs. -/
def stageBody (e : Emitter) (tag : String) (r : StageReflection) (p : Payload)
    (blocks pairs : List (List Assignment)) : List Assignment :=
  e.code tag p ++ [⟨.stage tag .entry, .text r.entryPoint⟩]
    ++ blocks.flatten
    ++ (r.occupied Image).flatMap (fun (slot, i) => image tag slot i)
    ++ (r.occupied Sampler).flatMap (fun (slot, s) => sampler tag slot s)
    ++ pairs.flatten

theorem stage_eq_ok {as : List Assignment} :
    e.stage tag r p = .ok as ↔ ∃ blocks pairs,
      List.Forall₂ (fun sb part => e.block tag sb.1 sb.2 = .ok part)
        (r.occupied UniformBlock) blocks ∧
      List.Forall₂ (fun sp part => e.pair tag r sp.1 sp.2 = .ok part)
        (r.occupied ImageSampler) pairs ∧
      as = e.stageBody tag r p blocks pairs := by
  unfold stage
  rw [bind_eq_ok]
  constructor
  · intro h
    obtain ⟨found, hfound, h⟩ := h
    obtain ⟨bound, hbound, h⟩ := bind_eq_ok.mp h
    obtain ⟨blocks, hblocks, rfl⟩ := gather_eq_ok.mp hfound
    obtain ⟨pairs, hpairs, rfl⟩ := gather_eq_ok.mp (mapError_eq_ok.mp hbound)
    exact ⟨blocks, pairs, hblocks, hpairs, (pure_eq_ok.mp h).symm⟩
  · intro h
    obtain ⟨blocks, pairs, hblocks, hpairs, rfl⟩ := h
    refine ⟨blocks.flatten, gather_eq_ok.mpr ⟨blocks, hblocks, rfl⟩, ?_⟩
    refine bind_eq_ok.mpr ⟨pairs.flatten, ?_, rfl⟩
    exact mapError_eq_ok.mpr (gather_eq_ok.mpr ⟨pairs, hpairs, rfl⟩)

end Emitter

/-! ## When a stage can be described -/

/-- All bound blocks have a size that can be written. -/
def StageReflection.Writable (r : StageReflection) : Prop :=
  ∀ sb ∈ r.occupied UniformBlock, Text.hasNumeral (Layout.roundUp sb.2.size 16) = true

namespace Emitter

open Desc Fallible

variable {e : Emitter} {tag : String} {r : StageReflection} {p : Payload}

theorem exists_pair_eq_ok {slot : Nat} {s : ImageSampler} :
    (∃ part, e.pair tag r slot s = .ok part) ↔ r.Resolves s := by
  rw [StageReflection.resolves_iff]
  constructor
  · intro h
    obtain ⟨part, h⟩ := h
    obtain ⟨image, sampler, hi, hs, -⟩ := pair_eq_ok.mp h
    exact ⟨⟨image, hi⟩, sampler, hs⟩
  · intro h
    obtain ⟨⟨image, hi⟩, sampler, hs⟩ := h
    exact ⟨_, pair_eq_ok.mpr ⟨image, sampler, hi, hs, rfl⟩⟩

theorem exists_block_eq_ok {slot : Nat} {b : UniformBlock} :
    (∃ part, e.block tag slot b = .ok part) ↔
      Text.hasNumeral (Layout.roundUp b.size 16) = true := by
  constructor
  · intro h
    obtain ⟨part, h⟩ := h
    exact (block_eq_ok.mp h).1
  · intro h
    exact ⟨_, block_eq_ok.mpr ⟨h, rfl⟩⟩

/-- A stage can be described when its blocks can be written and its pairs resolve. -/
theorem exists_stage_eq_ok (e : Emitter) (tag : String) (r : StageReflection) (p : Payload) :
    (∃ as, e.stage tag r p = .ok as) ↔ r.Writable ∧ r.Resolved := by
  have hblocks : (∃ as, gather (e.block tag) (r.occupied UniformBlock) = .ok as) ↔ r.Writable := by
    rw [exists_gather_eq_ok]
    simp only [exists_block_eq_ok]
    rfl
  have hpairs : (∃ as, gather (e.pair tag r) (r.occupied ImageSampler) = .ok as) ↔ r.Resolved := by
    rw [exists_gather_eq_ok]
    simp only [exists_pair_eq_ok]
    rfl
  rw [← hblocks, ← hpairs]
  unfold stage
  simp only [bind_eq_ok, mapError_eq_ok, pure_eq_ok]
  constructor
  · intro h
    obtain ⟨as, blocks, hb, pairs, hp, -⟩ := h
    exact ⟨⟨blocks, hb⟩, pairs, hp⟩
  · intro h
    obtain ⟨⟨blocks, hb⟩, pairs, hp⟩ := h
    exact ⟨_, blocks, hb, pairs, hp, rfl⟩

/-- The faults of a stage: a block that cannot be written, or a name that is not there. -/
theorem stage_eq_error {f : DescFault} (h : e.stage tag r p = .error f) :
    f = .hugeBlock ∨ ∃ u, f = .unknownResource u := by
  unfold stage at h
  rcases bind_eq_error.mp h with h | ⟨blocks, -, h⟩
  · left
    obtain ⟨sb, -, h⟩ := exists_of_gather_eq_error h
    exact block_eq_error h
  · right
    rcases bind_eq_error.mp h with h | ⟨pairs, -, h⟩
    · obtain ⟨u, -, hu⟩ := mapError_eq_error.mp h
      exact ⟨u, hu.symm⟩
    · simp [pure, Except.pure] at h

/-! ## Statements of one block -/

theorem place_of_mem_uniforms {slot : Nat} {b : UniformBlock} {a : Assignment}
    (h : a ∈ e.uniforms tag slot b) :
    ∃ index f, a.place = .stage tag (.block slot (.uniform index f)) := by
  unfold uniforms at h
  split at h
  · simp at h
  · split at h
    · simp only [List.mem_cons, List.not_mem_nil, or_false] at h
      rcases h with rfl | rfl | rfl <;> exact ⟨_, _, rfl⟩
    · obtain ⟨⟨u, index⟩, -, h⟩ := List.mem_flatMap.mp h
      simp only [List.mem_cons, List.not_mem_nil, or_false] at h
      rcases h with rfl | rfl | rfl <;> exact ⟨_, _, rfl⟩
  · simp at h

theorem place_of_mem_block {slot : Nat} {b : UniformBlock} {part : List Assignment}
    (h : e.block tag slot b = .ok part) {a : Assignment} (ha : a ∈ part) :
    ∃ f, a.place = .stage tag (.block slot f) := by
  obtain ⟨-, rfl⟩ := block_eq_ok.mp h
  rcases List.mem_append.mp ha with ha | ha
  · simp only [List.mem_cons, List.not_mem_nil, or_false] at ha
    rcases ha with rfl | rfl <;> exact ⟨_, rfl⟩
  · obtain ⟨index, f, hf⟩ := place_of_mem_uniforms ha
    exact ⟨_, hf⟩

theorem place_of_mem_pair {slot : Nat} {s : ImageSampler} {part : List Assignment}
    (h : e.pair tag r slot s = .ok part) {a : Assignment} (ha : a ∈ part) :
    ∃ f, a.place = .stage tag (.pair slot f) := by
  obtain ⟨image, sampler, -, -, rfl⟩ := pair_eq_ok.mp h
  rcases List.mem_append.mp ha with ha | ha
  · simp only [List.mem_cons, List.not_mem_nil, or_false] at ha
    rcases ha with rfl | rfl | rfl <;> exact ⟨_, rfl⟩
  · unfold pairName at ha
    split at ha
    · obtain rfl := List.mem_singleton.mp ha
      exact ⟨_, rfl⟩
    · simp at ha

theorem place_of_mem_code {a : Assignment} (h : a ∈ e.code tag p) :
    a.place = .stage tag .bytecodePtr ∨ a.place = .stage tag .bytecodeSize ∨
      a.place = .stage tag .source ∨ a.place = .stage tag .target := by
  unfold code at h
  split at h
  · simp only [List.mem_cons, List.not_mem_nil, or_false] at h
    rcases h with rfl | rfl <;> simp
  · rcases List.mem_cons.mp h with rfl | h
    · simp
    · obtain ⟨target, -, rfl⟩ := List.mem_map.mp h
      simp

/-- What a stage assigns inside a bound block is what that block assigns. -/
theorem mem_stage_block {as part : List Assignment} {slot : Nat} {b : UniformBlock} {f : BlockField}
    {v : Value} (h : e.stage tag r p = .ok as) (hb : (slot, b) ∈ r.occupied UniformBlock)
    (hpart : e.block tag slot b = .ok part) :
    ⟨.stage tag (.block slot f), v⟩ ∈ as ↔ ⟨.stage tag (.block slot f), v⟩ ∈ part := by
  obtain ⟨blocks, pairs, hblocks, hpairs, rfl⟩ := stage_eq_ok.mp h
  unfold stageBody
  simp only [List.mem_append, or_assoc]
  -- the other parts have other places, and the blocks of other slots have other slots in theirs
  constructor
  · rintro (h | h | h | h | h | h)
    · simpa using place_of_mem_code h
    · simp at h
    · obtain ⟨other, hother, h⟩ := List.mem_flatten.mp h
      obtain ⟨⟨slot', b'⟩, hb', hpart'⟩ := exists_of_forall₂_right hblocks hother
      obtain ⟨f', hf'⟩ := place_of_mem_block hpart' h
      obtain ⟨rfl, -⟩ : slot = slot' ∧ f = f' := by simpa using hf'
      obtain rfl := StageReflection.eq_of_mem_occupied hb hb'
      rw [hpart] at hpart'
      exact Except.ok.inj hpart' ▸ h
    · obtain ⟨si, -, h⟩ := List.mem_flatMap.mp h
      simp [image] at h
    · obtain ⟨ss, -, h⟩ := List.mem_flatMap.mp h
      simp [sampler] at h
    · obtain ⟨other, hother, h⟩ := List.mem_flatten.mp h
      obtain ⟨sp, -, hpart'⟩ := exists_of_forall₂_right hpairs hother
      obtain ⟨f', hf'⟩ := place_of_mem_pair hpart' h
      simp at hf'
  · intro h
    obtain ⟨part', hpart', hok⟩ := exists_of_forall₂_left hblocks hb
    rw [hpart] at hok
    obtain rfl := Except.ok.inj hok
    exact .inr (.inr (.inl (List.mem_flatten.mpr ⟨part, hpart', h⟩)))

/-! ## Statements of the code -/

/-- Where the code of a stage is assigned: two places for bytecode, and two for source. -/
def codePlaces : List StagePlace := [.bytecodePtr, .bytecodeSize, .source, .target]

/-- The statements of a stage behind its code, given those of its blocks and pairs. -/
def stageRest (tag : String) (r : StageReflection) (blocks pairs : List (List Assignment)) :
    List Assignment :=
  ⟨.stage tag .entry, .text r.entryPoint⟩
    :: (blocks.flatten ++ (r.occupied Image).flatMap (fun (slot, i) => image tag slot i)
      ++ (r.occupied Sampler).flatMap (fun (slot, s) => sampler tag slot s)
      ++ pairs.flatten)

theorem stageBody_eq (blocks pairs : List (List Assignment)) :
    e.stageBody tag r p blocks pairs = e.code tag p ++ stageRest tag r blocks pairs := by
  unfold stageBody stageRest
  simp only [List.append_assoc, List.cons_append, List.nil_append]

/-- Behind its code a stage assigns at other places. -/
theorem place_of_mem_stageRest {blocks pairs : List (List Assignment)}
    (hblocks : List.Forall₂ (fun sb part => e.block tag sb.1 sb.2 = .ok part)
      (r.occupied UniformBlock) blocks)
    (hpairs : List.Forall₂ (fun sp part => e.pair tag r sp.1 sp.2 = .ok part)
      (r.occupied ImageSampler) pairs) {a : Assignment} (ha : a ∈ stageRest tag r blocks pairs) :
    ∃ place, place ∉ codePlaces ∧ a.place = .stage tag place := by
  unfold stageRest at ha
  simp only [List.mem_cons, List.mem_append, or_assoc] at ha
  rcases ha with rfl | ha | ha | ha | ha
  · exact ⟨_, by decide, rfl⟩
  · obtain ⟨part, hpart, ha⟩ := List.mem_flatten.mp ha
    obtain ⟨sb, -, hok⟩ := exists_of_forall₂_right hblocks hpart
    obtain ⟨f, hf⟩ := place_of_mem_block hok ha
    exact ⟨_, by simp [codePlaces], hf⟩
  · obtain ⟨si, -, ha⟩ := List.mem_flatMap.mp ha
    simp only [image, List.mem_cons, List.not_mem_nil, or_false] at ha
    rcases ha with rfl | rfl | rfl | rfl <;> exact ⟨_, by simp [codePlaces], rfl⟩
  · obtain ⟨ss, -, ha⟩ := List.mem_flatMap.mp ha
    simp only [sampler, List.mem_cons, List.not_mem_nil, or_false] at ha
    rcases ha with rfl | rfl <;> exact ⟨_, by simp [codePlaces], rfl⟩
  · obtain ⟨part, hpart, ha⟩ := List.mem_flatten.mp ha
    obtain ⟨sp, -, hok⟩ := exists_of_forall₂_right hpairs hpart
    obtain ⟨f, hf⟩ := place_of_mem_pair hok ha
    exact ⟨_, by simp [codePlaces], hf⟩

/-- What a stage assigns is its code, or is inside it at another place. -/
theorem mem_code_or_place {as : List Assignment} (h : e.stage tag r p = .ok as) {a : Assignment}
    (ha : a ∈ as) :
    a ∈ e.code tag p ∨ ∃ place, place ∉ codePlaces ∧ a.place = .stage tag place := by
  obtain ⟨blocks, pairs, hblocks, hpairs, rfl⟩ := stage_eq_ok.mp h
  rw [stageBody_eq] at ha
  rcases List.mem_append.mp ha with ha | ha
  · exact .inl ha
  · exact .inr (place_of_mem_stageRest hblocks hpairs ha)

theorem place_of_mem_stage {as : List Assignment} (h : e.stage tag r p = .ok as) {a : Assignment}
    (ha : a ∈ as) : ∃ place, a.place = .stage tag place := by
  rcases mem_code_or_place h ha with ha | ⟨place, -, ha⟩
  · rcases place_of_mem_code ha with ha | ha | ha | ha <;> exact ⟨_, ha⟩
  · exact ⟨place, ha⟩

/-- What a stage assigns to the places of its code is what its payload gives. -/
theorem mem_stage_code {as : List Assignment} {place : StagePlace} {v : Value}
    (h : e.stage tag r p = .ok as) (hplace : place ∈ codePlaces) :
    ⟨.stage tag place, v⟩ ∈ as ↔ ⟨.stage tag place, v⟩ ∈ e.code tag p := by
  constructor
  · intro ha
    rcases mem_code_or_place h ha with ha | ⟨other, hother, hplaces⟩
    · exact ha
    · obtain ⟨-, rfl⟩ : tag = tag ∧ place = other := by simpa using hplaces
      exact absurd hplace hother
  · intro ha
    obtain ⟨blocks, pairs, -, -, rfl⟩ := stage_eq_ok.mp h
    unfold stageBody
    simp only [List.mem_append, or_assoc]
    exact .inl ha

theorem mem_code_bytecodePtr {v : Value} : ⟨.stage tag .bytecodePtr, v⟩ ∈ e.code tag p ↔
    p.isBytecode = true ∧ v = .address p.arrayName := by
  unfold code
  by_cases h : p.isBytecode = true
  · simp [h]
  · simp [h]

theorem mem_code_bytecodeSize {v : Value} : ⟨.stage tag .bytecodeSize, v⟩ ∈ e.code tag p ↔
    p.isBytecode = true ∧ v = .number p.data.length := by
  unfold code
  by_cases h : p.isBytecode = true
  · simp [h]
  · simp [h]

theorem mem_code_source {v : Value} : ⟨.stage tag .source, v⟩ ∈ e.code tag p ↔
    p.isBytecode = false ∧ v = .cstring p.arrayName := by
  unfold code
  by_cases h : p.isBytecode = true
  · simp [h]
  · simp [h]

/-! ## Arrays -/

theorem arrays_code : arrays (e.code tag p) = [p.arrayName] := by
  unfold code
  split
  · rfl
  · have h : arrays ((e.target? tag).toList.map fun target =>
        (⟨.stage tag .target, .text target⟩ : Assignment)) = [] := by
      refine arrays_eq_nil.mpr fun a ha => ?_
      obtain ⟨target, -, rfl⟩ := List.mem_map.mp ha
      rfl
    exact congrArg (p.arrayName :: ·) h

theorem arrays_uniforms (slot : Nat) (b : UniformBlock) : arrays (e.uniforms tag slot b) = [] := by
  unfold uniforms
  split
  · rfl
  · split
    · rfl
    · exact arrays_flatMap _ _ fun _ => rfl
  · rfl

theorem arrays_block {slot : Nat} {b : UniformBlock} {part : List Assignment}
    (h : e.block tag slot b = .ok part) : arrays part = [] := by
  obtain ⟨-, rfl⟩ := block_eq_ok.mp h
  rw [arrays_append, arrays_uniforms]
  rfl

theorem arrays_pair {slot : Nat} {s : ImageSampler} {part : List Assignment}
    (h : e.pair tag r slot s = .ok part) : arrays part = [] := by
  obtain ⟨image, sampler, -, -, rfl⟩ := pair_eq_ok.mp h
  rw [arrays_append]
  unfold pairName
  split <;> rfl

/-- Behind its code a stage refers to no array. -/
theorem arrays_stageRest {blocks pairs : List (List Assignment)}
    (hblocks : List.Forall₂ (fun sb part => e.block tag sb.1 sb.2 = .ok part)
      (r.occupied UniformBlock) blocks)
    (hpairs : List.Forall₂ (fun sp part => e.pair tag r sp.1 sp.2 = .ok part)
      (r.occupied ImageSampler) pairs) : arrays (stageRest tag r blocks pairs) = [] := by
  have hb : arrays blocks.flatten = [] := arrays_flatten fun part hpart => by
    obtain ⟨sb, -, h⟩ := exists_of_forall₂_right hblocks hpart
    exact arrays_block h
  have hp : arrays pairs.flatten = [] := arrays_flatten fun part hpart => by
    obtain ⟨sp, -, h⟩ := exists_of_forall₂_right hpairs hpart
    exact arrays_pair h
  have hi : arrays ((r.occupied Image).flatMap fun (slot, i) => image tag slot i) = [] :=
    arrays_flatMap _ _ fun _ => rfl
  have hs : arrays ((r.occupied Sampler).flatMap fun (slot, s) => sampler tag slot s) = [] :=
    arrays_flatMap _ _ fun _ => rfl
  unfold stageRest
  change arrays (blocks.flatten ++ _ ++ _ ++ pairs.flatten) = []
  simp only [arrays_append, hb, hp, hi, hs, List.append_nil]

/-- A stage refers to the array of its payload, and to no other. -/
theorem arrays_stage {as : List Assignment} (h : e.stage tag r p = .ok as) :
    arrays as = [p.arrayName] := by
  obtain ⟨blocks, pairs, hblocks, hpairs, rfl⟩ := stage_eq_ok.mp h
  rw [stageBody_eq, arrays_append, arrays_code, arrays_stageRest hblocks hpairs, List.append_nil]

end Emitter

end ShaderBindings
