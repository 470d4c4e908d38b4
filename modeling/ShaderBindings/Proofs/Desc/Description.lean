/-
  The description of a program, place by place. What stands at a place (`Emitter.value?`) is
  said here without statements: of all resources of a kind that are declared with a slot the
  first one counts (`StageReflection.firstAt?`), and its fields have their values in the cell of
  that slot, if there is such a cell.

  * `assigns_block`, `assigns_images`, `assigns_pairs` and the like, one for each part of a
    stage: the statements of the part assign what the description holds there.
  * `assigns_stage`, `assigns_program`: so do the statements of a stage and of a program.
  * `populated_iff`: the cells in which statements assign are those of the occupied slots.

  With `Proofs.Desc.Execution` the statements of a program, carried out on zeros, leave the
  description and nothing else (`DescribedBy`).
-/
import ShaderBindings.Proofs.Desc.Execution
import ShaderBindings.Proofs.Desc.Program

namespace ShaderBindings

open Desc Fallible

/-! ## What a description holds -/

/-- The first resource that is declared with a slot, if the slot is in bounds. -/
def StageReflection.firstAt? (α : Type) [Resource α] (r : StageReflection) (slot : Nat) :
    Option α :=
  if slot < (Resource.kind α).bound then
    (Resource.declared r : List α).find? (Resource.slot · = slot)
  else none

/-- Some resource is declared with a slot in bounds. -/
def StageReflection.Occupied (α : Type) [Resource α] (r : StageReflection) (slot : Nat) : Prop :=
  slot < (Resource.kind α).bound ∧ ∃ a ∈ (Resource.declared r : List α), Resource.slot a = slot

/-- GLSL binds an attribute by its name, HLSL by its semantics. -/
def Attr.value? (family : Family) (a : Attr) : AttrField → Option Value
  | .name => if family = .glsl then some (.text a.name) else none
  | .semName => if family = .hlsl then some (.text a.semName) else none
  | .semIndex => if family = .hlsl then some (.number a.semIndex) else none

def Uniform.value (instName : String) (u : Uniform) : UniformField → Value
  | .name => .text (instName ++ "." ++ u.name)
  | .type => .tag (UniformType.tag u.type)
  | .arrayCount => .number u.arrayCount

/-- The array of four-vectors that stands for a block. -/
def UniformBlock.flattenedValue (b : UniformBlock) (first : Uniform) : UniformField → Value
  | .name => .text b.structName
  | .type => .tag (UniformType.flattenedTag first.type)
  | .arrayCount => .number (Layout.roundUp b.size 16 / 16)

/-- A flattened block has one array, of the type of its first uniform; any other block has its
uniforms in order of declaration. -/
def UniformBlock.uniformValue? (b : UniformBlock) (index : Nat) (f : UniformField) :
    Option Value :=
  if b.flattened then
    if index = 0 then b.uniforms.head?.map (b.flattenedValue · f) else none
  else b.uniforms[index]?.map (·.value b.instName f)

/-- Uniforms are described in GLSL only. -/
def UniformBlock.value? (family : Family) (b : UniformBlock) : BlockField → Option Value
  | .size => some (.number (Layout.roundUp b.size 16))
  | .layout => some (.tag (.known ".STD140"))
  | .uniform index f => if family = .glsl then b.uniformValue? index f else none

def Image.value (i : Image) : ImageField → Value
  | .used => .flag true
  | .multisampled => .flag i.multisampled
  | .imageType => .tag (imageTag i.type)
  | .sampleType => .tag (imageSampleTag i.sampleType)

def Sampler.value (s : Sampler) : SamplerField → Value
  | .used => .flag true
  | .samplerType => .tag (samplerTag s.type)

/-- A pair refers to the slots that its image and sampler are declared with. -/
def ImageSampler.value? (family : Family) (r : StageReflection) (p : ImageSampler) :
    PairField → Option Value
  | .used => some (.flag true)
  | .imageSlot => (r.named? Image p.imageName).toOption.map fun i => .number i.slot
  | .samplerSlot => (r.named? Sampler p.samplerName).toOption.map fun s => .number s.slot
  | .glslName => if family = .glsl then some (.text p.name) else none

namespace Emitter

/-- What the description of a stage holds. -/
def stageValue? (e : Emitter) (tag : String) (r : StageReflection) (p : Payload) :
    StagePlace → Option Value
  | .bytecodePtr => if p.isBytecode then some (.address p.arrayName) else none
  | .bytecodeSize => if p.isBytecode then some (.number p.data.length) else none
  | .source => if p.isBytecode then none else some (.cstring p.arrayName)
  | .target => if p.isBytecode then none else (e.target? tag).map .text
  | .entry => some (.text r.entryPoint)
  | .block slot f => (r.firstAt? UniformBlock slot).bind (·.value? e.family f)
  | .image slot f => (r.firstAt? Image slot).bind fun i => some (i.value f)
  | .sampler slot f => (r.firstAt? Sampler slot).bind fun s => some (s.value f)
  | .pair slot f => (r.firstAt? ImageSampler slot).bind (·.value? e.family r f)

end Emitter

/-- The stage with a tag. -/
def ProgramStage.ofTag? (tag : String) : Option ProgramStage :=
  [vertex, fragment].find? (·.tag == tag)

namespace ProgramStage

theorem ofTag?_eq_some_iff {tag : String} {s : ProgramStage} :
    ofTag? tag = some s ↔ tag = s.tag := by
  constructor
  · intro h
    unfold ofTag? at h
    have hfound := List.find?_some h
    exact (beq_iff_eq.mp hfound).symm
  · rintro rfl
    cases s <;> rfl

theorem exists_iff {P : ProgramStage → Prop} : (∃ s, P s) ↔ P vertex ∨ P fragment :=
  ⟨fun ⟨s, hs⟩ => by cases s <;> simp [hs], fun h => h.elim (⟨_, ·⟩) (⟨_, ·⟩)⟩

/-- One thing for each of the two stages. -/
def both {α : Type} (atVertex atFragment : α) : ProgramStage → α
  | .vertex => atVertex
  | .fragment => atFragment

@[simp] theorem both_vertex {α : Type} (a b : α) : both a b .vertex = a := rfl

@[simp] theorem both_fragment {α : Type} (a b : α) : both a b .fragment = b := rfl

end ProgramStage

/-- What the description of a program holds, with the source and the payload of each stage. -/
def Emitter.value? (e : Emitter) (namePrefix : String) (p : Program)
    (source : ProgramStage → StageSource) (payload : ProgramStage → Payload) : Content
  | .attr slot f => ((source .vertex).reflection.firstAt? Attr slot).bind (·.value? e.family f)
  | .stage tag place =>
    (ProgramStage.ofTag? tag).bind fun s =>
      e.stageValue? tag (source s).reflection (payload s) place
  | .label => some (.text (namePrefix ++ p.name ++ "_shader"))

namespace StageReflection

variable {α : Type} [Resource α] {r : StageReflection}

theorem mem_occupied_iff_firstAt? {slot : Nat} {a : α} :
    (slot, a) ∈ r.occupied α ↔ r.firstAt? α slot = some a := by
  rw [mem_occupied]
  unfold firstAt? atSlot?
  rw [if_neg (by omega)]
  split
  · next h => simp [h, beq_eq_decide]
  · next h => simp [h]

theorem occupied_iff_firstAt? {slot : Nat} :
    r.Occupied α slot ↔ ∃ a, r.firstAt? α slot = some a := by
  unfold Occupied firstAt?
  split
  · next h =>
    rw [← Option.isSome_iff_exists, List.find?_isSome]
    simp [h]
  · next h => simp [h]

end StageReflection

/-! ## Statements for slots -/

namespace Desc

/-- The statements for the occupied slots of a kind, each in the cell of its slot, assign in the
cell of each slot the values of the first resource declared with it. -/
theorem Assigns.of_occupied {α F : Type} [Resource α] {r : StageReflection}
    (cell : Nat → F → Place) (hcell : ∀ s s' f f', cell s f = cell s' f' → s = s')
    {value? : α → F → Option Value} {parts : List (List Assignment)}
    (h : List.Forall₂ (fun sa part =>
      Assigns part fun p v => ∃ f, p = cell sa.1 f ∧ value? sa.2 f = some v) (r.occupied α) parts) :
    Assigns parts.flatten fun p v =>
      ∃ slot f, p = cell slot f ∧ (r.firstAt? α slot).bind (value? · f) = some v := by
  have hapart : (r.occupied α).Pairwise fun x y => ∀ p v w,
      (∃ f, p = cell x.1 f ∧ value? x.2 f = some v) →
        ¬ ∃ f, p = cell y.1 f ∧ value? y.2 f = some w := by
    refine (List.pairwise_map.mp (StageReflection.occupied_ascending α r)).imp ?_
    rintro x y hlt p v w ⟨f, rfl, -⟩ ⟨f', hp, -⟩
    exact absurd (hcell _ _ _ _ hp) (Nat.ne_of_lt hlt)
  refine (Assigns.flatten h hapart).congr fun p v => ?_
  constructor
  · rintro ⟨⟨slot, a⟩, ha, f, rfl, hv⟩
    refine ⟨slot, f, rfl, ?_⟩
    rw [StageReflection.mem_occupied_iff_firstAt?.mp ha, Option.bind_some, hv]
  · rintro ⟨slot, f, rfl, hv⟩
    obtain ⟨a, ha, hv⟩ := Option.bind_eq_some_iff.mp hv
    exact ⟨(slot, a), StageReflection.mem_occupied_iff_firstAt?.mpr ha, f, rfl, hv⟩

end Desc

namespace Emitter

variable {e : Emitter} {tag : String} {r : StageReflection} {payload : Payload}

theorem assigns_attr (slot : Nat) (a : Attr) : Assigns (e.attr slot a) fun p v =>
    ∃ f, p = .attr slot f ∧ a.value? e.family f = some v := by
  unfold Emitter.attr
  generalize e.family = family
  refine ⟨by cases family <;> simp, fun p v => ⟨fun h => ?_, ?_⟩⟩
  · cases family <;>
      simp only [List.mem_cons, List.not_mem_nil, or_false, Assignment.mk.injEq] at h
    · obtain ⟨rfl, rfl⟩ := h
      exact ⟨.name, rfl, rfl⟩
    · rcases h with ⟨rfl, rfl⟩ | ⟨rfl, rfl⟩
      · exact ⟨.semName, rfl, rfl⟩
      · exact ⟨.semIndex, rfl, rfl⟩
  · rintro ⟨f, rfl, hv⟩
    cases family <;> cases f <;> simp_all [Attr.value?]

theorem assigns_image (slot : Nat) (i : Image) : Assigns (image tag slot i) fun p v =>
    ∃ f, p = .stage tag (.image slot f) ∧ some (i.value f) = some v := by
  unfold image
  refine ⟨by simp, fun p v => ⟨fun h => ?_, ?_⟩⟩
  · simp only [List.mem_cons, List.not_mem_nil, or_false, Assignment.mk.injEq] at h
    rcases h with ⟨rfl, rfl⟩ | ⟨rfl, rfl⟩ | ⟨rfl, rfl⟩ | ⟨rfl, rfl⟩ <;> exact ⟨_, rfl, rfl⟩
  · rintro ⟨f, rfl, hv⟩
    obtain rfl := Option.some.inj hv
    cases f <;> simp [Image.value]

theorem assigns_sampler (slot : Nat) (s : Sampler) : Assigns (sampler tag slot s) fun p v =>
    ∃ f, p = .stage tag (.sampler slot f) ∧ some (s.value f) = some v := by
  unfold sampler
  refine ⟨by simp, fun p v => ⟨fun h => ?_, ?_⟩⟩
  · simp only [List.mem_cons, List.not_mem_nil, or_false, Assignment.mk.injEq] at h
    rcases h with ⟨rfl, rfl⟩ | ⟨rfl, rfl⟩ <;> exact ⟨_, rfl, rfl⟩
  · rintro ⟨f, rfl, hv⟩
    obtain rfl := Option.some.inj hv
    cases f <;> simp [Sampler.value]

theorem assigns_pair {slot : Nat} {i : ImageSampler} {part : List Assignment}
    (h : e.pair tag r slot i = .ok part) : Assigns part fun p v =>
      ∃ f, p = .stage tag (.pair slot f) ∧ i.value? e.family r f = some v := by
  obtain ⟨image, sampler, himage, hsampler, rfl⟩ := pair_eq_ok.mp h
  unfold pairName
  generalize e.family = family
  refine ⟨by cases family <;> simp, fun p v => ⟨fun h => ?_, ?_⟩⟩
  · rcases List.mem_append.mp h with h | h
    · simp only [List.mem_cons, List.not_mem_nil, or_false, Assignment.mk.injEq] at h
      rcases h with ⟨rfl, rfl⟩ | ⟨rfl, rfl⟩ | ⟨rfl, rfl⟩
      · exact ⟨.used, rfl, rfl⟩
      · exact ⟨.imageSlot, rfl, by rw [ImageSampler.value?, himage]; rfl⟩
      · exact ⟨.samplerSlot, rfl, by rw [ImageSampler.value?, hsampler]; rfl⟩
    · cases family <;>
        simp only [List.mem_cons, List.not_mem_nil, or_false, Assignment.mk.injEq] at h
      obtain ⟨rfl, rfl⟩ := h
      exact ⟨.glslName, rfl, rfl⟩
  · rintro ⟨f, rfl, hv⟩
    cases f with
    | used =>
      obtain rfl := Option.some.inj hv
      simp
    | imageSlot =>
      rw [ImageSampler.value?, himage] at hv
      obtain rfl := Option.some.inj hv
      simp
    | samplerSlot =>
      rw [ImageSampler.value?, hsampler] at hv
      obtain rfl := Option.some.inj hv
      simp
    | glslName =>
      rw [ImageSampler.value?] at hv
      split at hv
      · next hglsl =>
        subst hglsl
        obtain rfl := Option.some.inj hv
        simp
      · simp at hv

/-- The statements of one uniform of a block. -/
def uniformPart (tag : String) (slot index : Nat) (value : UniformField → Value) :
    List Assignment :=
  [⟨.stage tag (.block slot (.uniform index .name)), value .name⟩,
   ⟨.stage tag (.block slot (.uniform index .type)), value .type⟩,
   ⟨.stage tag (.block slot (.uniform index .arrayCount)), value .arrayCount⟩]

theorem assigns_uniformPart (slot index : Nat) (value : UniformField → Value) :
    Assigns (uniformPart tag slot index value) fun p v =>
      ∃ f, p = .stage tag (.block slot (.uniform index f)) ∧ value f = v := by
  unfold uniformPart
  refine ⟨by simp, fun p v => ⟨fun h => ?_, ?_⟩⟩
  · simp only [List.mem_cons, List.not_mem_nil, or_false, Assignment.mk.injEq] at h
    rcases h with ⟨rfl, rfl⟩ | ⟨rfl, rfl⟩ | ⟨rfl, rfl⟩ <;> exact ⟨_, rfl, rfl⟩
  · rintro ⟨f, rfl, rfl⟩
    cases f <;> simp

/-- The uniforms of a block in their order, one behind the other. -/
theorem assigns_uniformList (slot : Nat) (instName : String) (us : List Uniform) :
    Assigns (us.zipIdx.map fun ui => uniformPart tag slot ui.2 (ui.1.value instName)).flatten
      fun p v => ∃ index f, p = .stage tag (.block slot (.uniform index f)) ∧
        us[index]?.map (·.value instName f) = some v := by
  have hapart : us.zipIdx.Pairwise fun x y => ∀ p v w,
      (∃ f, p = Place.stage tag (.block slot (.uniform x.2 f)) ∧ x.1.value instName f = v) →
        ¬ ∃ f, p = .stage tag (.block slot (.uniform y.2 f)) ∧ y.1.value instName f = w := by
    have hascending : (us.zipIdx.map Prod.snd).Pairwise (· < ·) := by
      rw [List.zipIdx_map_snd]
      exact List.pairwise_lt_range'
    refine (List.pairwise_map.mp hascending).imp ?_
    rintro x y hlt p v w ⟨f, rfl, -⟩ ⟨f', hp, -⟩
    have hindex : x.2 = y.2 := by
      simp only [Place.stage.injEq, StagePlace.block.injEq, BlockField.uniform.injEq] at hp
      exact hp.2.2.1
    exact absurd hindex (Nat.ne_of_lt hlt)
  have hparts : List.Forall₂ (fun ui part => Assigns part fun p v =>
      ∃ f, p = .stage tag (.block slot (.uniform ui.2 f)) ∧ ui.1.value instName f = v) us.zipIdx
      (us.zipIdx.map fun ui => uniformPart tag slot ui.2 (ui.1.value instName)) :=
    List.forall₂_map_right_iff.mpr
      (List.forall₂_same.mpr fun ui _ => assigns_uniformPart slot ui.2 _)
  refine (Assigns.flatten hparts hapart).congr fun p v => ?_
  constructor
  · rintro ⟨⟨u, index⟩, hu, f, rfl, rfl⟩
    refine ⟨index, f, rfl, ?_⟩
    rw [List.mem_zipIdx_iff_getElem?.mp hu, Option.map_some]
  · rintro ⟨index, f, rfl, hv⟩
    obtain ⟨u, hu, rfl⟩ := Option.map_eq_some_iff.mp hv
    exact ⟨(u, index), List.mem_zipIdx_iff_getElem?.mpr hu, f, rfl, rfl⟩

/-- A flattened block is described as one uniform. -/
theorem uniforms_of_flattened {slot : Nat} {b : UniformBlock} (hglsl : e.family = .glsl)
    (hflat : b.flattened = true) : e.uniforms tag slot b =
      (b.uniforms.head?.map fun first =>
        uniformPart tag slot 0 (b.flattenedValue first)).getD [] := by
  unfold uniforms
  rw [hglsl, hflat]
  cases b.uniforms <;> rfl

theorem uniforms_of_not_flattened {slot : Nat} {b : UniformBlock} (hglsl : e.family = .glsl)
    (hflat : ¬ b.flattened = true) : e.uniforms tag slot b =
      (b.uniforms.zipIdx.map fun ui =>
        uniformPart tag slot ui.2 (ui.1.value b.instName)).flatten := by
  unfold uniforms
  rw [hglsl]
  cases b.uniforms with
  | nil => rfl
  | cons first rest =>
    simp only [if_neg hflat]
    rfl

theorem uniforms_of_ne_glsl {slot : Nat} {b : UniformBlock} (hglsl : e.family ≠ .glsl) :
    e.uniforms tag slot b = [] := by
  unfold uniforms
  split
  · rfl
  · next hfamily _ => exact absurd hfamily hglsl
  · rfl

theorem assigns_uniforms (slot : Nat) (b : UniformBlock) :
    Assigns (e.uniforms tag slot b) fun p v =>
    ∃ index f, p = .stage tag (.block slot (.uniform index f)) ∧
      b.value? e.family (.uniform index f) = some v := by
  by_cases hglsl : e.family = .glsl
  · simp only [UniformBlock.value?, UniformBlock.uniformValue?, if_pos hglsl]
    by_cases hflat : b.flattened = true
    · rw [uniforms_of_flattened hglsl hflat]
      simp only [if_pos hflat]
      cases b.uniforms.head? with
      | none => exact Assigns.nil.congr fun p v => by simp
      | some first =>
        refine (assigns_uniformPart slot 0 (b.flattenedValue first)).congr fun p v => ?_
        constructor
        · rintro ⟨f, rfl, rfl⟩
          exact ⟨0, f, rfl, by simp⟩
        · rintro ⟨index, f, rfl, hv⟩
          by_cases hindex : index = 0
          · subst hindex
            exact ⟨f, rfl, by simpa using hv⟩
          · simp [hindex] at hv
    · rw [uniforms_of_not_flattened hglsl hflat]
      simp only [if_neg hflat]
      exact assigns_uniformList slot b.instName b.uniforms
  · rw [uniforms_of_ne_glsl hglsl]
    simp only [UniformBlock.value?, if_neg hglsl]
    exact Assigns.nil.congr fun p v => by simp

theorem assigns_block {slot : Nat} {b : UniformBlock} {part : List Assignment}
    (h : e.block tag slot b = .ok part) : Assigns part fun p v =>
      ∃ f, p = .stage tag (.block slot f) ∧ b.value? e.family f = some v := by
  obtain ⟨-, rfl⟩ := block_eq_ok.mp h
  have hhead : Assigns [⟨.stage tag (.block slot .size), .number (Layout.roundUp b.size 16)⟩,
      ⟨.stage tag (.block slot .layout), .tag (.known ".STD140")⟩] fun p v =>
        ∃ f, (∀ index g, f ≠ .uniform index g) ∧ p = .stage tag (.block slot f) ∧
          b.value? e.family f = some v := by
    refine ⟨by simp, fun p v => ⟨fun h => ?_, ?_⟩⟩
    · simp only [List.mem_cons, List.not_mem_nil, or_false, Assignment.mk.injEq] at h
      rcases h with ⟨rfl, rfl⟩ | ⟨rfl, rfl⟩ <;> exact ⟨_, by simp, rfl, rfl⟩
    · rintro ⟨f, hf, rfl, hv⟩
      cases f with
      | size => obtain rfl := Option.some.inj hv; simp
      | layout => obtain rfl := Option.some.inj hv; simp
      | uniform index g => exact absurd rfl (hf index g)
  refine (hhead.append (assigns_uniforms slot b) ?_).congr fun p v => ?_
  · rintro p v w ⟨f, hf, rfl, -⟩ ⟨index, g, hp, -⟩
    simp only [Place.stage.injEq, StagePlace.block.injEq, true_and] at hp
    exact hf index g hp
  · constructor
    · rintro (⟨f, -, rfl, hv⟩ | ⟨index, g, rfl, hv⟩)
      · exact ⟨f, rfl, hv⟩
      · exact ⟨.uniform index g, rfl, hv⟩
    · rintro ⟨f, rfl, hv⟩
      cases f with
      | uniform index g => exact .inr ⟨index, g, rfl, hv⟩
      | size => exact .inl ⟨.size, by simp, rfl, hv⟩
      | layout => exact .inl ⟨.layout, by simp, rfl, hv⟩

end Emitter

/-! ## Stages -/

/-- The parts of the statements of a stage, in their order. -/
inductive Desc.StagePart
  | code
  | entry
  | blocks
  | images
  | samplers
  | pairs
deriving DecidableEq

/-- The part that assigns at a place. -/
def Desc.StagePlace.part : StagePlace → StagePart
  | .bytecodePtr | .bytecodeSize | .source | .target => .code
  | .entry => .entry
  | .block _ _ => .blocks
  | .image _ _ => .images
  | .sampler _ _ => .samplers
  | .pair _ _ => .pairs

namespace Emitter

variable {e : Emitter} {tag : String} {r : StageReflection} {payload : Payload}

/-- What one part of the statements of a stage assigns. -/
def PartValue (e : Emitter) (tag : String) (r : StageReflection) (payload : Payload)
    (part : StagePart) (p : Place) (v : Value) : Prop :=
  ∃ place, place.part = part ∧ p = .stage tag place ∧ e.stageValue? tag r payload place = some v

theorem assigns_code : Assigns (e.code tag payload) (e.PartValue tag r payload .code) := by
  unfold code
  by_cases hbytecode : payload.isBytecode = true
  · rw [if_pos hbytecode]
    refine ⟨by simp, fun p v => ⟨fun h => ?_, ?_⟩⟩
    · simp only [List.mem_cons, List.not_mem_nil, or_false, Assignment.mk.injEq] at h
      rcases h with ⟨rfl, rfl⟩ | ⟨rfl, rfl⟩ <;> exact ⟨_, rfl, rfl, if_pos hbytecode⟩
    · rintro ⟨place, hpart, rfl, hv⟩
      cases place <;> simp_all [StagePlace.part, stageValue?]
  · rw [if_neg hbytecode]
    refine ⟨by cases e.target? tag <;> simp, fun p v => ⟨fun h => ?_, ?_⟩⟩
    · rcases List.mem_cons.mp h with h | h
      · obtain ⟨rfl, rfl⟩ := Assignment.mk.injEq .. ▸ h
        exact ⟨_, rfl, rfl, if_neg hbytecode⟩
      · obtain ⟨target, htarget, h⟩ := List.mem_map.mp h
        obtain ⟨rfl, rfl⟩ := Assignment.mk.injEq .. ▸ h
        refine ⟨.target, rfl, rfl, ?_⟩
        rw [stageValue?, if_neg hbytecode, Option.mem_toList.mp htarget, Option.map_some]
    · rintro ⟨place, hpart, rfl, hv⟩
      cases place <;> simp_all [StagePlace.part, stageValue?]

theorem assigns_entry : Assigns [⟨.stage tag .entry, .text r.entryPoint⟩]
    (e.PartValue tag r payload .entry) := by
  refine ⟨by simp, fun p v => ⟨fun h => ?_, ?_⟩⟩
  · obtain ⟨rfl, rfl⟩ := Assignment.mk.injEq .. ▸ List.mem_singleton.mp h
    exact ⟨_, rfl, rfl, rfl⟩
  · rintro ⟨place, hpart, rfl, hv⟩
    cases place <;> simp_all [StagePlace.part, stageValue?]

/-- A part with one array: the cell of each slot holds the values of the first resource declared
with it. -/
theorem assigns_cells {α F : Type} [Resource α] {part : StagePart} (cell : Nat → F → StagePlace)
    (hcell : ∀ s s' f f', cell s f = cell s' f' → s = s')
    (hpart : ∀ place : StagePlace, place.part = part ↔ ∃ slot f, place = cell slot f)
    {value? : α → F → Option Value}
    (hvalue : ∀ slot f, e.stageValue? tag r payload (cell slot f) =
      (r.firstAt? α slot).bind (value? · f))
    {parts : List (List Assignment)}
    (h : List.Forall₂ (fun sa as => Assigns as fun p v =>
      ∃ f, p = .stage tag (cell sa.1 f) ∧ value? sa.2 f = some v) (r.occupied α) parts) :
    Assigns parts.flatten (e.PartValue tag r payload part) := by
  refine (Assigns.of_occupied (fun slot f => .stage tag (cell slot f))
    (fun s s' f f' hp => hcell s s' f f' (Place.stage.inj hp).2) h).congr fun p v => ?_
  constructor
  · rintro ⟨slot, f, rfl, hv⟩
    exact ⟨cell slot f, (hpart _).mpr ⟨slot, f, rfl⟩, rfl, (hvalue slot f).trans hv⟩
  · rintro ⟨place, hplace, rfl, hv⟩
    obtain ⟨slot, f, rfl⟩ := (hpart place).mp hplace
    exact ⟨slot, f, rfl, (hvalue slot f).symm.trans hv⟩

theorem assigns_blocks {parts : List (List Assignment)}
    (h : List.Forall₂ (fun sb part => e.block tag sb.1 sb.2 = .ok part)
      (r.occupied UniformBlock) parts) :
    Assigns parts.flatten (e.PartValue tag r payload .blocks) := by
  refine assigns_cells .block (by simp) (fun place => ?_) (fun _ _ => rfl)
    (h.imp fun _ _ => assigns_block)
  cases place <;> simp [StagePlace.part]

theorem assigns_images :
    Assigns ((r.occupied Image).flatMap fun (slot, i) => image tag slot i)
      (e.PartValue tag r payload .images) := by
  refine assigns_cells .image (by simp) (fun place => ?_) (fun _ _ => rfl)
    (List.forall₂_map_right_iff.mpr (List.forall₂_same.mpr fun si _ => assigns_image si.1 si.2))
  cases place <;> simp [StagePlace.part]

theorem assigns_samplers :
    Assigns ((r.occupied Sampler).flatMap fun (slot, s) => sampler tag slot s)
      (e.PartValue tag r payload .samplers) := by
  refine assigns_cells .sampler (by simp) (fun place => ?_) (fun _ _ => rfl)
    (List.forall₂_map_right_iff.mpr (List.forall₂_same.mpr fun ss _ => assigns_sampler ss.1 ss.2))
  cases place <;> simp [StagePlace.part]

theorem assigns_pairs {parts : List (List Assignment)}
    (h : List.Forall₂ (fun sp part => e.pair tag r sp.1 sp.2 = .ok part)
      (r.occupied ImageSampler) parts) :
    Assigns parts.flatten (e.PartValue tag r payload .pairs) := by
  refine assigns_cells .pair (by simp) (fun place => ?_) (fun _ _ => rfl)
    (h.imp fun _ _ => assigns_pair)
  cases place <;> simp [StagePlace.part]

/-- The statements of a stage assign what its description holds. -/
theorem assigns_stage {as : List Assignment} (h : e.stage tag r payload = .ok as) :
    Assigns as fun p v => ∃ place, p = .stage tag place ∧
      e.stageValue? tag r payload place = some v := by
  obtain ⟨blocks, pairs, hblocks, hpairs, rfl⟩ := stage_eq_ok.mp h
  have hparts : List.Forall₂ (fun part as => Assigns as (e.PartValue tag r payload part))
      [.code, .entry, .blocks, .images, .samplers, .pairs] _ :=
    .cons assigns_code (.cons assigns_entry (.cons (assigns_blocks hblocks) (.cons assigns_images
      (.cons assigns_samplers (.cons (assigns_pairs hpairs) .nil)))))
  have hapart : [StagePart.code, .entry, .blocks, .images, .samplers, .pairs].Pairwise
      fun part part' => ∀ p v w, e.PartValue tag r payload part p v →
        ¬ e.PartValue tag r payload part' p w := by
    have hdistinct : [StagePart.code, .entry, .blocks, .images, .samplers, .pairs].Nodup := by
      decide
    refine hdistinct.imp ?_
    rintro part part' hne p v w ⟨place, rfl, rfl, -⟩ ⟨place', rfl, hp, -⟩
    obtain ⟨-, rfl⟩ := Place.stage.injEq .. ▸ hp
    exact hne rfl
  have hbody := Assigns.flatten hparts hapart
  simp only [List.flatten_cons, List.flatten_nil, List.append_nil] at hbody
  unfold stageBody
  simp only [List.append_assoc]
  refine hbody.congr fun p v => ?_
  constructor
  · rintro ⟨part, -, place, -, hp, hv⟩
    exact ⟨place, hp, hv⟩
  · rintro ⟨place, hp, hv⟩
    exact ⟨place.part, by cases place <;> simp [StagePlace.part], place, rfl, hp, hv⟩

/-! ## Programs -/

theorem assigns_attrs : Assigns ((r.occupied Attr).flatMap fun (slot, a) => e.attr slot a)
    fun p v => ∃ slot f, p = .attr slot f ∧
      (r.firstAt? Attr slot).bind (·.value? e.family f) = some v :=
  Assigns.of_occupied .attr (by simp)
    (List.forall₂_map_right_iff.mpr (List.forall₂_same.mpr fun sa _ => assigns_attr sa.1 sa.2))

variable {namePrefix : String} {p : Program} {b : BackendOutput} {as : List Assignment}

theorem value?_stage {source : ProgramStage → StageSource} {payload : ProgramStage → Payload}
    (s : ProgramStage) (place : StagePlace) :
    e.value? namePrefix p source payload (.stage s.tag place) =
      e.stageValue? s.tag (source s).reflection (payload s) place := by
  rw [value?, ProgramStage.ofTag?_eq_some_iff.mpr rfl, Option.bind_some]

theorem value?_stage_eq_some_iff {source : ProgramStage → StageSource}
    {payload : ProgramStage → Payload} {place : StagePlace} {v : Value} :
    e.value? namePrefix p source payload (.stage tag place) = some v ↔ ∃ s : ProgramStage,
      tag = s.tag ∧ e.stageValue? s.tag (source s).reflection (payload s) place = some v := by
  rw [value?, Option.bind_eq_some_iff]
  simp only [ProgramStage.ofTag?_eq_some_iff]
  exact exists_congr fun s => and_congr_right fun htag => by rw [htag]

/-- The statements of a program assign what its description holds. -/
theorem assigns_program (h : e.program namePrefix p b = .ok as) :
    ∃ source payload, (∀ s, b.source? (p.snippet s) = some (source s) ∧
        Payload.ofSnippet namePrefix (p.snippet s) b = .ok (payload s)) ∧
      Assigns as fun place v => e.value? namePrefix p source payload place = some v := by
  obtain ⟨vs, fs, hvs, hfs⟩ := sources_of_program h
  obtain ⟨asV, asF, hV, hF, rfl⟩ := (program_eq_ok hvs hfs).mp h
  obtain ⟨vertex, hvertex, hV⟩ := programStage_eq_ok.mp hV
  obtain ⟨fragment, hfragment, hF⟩ := programStage_eq_ok.mp hF
  refine ⟨ProgramStage.both vs fs, ProgramStage.both vertex fragment, fun s => ?_, ?_⟩
  · cases s with
    | vertex => exact ⟨hvs, hvertex⟩
    | fragment => exact ⟨hfs, hfragment⟩
  · have hattrs := assigns_attrs (e := e) (r := vs.reflection)
    have hlabel : Assigns [⟨.label, .text (namePrefix ++ p.name ++ "_shader")⟩] fun place v =>
        place = .label ∧ .text (namePrefix ++ p.name ++ "_shader") = v :=
      ⟨by simp, fun place v => by simp [eq_comm]⟩
    -- the parts assign to different places
    have hfront := hattrs.append (assigns_stage hV) (by
      rintro place v w ⟨_, _, hp, _⟩ ⟨_, hp', _⟩
      simp [hp] at hp')
    have hstages := hfront.append (assigns_stage hF) (by
      rintro place v w (⟨_, _, hp, _⟩ | ⟨_, hp, _⟩) ⟨_, hp', _⟩ <;>
        simp [hp, ProgramStage.tag] at hp')
    have hall := hstages.append hlabel (by
      rintro place v w ((⟨_, _, hp, _⟩ | ⟨_, hp, _⟩) | ⟨_, hp, _⟩) ⟨hp', _⟩ <;> simp [hp] at hp')
    refine hall.congr fun place v => ?_
    cases place with
    | attr slot f => simp [value?]
    | stage tag place =>
      rw [value?_stage_eq_some_iff, ProgramStage.exists_iff]
      simp
    | label => simp [value?]

/-- A description has values only in bounds, and only in the two stages of the program. -/
theorem inBounds_and_staged_of_value? {source : ProgramStage → StageSource}
    {payload : ProgramStage → Payload} {place : Place} {v : Value}
    (h : e.value? namePrefix p source payload place = some v) : place.InBounds ∧ place.Staged := by
  cases place with
  | attr slot f =>
    obtain ⟨a, ha, -⟩ := Option.bind_eq_some_iff.mp h
    exact ⟨(StageReflection.occupied_iff_firstAt?.mpr ⟨a, ha⟩).1, trivial⟩
  | stage tag place =>
    obtain ⟨s, rfl, hv⟩ := value?_stage_eq_some_iff.mp h
    refine ⟨?_, s, rfl⟩
    cases place with
    | bytecodePtr | bytecodeSize | source | target | entry => trivial
    | block slot f | image slot f | sampler slot f | pair slot f =>
      obtain ⟨a, ha, -⟩ := Option.bind_eq_some_iff.mp hv
      exact (StageReflection.occupied_iff_firstAt?.mpr ⟨a, ha⟩).1
  | label => exact ⟨trivial, trivial⟩

/-- Statements assign in the cell of a slot when the first resource declared with the slot has a
value there. -/
theorem populated_iff {c : Content} (h : Assigns as fun place v => c place = some v) {α F : Type}
    [Resource α] {slot : Nat} (cell : F → Place) {value? : α → F → Option Value}
    (hcell : ∀ f, c (cell f) = (r.firstAt? α slot).bind (value? · f)) :
    (∃ f v, ⟨cell f, v⟩ ∈ as) ↔
      ∃ a, r.firstAt? α slot = some a ∧ ∃ f v, value? a f = some v := by
  simp only [h.mem, hcell, Option.bind_eq_some_iff]
  constructor
  · rintro ⟨f, v, a, ha, hv⟩
    exact ⟨a, ha, f, v, hv⟩
  · rintro ⟨a, ha, f, v, hv⟩
    exact ⟨f, v, a, ha, hv⟩

/-- A stage has statements in the cell of a slot just when the slot is occupied, if all resources of
the kind have a value for one field. -/
theorem populated_stage_iff {source : ProgramStage → StageSource} {payload : ProgramStage → Payload}
    (h : Assigns as fun place v => e.value? namePrefix p source payload place = some v)
    (s : ProgramStage) {α F : Type} [Resource α] {slot : Nat} (cell : F → StagePlace)
    {value? : α → F → Option Value}
    (hcell : ∀ f, e.stageValue? s.tag (source s).reflection (payload s) (cell f) =
      ((source s).reflection.firstAt? α slot).bind (value? · f))
    (f : F) (hvalue : ∀ a, ∃ v, value? a f = some v) :
    (∃ f v, ⟨.stage s.tag (cell f), v⟩ ∈ as) ↔ (source s).reflection.Occupied α slot := by
  rw [populated_iff h (fun f => .stage s.tag (cell f)) fun f => (value?_stage s _).trans
    (hcell f), StageReflection.occupied_iff_firstAt?]
  exact exists_congr fun a => and_iff_left ⟨f, hvalue a⟩

/-- Statements that describe a program, by the source and the payload of each of its stages. -/
structure DescribedBy (e : Emitter) (namePrefix : String) (p : Program)
    (source : ProgramStage → StageSource) (payload : ProgramStage → Payload)
    (as : List Assignment) : Prop where
  /-- No left-hand side stands twice, as it is written. -/
  once : ∀ indent : String, (as.map fun a => indent ++ a.place.text).Nodup
  bounded : ∀ a ∈ as, a.place.InBounds
  attrs : ∀ slot, (∃ f v, ⟨.attr slot f, v⟩ ∈ as) ↔
    (e.family = .glsl ∨ e.family = .hlsl) ∧ (source .vertex).reflection.Occupied Attr slot
  blocks : ∀ (s : ProgramStage) slot, (∃ f v, ⟨.stage s.tag (.block slot f), v⟩ ∈ as) ↔
    (source s).reflection.Occupied UniformBlock slot
  images : ∀ (s : ProgramStage) slot, (∃ f v, ⟨.stage s.tag (.image slot f), v⟩ ∈ as) ↔
    (source s).reflection.Occupied Image slot
  samplers : ∀ (s : ProgramStage) slot, (∃ f v, ⟨.stage s.tag (.sampler slot f), v⟩ ∈ as) ↔
    (source s).reflection.Occupied Sampler slot
  pairs : ∀ (s : ProgramStage) slot, (∃ f v, ⟨.stage s.tag (.pair slot f), v⟩ ∈ as) ↔
    (source s).reflection.Occupied ImageSampler slot
  /-- On zeros the statements leave the values of the description, and zero everywhere else. -/
  executed : Content.zeroed.execute as = some (e.value? namePrefix p source payload)

/-- The statements of a program, whatever its reflections hold, describe it: they assign nothing
twice and nothing out of bounds, in exactly the cells of the occupied slots, and leave there the
values of the first resources declared with those slots. -/
theorem program_describes (h : e.program namePrefix p b = .ok as) :
    ∃ source payload, (∀ s, b.source? (p.snippet s) = some (source s) ∧
        Payload.ofSnippet namePrefix (p.snippet s) b = .ok (payload s)) ∧
      e.DescribedBy namePrefix p source payload as := by
  obtain ⟨source, payload, hsources, has⟩ := assigns_program h
  have hbounds : ∀ a ∈ as, a.place.InBounds :=
    fun a ha => (inBounds_and_staged_of_value? (has.of_mem ha)).1
  have hstaged : ∀ a ∈ as, a.place.Staged :=
    fun a ha => (inBounds_and_staged_of_value? (has.of_mem ha)).2
  refine ⟨source, payload, hsources, ?_⟩
  constructor
  case once =>
    intro indent
    have htexts : (as.map fun a => indent ++ a.place.text) =
        (as.map fun a => a.place.text).map (indent ++ ·) := by rw [List.map_map]; rfl
    rw [htexts]
    exact (nodup_texts hstaged has.once).map fun s t hst => (String.append_right_inj indent).mp hst
  case bounded => exact hbounds
  case attrs =>
    intro slot
    rw [populated_iff has (.attr slot) fun _ => rfl, StageReflection.occupied_iff_firstAt?]
    have hattr (a : Attr) : (∃ f v, a.value? e.family f = some v) ↔
        e.family = .glsl ∨ e.family = .hlsl := by
      constructor
      · rintro ⟨f, v, hv⟩
        cases f <;> simp only [Attr.value?] at hv <;> split at hv <;> simp_all
      · rintro (hfamily | hfamily)
        · exact ⟨.name, _, if_pos hfamily⟩
        · exact ⟨.semName, _, if_pos hfamily⟩
    simp only [hattr]
    exact ⟨fun ⟨a, ha, hfamily⟩ => ⟨hfamily, a, ha⟩, fun ⟨hfamily, a, ha⟩ => ⟨a, ha, hfamily⟩⟩
  case blocks =>
    intro s slot
    exact populated_stage_iff has s (.block slot) (fun _ => rfl) .size fun _ => ⟨_, rfl⟩
  case images =>
    intro s slot
    exact populated_stage_iff has s (.image slot) (fun _ => rfl) .used fun _ => ⟨_, rfl⟩
  case samplers =>
    intro s slot
    exact populated_stage_iff has s (.sampler slot) (fun _ => rfl) .used fun _ => ⟨_, rfl⟩
  case pairs =>
    intro s slot
    exact populated_stage_iff has s (.pair slot) (fun _ => rfl) .used fun _ => ⟨_, rfl⟩
  case executed => exact has.execute_zeroed hbounds

/-! ## A program with crowded slots -/

def glsl330 : Slang := ⟨"glsl330", "glsl", ".GLCORE33", 0⟩

def openGl : Emitter := ⟨.glsl, glsl330, rfl⟩

def crowdedProgram : Program := ⟨"p", "v", "f", 1⟩

/-- Two attributes in one slot and one in none, a flattened block, an image behind the last slot,
and a pair that refers to it. -/
def crowdedOutput : BackendOutput where
  slang := openGl.slang
  sources := [
    ⟨"v", "v", {
      stage := "vs"
      inputs := [{ slot := 3, name := "pos" }, { slot := 3, name := "normal" },
                 { slot := -1, name := "unused" }]
      uniformBlocks := [{ slot := 1, size := 20, structName := "params", flattened := true
                          uniforms := [{ name := "tint", type := "float4", offset := 0 }] }] }⟩,
    ⟨"f", "f", {
      stage := "fs"
      images := [{ slot := 12, name := "tex" }]
      samplers := [{ slot := 0, name := "smp" }]
      imageSamplers := [⟨0, "tex_smp", "tex", "smp"⟩] }⟩]
  blobs := []

theorem crowded_describes : ∃ as content,
    openGl.program "" crowdedProgram crowdedOutput = .ok as ∧
      Content.zeroed.execute as = some content ∧
      content (.attr 3 .name) = some (.text "pos") ∧
      content (.stage "vs" (.block 1 .size)) = some (.number 32) ∧
      content (.stage "vs" (.block 1 (.uniform 0 .arrayCount))) = some (.number 2) ∧
      content (.stage "fs" (.image 12 .used)) = none ∧
      content (.stage "fs" (.pair 0 .imageSlot)) = some (.number 12) := by
  have hok : (openGl.program "" crowdedProgram crowdedOutput).toBool = true := by decide +kernel
  obtain ⟨as, has⟩ := exists_eq_ok_of_toBool hok
  obtain ⟨source, payload, hsources, hdescribes⟩ := program_describes has
  have hvertex : crowdedOutput.sources[0] = source .vertex := Option.some.inj (hsources .vertex).1
  have hfragment : crowdedOutput.sources[1] = source .fragment :=
    Option.some.inj (hsources .fragment).1
  refine ⟨as, _, has, hdescribes.executed, ?_, ?_, ?_, ?_, ?_⟩
  · rw [value?, ← hvertex]
    rfl
  · rw [← ProgramStage.tag, value?_stage, ← hvertex]
    rfl
  · rw [← ProgramStage.tag, value?_stage, ← hvertex]
    rfl
  · rw [← ProgramStage.tag, value?_stage, ← hfragment]
    rfl
  · rw [← ProgramStage.tag, value?_stage, ← hfragment]
    rfl

end Emitter

end ShaderBindings
