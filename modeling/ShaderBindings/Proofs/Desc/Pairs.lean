/-
  Whether the pairs of image and sampler in a description refer to slots that are used
  (`SlotUsed`). A pair refers to the first image and the first sampler of its names, whatever
  their slots; but only resources with slots in bounds are described. So a pair that resolves
  may refer to a slot that the description leaves unused, and does so just when that slot is out
  of bounds (`slotUsed_iff`). The checks of a program do not look at slots.
-/
import ShaderBindings.Proofs.Consistency
import ShaderBindings.Proofs.Desc.Description

namespace ShaderBindings

open Desc Fallible

namespace StageReflection

variable {α : Type} [Resource α] {r : StageReflection}

theorem mem_declared_of_named? {name : String} {a : α} (h : r.named? α name = .ok a) :
    a ∈ (Resource.declared r : List α) := by
  unfold named? at h
  split at h
  · next a' hfound => exact Except.ok.inj h ▸ List.mem_of_find?_eq_some hfound
  · simp at h

/-- The slot of a declared resource is occupied, if it is in bounds: if not by the resource itself,
by one that is declared before it. -/
theorem exists_occupied_iff {a : α} (ha : a ∈ (Resource.declared r : List α)) :
    (∃ slot : Nat, Resource.slot a = slot ∧ r.Occupied α slot) ↔
      0 ≤ Resource.slot a ∧ Resource.slot a < (Resource.kind α).bound := by
  constructor
  · rintro ⟨slot, hslot, hbound, -⟩
    omega
  · rintro ⟨hpos, hbound⟩
    refine ⟨(Resource.slot a).toNat, by omega, by omega, a, ha, by omega⟩

end StageReflection

namespace Emitter

variable {e : Emitter} {namePrefix : String} {p : Program} {b : BackendOutput}
  {as : List Assignment}

/-- The statements mark a slot of a stage as used. -/
def SlotUsed (as : List Assignment) (s : ProgramStage) (mark : Nat → StagePlace) (n : Int) : Prop :=
  ∃ slot : Nat, n = slot ∧ ⟨.stage s.tag (mark slot), .flag true⟩ ∈ as

/-- A field of a pair that holds the slot of the resource of a name refers to a used slot, if the
slot is in bounds. -/
theorem slotUsed_iff {source : ProgramStage → StageSource} {payload : ProgramStage → Payload}
    (has : Assigns as fun place v => e.value? namePrefix p source payload place = some v)
    {s : ProgramStage} {α : Type} [Resource α] (field mark : Nat → StagePlace)
    {name : ImageSampler → String}
    (hfield : ∀ slot, e.stageValue? s.tag (source s).reflection (payload s) (field slot) =
      ((source s).reflection.firstAt? ImageSampler slot).bind fun pair =>
        ((source s).reflection.named? α (name pair)).toOption.map (.number <| Resource.slot ·))
    (hmark : ∀ slot, e.stageValue? s.tag (source s).reflection (payload s) (mark slot) =
      ((source s).reflection.firstAt? α slot).bind fun _ => some (.flag true))
    {slot : Nat} {v : Value} (h : ⟨.stage s.tag (field slot), v⟩ ∈ as) :
    ∃ n, v = .number n ∧
      (SlotUsed as s mark n ↔ 0 ≤ n ∧ n < (Resource.kind α).bound) := by
  rw [has.mem, value?_stage, hfield] at h
  obtain ⟨pair, -, hvalue⟩ := Option.bind_eq_some_iff.mp h
  obtain ⟨a, ha, rfl⟩ := Option.map_eq_some_iff.mp hvalue
  have hnamed : (source s).reflection.named? α (name pair) = .ok a := by
    cases hlookup : (source s).reflection.named? α (name pair) with
    | error u => rw [hlookup] at ha; simp [Except.toOption] at ha
    | ok a' => rw [hlookup] at ha; exact congrArg Except.ok (Option.some.inj ha)
  have hused : SlotUsed as s mark (Resource.slot a) ↔ ∃ slot : Nat, Resource.slot a = slot ∧
      (source s).reflection.Occupied α slot := by
    refine exists_congr fun slot => and_congr_right fun _ => ?_
    rw [has.mem, value?_stage, hmark, StageReflection.occupied_iff_firstAt?]
    simp [Option.bind_eq_some_iff]
  exact ⟨Resource.slot a, rfl, hused.trans
    (StageReflection.exists_occupied_iff (StageReflection.mem_declared_of_named? hnamed))⟩

/-- In each stage of a program, the image slot that a pair refers to is used exactly when it is one
of the twelve that there are, and its sampler slot when it is one of the eight. -/
theorem pair_slots_used_iff (h : e.program namePrefix p b = .ok as) (s : ProgramStage)
    (slot : Nat) (v : Value) :
    (⟨.stage s.tag (.pair slot .imageSlot), v⟩ ∈ as → ∃ n, v = .number n ∧
      (SlotUsed as s (.image · .used) n ↔ 0 ≤ n ∧ n < 12)) ∧
    (⟨.stage s.tag (.pair slot .samplerSlot), v⟩ ∈ as → ∃ n, v = .number n ∧
      (SlotUsed as s (.sampler · .used) n ↔ 0 ≤ n ∧ n < 8)) := by
  obtain ⟨source, payload, -, has⟩ := assigns_program h
  constructor
  · exact slotUsed_iff has (.pair · .imageSlot) (.image · .used) (fun _ => rfl) fun _ => rfl
  · exact slotUsed_iff has (.pair · .samplerSlot) (.sampler · .used) (fun _ => rfl) fun _ => rfl

/-- The pair of the crowded program refers to an image behind the last slot, which is not used, and
to a sampler in the first one, which is. -/
theorem crowded_slots_used : ∃ as, openGl.program "" crowdedProgram crowdedOutput = .ok as ∧
    ⟨.stage "fs" (.pair 0 .imageSlot), .number 12⟩ ∈ as ∧
    ⟨.stage "fs" (.pair 0 .samplerSlot), .number 0⟩ ∈ as ∧
    ¬ SlotUsed as .fragment (.image · .used) 12 ∧ SlotUsed as .fragment (.sampler · .used) 0 := by
  obtain ⟨as, has, himage, hsampler⟩ := exists_eq_ok_of_any
    (P := fun as => ⟨.stage "fs" (.pair 0 .imageSlot), .number 12⟩ ∈ as ∧
      ⟨.stage "fs" (.pair 0 .samplerSlot), .number 0⟩ ∈ as)
    (x := openGl.program "" crowdedProgram crowdedOutput) (by decide +kernel)
  obtain ⟨n, hn, hused⟩ := (pair_slots_used_iff has .fragment 0 _).1 himage
  obtain ⟨m, hm, hused'⟩ := (pair_slots_used_iff has .fragment 0 _).2 hsampler
  obtain rfl := Value.number.inj hn
  obtain rfl := Value.number.inj hm
  exact ⟨as, has, himage, hsampler, fun h => absurd (hused.mp h) (by decide),
    hused'.mpr (by decide)⟩

/-- A shader file with the crowded program. -/
def crowdedInput : ShaderInput where
  basePath := "p.glsl"
  snippets := [⟨"v", "vs"⟩, ⟨"f", "fs"⟩]
  programs := [crowdedProgram]

/-- The checks accept the crowded program, although its pair refers to an image slot that no
statement marks as used. -/
theorem crowded_pair_dangles :
    checkConsistency crowdedInput openGl.slang (some crowdedOutput) = .ok () ∧
      ∃ as, openGl.program crowdedInput.namePrefix crowdedProgram crowdedOutput = .ok as ∧
        ⟨.stage "fs" (.pair 0 .imageSlot), .number 12⟩ ∈ as ∧
        ∀ slot : Nat, (12 : Int) = slot → ⟨.stage "fs" (.image slot .used), .flag true⟩ ∉ as := by
  have hchecked : checkConsistency crowdedInput openGl.slang (some crowdedOutput) = .ok () := by
    decide +kernel
  obtain ⟨as, has, himage, hunused⟩ := exists_eq_ok_of_any
    (P := fun as => ⟨.stage "fs" (.pair 0 .imageSlot), .number 12⟩ ∈ as ∧
      ⟨.stage "fs" (.image 12 .used), .flag true⟩ ∉ as)
    (x := openGl.program crowdedInput.namePrefix crowdedProgram crowdedOutput) (by decide +kernel)
  refine ⟨hchecked, as, has, himage, ?_⟩
  intro slot hslot
  obtain rfl : slot = 12 := by omega
  exact hunused

end Emitter

end ShaderBindings
