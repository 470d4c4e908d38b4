/-
  The record of a uniform block, byte by byte, and its size against the one that the description
  of a stage states. Two computations meet here: the walk over the uniforms
  (`BlockLayout.Follows`), and the size that the block is told to have, rounded up
  (`mem_stage_size`, `mem_stage_arrayCount`). That the types written in the record take as many
  bytes is in `Proofs.Layout.TypeText`.
-/
import ShaderBindings.Proofs.Desc.Stage
import ShaderBindings.Proofs.Layout.Offsets

namespace ShaderBindings

open Layout

/-- A layout that follows the uniforms of a block. -/
structure BlockLayout.Follows (l : BlockLayout) (hosts : HostTypes) (b : UniformBlock) : Prop where
  /-- One field for each uniform, in order of declaration. -/
  fields : l.fields = b.uniforms.map fun u => ⟨u, OdinType.ofUniform hosts u⟩
  /-- A field starts at the sum of the sizes in front of it. -/
  start : ∀ before f after, l.segments = before ++ .field f :: after →
    l.starts[(before.filterMap Segment.field?).length]? = some (before.map Segment.size).sum
  /-- That is the offset of its uniform or the end of the field in front of it, whichever is
  greater; the first field has zero in front of it. -/
  starts : l.starts =
    List.zipWith (fun u before => max u.offset before) b.uniforms (0 :: l.ends)
  padding_pos : ∀ n ∈ l.paddings, 0 < n
  padding_alone : l.segments.IsChain fun s t => s.padding? = none ∨ t.padding? = none
  trailing : ∀ n, l.segments.getLast? = some (.padding n) → n < 16
  sum : (l.segments.map Segment.size).sum = l.size
  aligned : 16 ∣ l.size
  least : l.lastEnd ≤ l.size ∧ l.size < l.lastEnd + 16

namespace BlockLayout

theorem follows_ofBlock (hosts : HostTypes) (b : UniformBlock) :
    (ofBlock hosts b).Follows hosts b where
  fields := fields_ofBlock hosts b
  start before f after h := by
    have hstart := startsFrom_append_field 0 before after f
    rw [Int.zero_add] at hstart
    rw [BlockLayout.starts, h]
    exact hstart
  starts := starts_ofBlock hosts b
  padding_pos := paddings_segmentsFrom_pos 0 b.uniforms
  padding_alone := segmentsFrom_isChain 0 b.uniforms
  trailing n h := getLast?_segmentsFrom_lt h
  sum := sum_ofBlock hosts b
  aligned := by
    rw [size_ofBlock]
    exact dvd_roundUp_sixteen _
  least := by
    rw [size_ofBlock]
    exact ⟨le_roundUp_sixteen _, roundUp_sixteen_lt _⟩

end BlockLayout

/-! ## The stated size -/

namespace Emitter

open Desc

variable {e : Emitter} {tag : String} {r : StageReflection} {p : Payload} {as : List Assignment}
  {slot : Nat} {b : UniformBlock}

/-- The size that a stage states for a bound block is the size of the block, rounded up. -/
theorem mem_stage_size (h : e.stage tag r p = .ok as) (hb : (slot, b) ∈ r.occupied UniformBlock)
    (v : Value) :
    ⟨.stage tag (.block slot .size), v⟩ ∈ as ↔ v = .number (roundUp b.size 16) := by
  obtain ⟨part, hpart⟩ : ∃ part, e.block tag slot b = .ok part :=
    exists_block_eq_ok.mpr (((exists_stage_eq_ok e tag r p).mp ⟨as, h⟩).1 _ hb)
  rw [mem_stage_block h hb hpart]
  obtain ⟨-, rfl⟩ := block_eq_ok.mp hpart
  constructor
  · intro hv
    rcases List.mem_append.mp hv with hv | hv
    · simpa using hv
    · obtain ⟨index, f, hf⟩ := place_of_mem_uniforms hv
      simp at hf
  · rintro rfl
    simp

/-- A flattened block is stated as an array of four-vectors. -/
theorem mem_stage_arrayCount (h : e.stage tag r p = .ok as)
    (hb : (slot, b) ∈ r.occupied UniformBlock) (hglsl : e.family = .glsl)
    (hflat : b.flattened = true) (hne : b.uniforms ≠ []) (v : Value) :
    ⟨.stage tag (.block slot (.uniform 0 .arrayCount)), v⟩ ∈ as ↔
      v = .number (roundUp b.size 16 / 16) := by
  obtain ⟨part, hpart⟩ : ∃ part, e.block tag slot b = .ok part :=
    exists_block_eq_ok.mpr (((exists_stage_eq_ok e tag r p).mp ⟨as, h⟩).1 _ hb)
  rw [mem_stage_block h hb hpart]
  obtain ⟨-, rfl⟩ := block_eq_ok.mp hpart
  obtain ⟨first, rest, hus⟩ := List.exists_cons_of_ne_nil hne
  simp [uniforms, hglsl, hus, hflat]

end Emitter

namespace BlockLayout

open Desc

/-- The record of a block follows its uniforms; its fields are at their offsets exactly when the
uniforms lie in order; and then, if the block is told a size between the end of its last uniform
and that end rounded up, every description of a stage that binds it states the record's size, a
flattened block as many four-vectors as the record holds. -/
theorem ofBlock_exact (hosts : HostTypes) (b : UniformBlock) :
    (ofBlock hosts b).Follows hosts b ∧
    ((ofBlock hosts b).starts = b.uniforms.map Uniform.offset ↔ b.InOrder) ∧
    ∀ last, b.InOrder → b.uniforms.getLast? = some last →
      last.offset + last.size ≤ b.size → b.size ≤ roundUp (last.offset + last.size) 16 →
      ∀ (e : Emitter) (tag : String) (slot : Nat),
        ((∃ part, e.block tag slot b = .ok part) ↔
          Text.hasNumeral (ofBlock hosts b).size = true) ∧
        ∀ (r : StageReflection) (p : Payload) (as : List Assignment),
          e.stage tag r p = .ok as → (slot, b) ∈ r.occupied UniformBlock →
          (∀ v, ⟨.stage tag (.block slot .size), v⟩ ∈ as ↔
            v = .number (ofBlock hosts b).size) ∧
          (e.family = .glsl → b.flattened = true → ∃ n, (ofBlock hosts b).size = 16 * n ∧
            ∀ v, ⟨.stage tag (.block slot (.uniform 0 .arrayCount)), v⟩ ∈ as ↔ v = .number n) := by
  refine ⟨follows_ofBlock hosts b, starts_ofBlock_eq_offsets_iff hosts b, ?_⟩
  intro last hin hlast hle hge e tag slot
  have hsize : roundUp b.size 16 = (ofBlock hosts b).size := roundUp_size_eq hin hlast hle hge
  rw [Emitter.exists_block_eq_ok, hsize]
  refine ⟨Iff.rfl, fun r p as h hb => ⟨fun v => ?_, fun hglsl hflat => ?_⟩⟩
  · rw [Emitter.mem_stage_size h hb, hsize]
  · have hne : b.uniforms ≠ [] := fun hnil => by simp [hnil] at hlast
    refine ⟨(ofBlock hosts b).size / 16, ?_, fun v => ?_⟩
    · have := (follows_ofBlock hosts b).aligned
      omega
    · rw [Emitter.mem_stage_arrayCount h hb hglsl hflat hne, hsize]

/-- A flattened block of three uniforms with a gap in front of the last one. -/
def gapped : UniformBlock where
  slot := 1
  size := 84
  structName := "Params"
  uniforms := [⟨"mvp", "mat4", 0, 1⟩, ⟨"tint", "vec3", 64, 1⟩, ⟨"fade", "float", 80, 1⟩]
  flattened := true

/-- The stage that binds it, in GLSL. -/
def gappedStage : Except DescFault (List Assignment) :=
  Emitter.stage ⟨.glsl, ⟨"glsl330", "glsl", ".GLCORE33", 0⟩, rfl⟩ "vs"
    { stage := "vs", uniformBlocks := [gapped] } ⟨"shader", [], false⟩

theorem gapped_inOrder : gapped.InOrder where
  first := by decide
  later := by
    simp only [gapped, List.isChain_cons_cons, List.isChain_singleton]
    decide

/-- The description states the 96 bytes of the record, as six four-vectors. -/
theorem gapped_stated : ∃ as, gappedStage = .ok as ∧
    ⟨.stage "vs" (.block 1 .size), .number 96⟩ ∈ as ∧
    ⟨.stage "vs" (.block 1 (.uniform 0 .arrayCount)), .number 6⟩ ∈ as := by
  have hsize : (ofBlock [] gapped).size = 96 := by decide
  obtain ⟨-, hstage⟩ := (ofBlock_exact [] gapped).2.2 _ gapped_inOrder rfl (by decide) (by decide)
    ⟨.glsl, ⟨"glsl330", "glsl", ".GLCORE33", 0⟩, rfl⟩ "vs" 1
  obtain ⟨as, has⟩ : ∃ as, gappedStage = .ok as := ⟨_, rfl⟩
  obtain ⟨hstated, hflat⟩ := hstage _ _ as has (by decide)
  obtain ⟨n, hn, hcount⟩ := hflat rfl rfl
  rw [hsize] at hstated hn
  obtain rfl : n = 6 := by omega
  exact ⟨as, has, (hstated _).mpr rfl, (hcount _).mpr rfl⟩

end BlockLayout

end ShaderBindings
