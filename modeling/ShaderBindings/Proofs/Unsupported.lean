/-
  Uses of type names in a reflection (`TypeUse`). Each sort of use has a table of the names that
  it knows; the tag of a use is invalid exactly when its name is not in the table
  (`tag_eq_invalid`), and those uses are the ones that are warned about (`ofReflection_eq`). A
  known name is never shown as an invalid tag (`text_tag_ne_invalid`).
-/
import ShaderBindings.Proofs.Desc.Program
import ShaderBindings.Proofs.Layout.Offsets
import ShaderBindings.Unsupported

namespace ShaderBindings

/-- A place in a reflection that names a type. -/
inductive TypeUse
  | uniform (block : UniformBlock) (u : Uniform)
  | image (i : Image)
  | sample (i : Image)
  | sampler (s : Sampler)
deriving DecidableEq, Repr

namespace TypeUse

def name : TypeUse → String
  | uniform _ u => u.type
  | image i => i.type
  | sample i => i.sampleType
  | sampler s => s.type

/-- The names that are known where the use stands. -/
def table : TypeUse → List String
  | uniform .. => UniformType.all.map UniformType.name
  | image _ => ["2d", "cube", "3d", "array"]
  | sample _ => ["float", "depth", "sint", "uint"]
  | sampler _ => ["sample", "compare"]

def tag : TypeUse → Tag
  | uniform _ u => UniformType.tag u.type
  | image i => imageTag i.type
  | sample i => imageSampleTag i.sampleType
  | sampler s => samplerTag s.type

/-- The use as one of an unknown name. -/
def problem : TypeUse → Unsupported
  | uniform b u => .uniform b.structName u.name u.type
  | image i => .imageType i.name i.type
  | sample i => .sampleType i.name i.sampleType
  | sampler s => .samplerType s.name s.type

/-- The warning about the use in the output for a language. -/
def warning (basePath : String) (slang : Slang) (u : TypeUse) : Diagnostic :=
  u.problem.diagnostic basePath slang

/-- All uses in a reflection: uniforms of blocks first, then images with what sampling them yields,
then samplers. -/
def all (r : StageReflection) : List TypeUse :=
  r.uniformBlocks.flatMap (fun b => b.uniforms.map (uniform b))
    ++ r.images.flatMap (fun i => [image i, sample i])
    ++ r.samplers.map sampler

/-- The uses of names that are not in their tables. -/
def unlisted (r : StageReflection) : List TypeUse := (all r).filter fun u => u.name ∉ u.table

/-! ## Tags -/

theorem ofOption_eq_invalid {name : Option String} :
    Tag.ofOption name = .invalid ↔ name = none := by
  cases name <;> simp [Tag.ofOption]

theorem ofName?_eq_none {name : String} :
    UniformType.ofName? name = none ↔ name ∉ UniformType.all.map UniformType.name := by
  unfold UniformType.ofName?
  rw [List.find?_eq_none, List.mem_map, not_exists]
  simp

theorem tag_eq_invalid {u : TypeUse} : u.tag = .invalid ↔ u.name ∉ u.table := by
  cases u with
  | uniform b u =>
    change UniformType.tag u.type = .invalid ↔ u.type ∉ UniformType.all.map UniformType.name
    unfold UniformType.tag
    rw [ofOption_eq_invalid, Option.map_eq_none_iff, ofName?_eq_none]
  | image i =>
    change imageTag i.type = .invalid ↔ i.type ∉ ["2d", "cube", "3d", "array"]
    unfold imageTag
    rw [ofOption_eq_invalid, List.lookup_eq_none_iff]
    simp
  | sample i =>
    change imageSampleTag i.sampleType = .invalid ↔
      i.sampleType ∉ ["float", "depth", "sint", "uint"]
    unfold imageSampleTag
    rw [ofOption_eq_invalid, List.lookup_eq_none_iff]
    simp
  | sampler s =>
    change samplerTag s.type = .invalid ↔ s.type ∉ ["sample", "compare"]
    unfold samplerTag
    rw [ofOption_eq_invalid, List.lookup_eq_none_iff]
    simp

/-- A known name is never shown as an invalid tag. -/
theorem text_tag_ne_invalid {u : TypeUse} (h : u.name ∈ u.table) :
    u.tag.text ≠ Tag.invalid.text := by
  cases u with
  | uniform b u =>
    have hall : ∀ name ∈ UniformType.all.map UniformType.name,
        (UniformType.tag name).text ≠ Tag.invalid.text := by decide
    exact hall _ h
  | image i =>
    have hall : ∀ name ∈ ["2d", "cube", "3d", "array"],
        (imageTag name).text ≠ Tag.invalid.text := by decide
    exact hall _ h
  | sample i =>
    have hall : ∀ name ∈ ["float", "depth", "sint", "uint"],
        (imageSampleTag name).text ≠ Tag.invalid.text := by decide
    exact hall _ h
  | sampler s =>
    have hall : ∀ name ∈ ["sample", "compare"],
        (samplerTag name).text ≠ Tag.invalid.text := by decide
    exact hall _ h

/-- The same holds of the tag of a flattened block. -/
theorem text_flattenedTag_ne_invalid {name : String}
    (h : name ∈ UniformType.all.map UniformType.name) :
    (UniformType.flattenedTag name).text ≠ Tag.invalid.text := by
  have hall : ∀ name ∈ UniformType.all.map UniformType.name,
      (UniformType.flattenedTag name).text ≠ Tag.invalid.text := by decide
  exact hall name h

/-! ## Warnings -/

/-- What is warned about are the uses of names that are not in their tables. -/
theorem ofReflection_eq (r : StageReflection) :
    Unsupported.ofReflection r = (unlisted r).map problem := by
  have hfilter : unlisted r = (all r).filter fun u => decide (u.tag = .invalid) := by
    unfold unlisted
    refine List.filter_congr fun u _ => ?_
    simp only [tag_eq_invalid]
  have hblock (b : UniformBlock) : Unsupported.ofBlock b =
      ((b.uniforms.map (uniform b)).filter fun u => decide (u.tag = .invalid)).map problem := by
    unfold Unsupported.ofBlock
    rw [List.filter_map, List.map_map]
    rfl
  have himage (i : Image) : Unsupported.ofImage i =
      ([image i, sample i].filter fun u => decide (u.tag = .invalid)).map problem := by
    unfold Unsupported.ofImage
    by_cases htype : imageTag i.type = .invalid <;>
      by_cases hsample : imageSampleTag i.sampleType = .invalid <;>
      simp [htype, hsample, tag, problem]
  have hsampler (s : Sampler) : Unsupported.ofSampler s =
      ([sampler s].filter fun u => decide (u.tag = .invalid)).map problem := by
    unfold Unsupported.ofSampler
    by_cases htype : samplerTag s.type = .invalid <;> simp [htype, tag, problem]
  rw [hfilter]
  unfold Unsupported.ofReflection all
  rw [List.map_eq_flatMap (f := sampler), List.filter_append, List.filter_append, List.map_append,
    List.map_append]
  simp only [List.filter_flatMap, List.map_flatMap, ← hblock, ← himage, ← hsampler]

end TypeUse

end ShaderBindings
