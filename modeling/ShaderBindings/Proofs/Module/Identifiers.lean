/-
  The identifiers that the constants and records of a module declare (`Module.identifiers`).
  Each kind of resource is declared once for each name (`nodup_slotNames`), but nothing compares
  the names of different kinds, and nothing compares names as they are spelled: the name of a
  shader and of an attribute joined by an underscore (`joinedAttr`), and the name of a block
  with each word capitalized. The identifiers differ exactly when these do
  (`BackendOutput.Unambiguous`, `nodup_identifiers_iff`). The names of arrays and procedures are
  in `Proofs.Module.Payloads`.
-/
import ShaderBindings.Proofs.Identifier
import ShaderBindings.Proofs.Module.Overview

namespace ShaderBindings

open Fallible

/-- Within a stage no two attributes, blocks, images and samplers have one name. -/
def StageReflection.NamesApart (r : StageReflection) : Prop :=
  (r.inputs.map Attr.name ++ r.uniformBlocks.map UniformBlock.structName
    ++ r.images.map Image.name ++ r.samplers.map Sampler.name).Nodup

instance (r : StageReflection) : Decidable r.NamesApart :=
  inferInstanceAs (Decidable (List.Nodup _))

/-! ## Attributes -/

/-- The attributes that are bound in a shader, each as the name of the shader and its own. -/
def boundAttrs (b : BackendOutput) (s : Snippet) : List (String × String) :=
  match b.source? s.name with
  | none => []
  | some source => (source.reflection.occupied Attr).map fun sa => (s.name, sa.2.name)

/-- The attributes that are bound in what is declared as a vertex shader. -/
def vertexAttrs (inp : ShaderInput) (b : BackendOutput) : List (String × String) :=
  (inp.shaders.filter (·.stage == ProgramStage.vertex.tag)).flatMap (boundAttrs b)

/-- The name of a shader and of its attribute, as they are joined. -/
def joinedAttr (x : String × String) : String := x.1 ++ "_" ++ x.2

section

variable {inp : ShaderInput} {b : BackendOutput}

theorem attrConstants_names {constants : List Constant} (h : attrConstants inp b = .ok constants) :
    constants.map Constant.name =
      (vertexAttrs inp b).map fun x => "ATTR_" ++ inp.namePrefix ++ joinedAttr x := by
  unfold attrConstants at h
  obtain ⟨parts, hparts, h⟩ := bind_eq_ok.mp h
  obtain rfl := pure_eq_ok.mp h
  unfold vertexAttrs
  rw [List.map_flatten, List.map_flatMap, List.flatMap_def]
  refine congrArg List.flatten (map_eq_map_of_forall₂ (mapM_eq_ok.mp hparts) ?_).symm
  intro s part hpart
  unfold boundAttrs
  cases hsource : b.source? s.name with
  | none => simp [hsource] at hpart
  | some source =>
    rw [hsource] at hpart
    obtain rfl := Except.ok.inj hpart
    simp only [List.map_map]
    refine List.map_congr_left fun sa _ => ?_
    simp only [Function.comp_apply, Attr.constant, joinedAttr, String.append_assoc]

theorem fst_of_mem_boundAttrs {s : Snippet} {x : String × String} (h : x ∈ boundAttrs b s) :
    x.1 = s.name := by
  unfold boundAttrs at h
  cases hsource : b.source? s.name with
  | none => simp [hsource] at h
  | some source =>
    rw [hsource] at h
    obtain ⟨sa, -, rfl⟩ := List.mem_map.mp h
    rfl

/-- Bound attributes have different names if declared ones do. -/
theorem nodup_occupied_names {r : StageReflection} (h : r.NamesApart) :
    ((r.occupied Attr).map fun sa => sa.2.name).Nodup := by
  have hnames : (r.inputs.map Attr.name).Nodup := by
    unfold StageReflection.NamesApart at h
    simp only [List.append_assoc] at h
    exact (List.nodup_append.mp h).1
  have hslots : ((r.occupied Attr).map Prod.fst).Nodup :=
    (r.occupied_ascending Attr).imp fun hlt => Nat.ne_of_lt hlt
  refine (List.nodup_map_iff_inj_on (List.Nodup.of_map _ hslots)).mpr ?_
  rintro ⟨slot, a⟩ ha ⟨slot', a'⟩ ha' hname
  obtain rfl : a = a' := List.inj_on_of_nodup_map hnames
    (StageReflection.mem_declared_of_mem_occupied ha)
    (StageReflection.mem_declared_of_mem_occupied ha') hname
  have hslot := StageReflection.slot_of_mem_occupied ha
  rw [StageReflection.slot_of_mem_occupied ha', Int.natCast_inj] at hslot
  rw [hslot]

theorem nodup_boundAttrs {s : Snippet}
    (hnames : ∀ source ∈ b.sources, source.reflection.NamesApart) :
    (boundAttrs b s).Nodup := by
  unfold boundAttrs
  cases hsource : b.source? s.name with
  | none => exact List.nodup_nil
  | some source =>
    have hapart := nodup_occupied_names (hnames source (List.mem_of_find?_eq_some hsource))
    refine List.Nodup.of_map Prod.snd ?_
    rw [List.map_map]
    exact hapart

/-- No attribute is listed twice: those of different shaders differ in the name of the shader. -/
theorem nodup_vertexAttrs (hsnippets : (inp.snippets.map Snippet.name).Nodup)
    (hnames : ∀ source ∈ b.sources, source.reflection.NamesApart) :
    (vertexAttrs inp b).Nodup := by
  have hsub : List.Sublist (inp.shaders.filter (·.stage == ProgramStage.vertex.tag))
      inp.snippets := List.filter_sublist.trans List.filter_sublist
  have hshaders := hsnippets.sublist (hsub.map Snippet.name)
  unfold vertexAttrs
  rw [List.nodup_flatMap]
  refine ⟨fun s _ => nodup_boundAttrs hnames, ?_⟩
  refine (List.pairwise_map.mp hshaders).imp fun {s s'} hne x hx hx' => hne ?_
  rw [← fst_of_mem_boundAttrs hx, fst_of_mem_boundAttrs hx']

end

/-! ## Slots and records -/

/-- The names of the constants of slots for one kind of resource. -/
def slotNames (α : Type) [Resource α] (inp : ShaderInput) (b : BackendOutput) : List String :=
  (sharedResources α inp b).map fun a => "SLOT_" ++ inp.namePrefix ++ Resource.name a

/-- The names of records. -/
def recordNames (inp : ShaderInput) (b : BackendOutput) : List String :=
  (sharedResources UniformBlock inp b).map (UniformBlock.recordName inp.namePrefix)

/-- No resource of one kind has the name of one of another kind. -/
def NoCommonName (α β : Type) [Resource α] [Resource β] (inp : ShaderInput) (b : BackendOutput) :
    Prop :=
  ∀ a ∈ declaredIn α inp b, ∀ c ∈ declaredIn β inp b, Resource.name a ≠ Resource.name c

instance (α β : Type) [Resource α] [Resource β] (inp : ShaderInput) (b : BackendOutput) :
    Decidable (NoCommonName α β inp b) :=
  inferInstanceAs (Decidable (∀ a ∈ declaredIn α inp b, ∀ c ∈ declaredIn β inp b,
    Resource.name a ≠ Resource.name c))

section

variable {α β : Type} [Resource α] [Resource β] {inp : ShaderInput} {b : BackendOutput}

theorem nodup_slotNames : (slotNames α inp b).Nodup := by
  unfold slotNames
  have hshared : ((sharedResources α inp b).map Resource.name).Nodup := nodup_sharedResources
  refine (List.nodup_map_iff_inj_on (List.Nodup.of_map _ hshared)).mpr fun a ha c hc h => ?_
  rw [String.append_right_inj] at h
  exact List.inj_on_of_nodup_map hshared ha hc h

/-- The constants of two kinds differ exactly when the names of the resources do. -/
theorem slotNames_disjoint_iff :
    (∀ x ∈ slotNames α inp b, ∀ y ∈ slotNames β inp b, x ≠ y) ↔ NoCommonName α β inp b := by
  constructor
  · intro h a ha c hc hname
    obtain ⟨a', ha', hnameA⟩ := exists_mem_sharedResources.mpr ⟨a, ha, rfl⟩
    obtain ⟨c', hc', hnameC⟩ := exists_mem_sharedResources.mpr ⟨c, hc, rfl⟩
    refine h _ (List.mem_map_of_mem ha') _ (List.mem_map_of_mem hc') ?_
    rw [hnameA, hnameC, hname]
  · intro h x hx y hy hxy
    obtain ⟨a, ha, rfl⟩ := List.mem_map.mp hx
    obtain ⟨c, hc, rfl⟩ := List.mem_map.mp hy
    rw [String.append_right_inj] at hxy
    exact h a (mem_declaredIn_of_mem_sharedResources ha) c
      (mem_declaredIn_of_mem_sharedResources hc) hxy

/-- Records differ exactly when blocks of different names have them spelled differently. -/
theorem nodup_recordNames_iff : (recordNames inp b).Nodup ↔
    ∀ u ∈ declaredIn UniformBlock inp b, ∀ v ∈ declaredIn UniformBlock inp b,
      u.recordName inp.namePrefix = v.recordName inp.namePrefix → u.structName = v.structName := by
  have hshared : ((sharedResources UniformBlock inp b).map Resource.name).Nodup :=
    nodup_sharedResources
  have hrecord : ∀ {u v : UniformBlock}, u.structName = v.structName →
      u.recordName inp.namePrefix = v.recordName inp.namePrefix := by
    intro u v h
    unfold UniformBlock.recordName
    rw [h]
  unfold recordNames
  rw [List.nodup_map_iff_inj_on (List.Nodup.of_map _ hshared)]
  constructor
  · intro h u hu v hv huv
    obtain ⟨u', hu', hnameU⟩ := exists_mem_sharedResources.mpr ⟨u, hu, rfl⟩
    obtain ⟨v', hv', hnameV⟩ := exists_mem_sharedResources.mpr ⟨v, hv, rfl⟩
    have hsame : u'.recordName inp.namePrefix = v'.recordName inp.namePrefix := by
      rw [hrecord hnameU, hrecord hnameV, huv]
    have hshared : u'.structName = v'.structName :=
      congrArg UniformBlock.structName (h u' hu' v' hv' hsame)
    exact hnameU.symm.trans (hshared.trans hnameV)
  · intro h u hu v hv huv
    have hname := h u (mem_declaredIn_of_mem_sharedResources hu) v
      (mem_declaredIn_of_mem_sharedResources hv) huv
    exact List.inj_on_of_nodup_map hshared hu hv hname

end

/-! ## Identifiers of a module -/

/-- No two identifiers that are made from the output for a language are spelled alike. -/
structure BackendOutput.Unambiguous (inp : ShaderInput) (b : BackendOutput) : Prop where
  attrs : ∀ x ∈ vertexAttrs inp b, ∀ y ∈ vertexAttrs inp b, joinedAttr x = joinedAttr y → x = y
  imagesSamplers : NoCommonName Image Sampler inp b
  imagesBlocks : NoCommonName Image UniformBlock inp b
  samplersBlocks : NoCommonName Sampler UniformBlock inp b
  records : ∀ u ∈ declaredIn UniformBlock inp b, ∀ v ∈ declaredIn UniformBlock inp b,
    u.recordName inp.namePrefix = v.recordName inp.namePrefix → u.structName = v.structName

namespace Module

/-- The identifiers that the constants and records of a module declare. -/
def identifiers (m : Module) : List String :=
  m.constants.map Constant.name ++ m.blocks.map fun block => block.2.name

variable {inp : ShaderInput} {backends : Backends} {settings : Settings} {slangs : List Slang}
  {b : BackendOutput} {m : Module}

theorem identifiers_eq (h : AssembledFrom inp backends settings slangs b m) : m.identifiers =
    (vertexAttrs inp b).map (fun x => "ATTR_" ++ inp.namePrefix ++ joinedAttr x) ++
      (slotNames Image inp b ++ (slotNames Sampler inp b ++
        (slotNames UniformBlock inp b ++ recordNames inp b))) := by
  have hattrs := attrConstants_names h.attrs
  have hrecords : (fun block : Constant × Record => block.2.name) ∘
      (fun u : UniformBlock =>
        (u.slotConstant inp.namePrefix, u.record inp.namePrefix settings.hosts)) =
      UniformBlock.recordName inp.namePrefix := rfl
  unfold identifiers constants
  rw [h.images, h.samplers, h.blocks]
  simp only [imageConstants, samplerConstants, blocksOf, List.map_append, List.map_map,
    List.append_assoc, hattrs, hrecords]
  rfl

/-- No record is spelled like a constant. -/
theorem not_prefix_of_mem_recordNames {x : String} (hx : x ∈ recordNames inp b) :
    ¬ "ATTR_".toList <+: x.toList ∧ ¬ "SLOT_".toList <+: x.toList := by
  obtain ⟨u, -, rfl⟩ := List.mem_map.mp hx
  exact ⟨not_attr_prefix_adaCase _, not_slot_prefix_adaCase _⟩

/-- The name of an attribute is that of no slot and of no record. -/
theorem attrName_ne {x : String × String} {y : String}
    (hy : y ∈ slotNames Image inp b ++ (slotNames Sampler inp b ++
      (slotNames UniformBlock inp b ++ recordNames inp b))) :
    "ATTR_" ++ inp.namePrefix ++ joinedAttr x ≠ y := by
  have hslot : ∀ {α : Type} [Resource α], y ∈ slotNames α inp b →
      "ATTR_" ++ inp.namePrefix ++ joinedAttr x ≠ y := by
    intro α _ hy h
    obtain ⟨a, -, rfl⟩ := List.mem_map.mp hy
    have hletters := congrArg String.toList h
    simp at hletters
  simp only [List.mem_append] at hy
  rcases hy with hy | hy | hy | hy
  · exact hslot hy
  · exact hslot hy
  · exact hslot hy
  · rintro rfl
    refine (not_prefix_of_mem_recordNames hy).1 ?_
    rw [String.append_assoc, String.toList_append]
    exact List.prefix_append _ _

/-- The name of a slot is that of no record. -/
theorem slotName_ne {α : Type} [Resource α] {x y : String} (hx : x ∈ slotNames α inp b)
    (hy : y ∈ recordNames inp b) : x ≠ y := by
  rintro rfl
  obtain ⟨a, -, rfl⟩ := List.mem_map.mp hx
  refine (not_prefix_of_mem_recordNames hy).2 ?_
  rw [String.append_assoc, String.toList_append]
  exact List.prefix_append _ _

theorem nodup_attrNames_iff (hattrs : (vertexAttrs inp b).Nodup) :
    ((vertexAttrs inp b).map fun x => "ATTR_" ++ inp.namePrefix ++ joinedAttr x).Nodup ↔
      ∀ x ∈ vertexAttrs inp b, ∀ y ∈ vertexAttrs inp b, joinedAttr x = joinedAttr y → x = y := by
  rw [List.nodup_map_iff_inj_on hattrs]
  simp only [String.append_right_inj]

theorem nodup_identifiers_iff (h : AssembledFrom inp backends settings slangs b m)
    (hattrs : (vertexAttrs inp b).Nodup) : m.identifiers.Nodup ↔ b.Unambiguous inp := by
  rw [identifiers_eq h]
  simp only [List.nodup_append]
  constructor
  · rintro ⟨hA, ⟨-, ⟨-, ⟨-, hrecords, -⟩, hS⟩, hI⟩, -⟩
    refine ⟨(nodup_attrNames_iff hattrs).mp hA, ?_, ?_, ?_, nodup_recordNames_iff.mp hrecords⟩
    · exact slotNames_disjoint_iff.mp fun x hx y hy => hI x hx y (List.mem_append_left _ hy)
    · exact slotNames_disjoint_iff.mp fun x hx y hy =>
        hI x hx y (List.mem_append_right _ (List.mem_append_left _ hy))
    · exact slotNames_disjoint_iff.mp fun x hx y hy => hS x hx y (List.mem_append_left _ hy)
  · intro hb
    refine ⟨(nodup_attrNames_iff hattrs).mpr hb.attrs, ⟨nodup_slotNames, ⟨nodup_slotNames,
      ⟨nodup_slotNames, nodup_recordNames_iff.mpr hb.records, ?_⟩, ?_⟩, ?_⟩, ?_⟩
    · exact fun x hx y hy => slotName_ne hx hy
    · intro x hx y hy
      rcases List.mem_append.mp hy with hy | hy
      · exact slotNames_disjoint_iff.mpr hb.samplersBlocks x hx y hy
      · exact slotName_ne hx hy
    · intro x hx y hy
      rcases List.mem_append.mp hy with hy | hy
      · exact slotNames_disjoint_iff.mpr hb.imagesSamplers x hx y hy
      · rcases List.mem_append.mp hy with hy | hy
        · exact slotNames_disjoint_iff.mpr hb.imagesBlocks x hx y hy
        · exact slotName_ne hx hy
    · intro x hx y hy
      obtain ⟨attr, -, rfl⟩ := List.mem_map.mp hx
      exact attrName_ne hy

/-- With names of snippets that differ, and names of resources that differ within each stage, the
identifiers of a module differ exactly when in the output that they are made from no two attributes
are joined alike to their shaders, no name stands for resources of two kinds, and no two names of
blocks are capitalized alike. -/
theorem identifiers_nodup_iff {first : Slang} (h : assemble inp backends settings = .ok m)
    (hfirst : (Slang.inOrder settings.slangs).head? = some first)
    (hb : backends.get? first.name = some b) (hsnippets : (inp.snippets.map Snippet.name).Nodup)
    (hnames : ∀ source ∈ b.sources, source.reflection.NamesApart) :
    m.identifiers.Nodup ↔ b.Unambiguous inp := by
  obtain ⟨-, other, c, hother, hc, hm⟩ := assembledFrom_of_assemble h
  rw [hfirst] at hother
  obtain rfl := Option.some.inj hother
  rw [hb] at hc
  obtain rfl := Option.some.inj hc
  exact nodup_identifiers_iff hm (nodup_vertexAttrs hsnippets hnames)

/-! ## Two vertex shaders -/

/-- A program, and a second vertex shader that is embedded too. -/
def twinInput (first second : String) : ShaderInput where
  basePath := ""
  snippets := [⟨first, "vs"⟩, ⟨second, "vs"⟩, ⟨"f", "fs"⟩]
  programs := [⟨"p", first, "f", 1⟩]

/-- The output for the three shaders: each vertex shader has an attribute and a block, the first of
them an image and the fragment shader a sampler. -/
def twinOutput (first second attr other block otherBlock texture sampler : String) :
    BackendOutput where
  slang := wgsl
  sources :=
    [⟨first, "", {
      stage := "vs"
      inputs := [⟨0, attr, "TEXCOORD", 0⟩]
      uniformBlocks := [⟨0, 16, block, "", [], false⟩]
      images := [⟨0, texture, "2d", "float", false⟩] }⟩,
     ⟨second, "", {
      stage := "vs"
      inputs := [⟨0, other, "TEXCOORD", 0⟩]
      uniformBlocks := [⟨1, 16, otherBlock, "", [], false⟩] }⟩,
     ⟨"f", "", { stage := "fs", samplers := [⟨0, sampler, "sample"⟩] }⟩]

/-- With names that are apart, the identifiers are. -/
theorem twin_identifiers_nodup : ∃ m,
    assemble (twinInput "v" "w")
      [("wgsl", twinOutput "v" "w" "pos" "pos" "params" "light" "tex" "smp")] pairSettings = .ok m ∧
    m.identifiers.Nodup := by
  have hok : (assemble (twinInput "v" "w")
      [("wgsl", twinOutput "v" "w" "pos" "pos" "params" "light" "tex" "smp")]
      pairSettings).toBool = true := by decide +kernel
  obtain ⟨m, hm⟩ := exists_eq_ok_of_toBool hok
  have hfirst : (Slang.inOrder pairSettings.slangs).head? = some wgsl := by decide +kernel
  refine ⟨m, hm, (identifiers_nodup_iff hm hfirst rfl (by decide) (by decide)).mpr ?_⟩
  exact ⟨by decide +kernel, by decide, by decide, by decide, by decide +kernel⟩

/-- With snippets, programs and the resources of each stage named apart the module is assembled, and
three of its identifiers come twice: those of two attributes, of an image and a sampler, and of two
records. -/
theorem twin_identifiers_repeat : ∃ m,
    ((twinInput "a" "a_b").snippets.map Snippet.name).Nodup ∧
    ((twinInput "a" "a_b").programs.map Program.name).Nodup ∧
    (∀ source ∈ (twinOutput "a" "a_b" "b_c" "c" "params" "PARAMS" "tex" "tex").sources,
      source.reflection.NamesApart) ∧
    assemble (twinInput "a" "a_b")
      [("wgsl", twinOutput "a" "a_b" "b_c" "c" "params" "PARAMS" "tex" "tex")] pairSettings =
        .ok m ∧
    m.identifiers = ["ATTR_a_b_c", "ATTR_a_b_c", "SLOT_tex", "SLOT_tex", "SLOT_params",
      "SLOT_PARAMS", "Params", "Params"] ∧
    ¬ m.identifiers.Nodup := by
  have hok : (assemble (twinInput "a" "a_b")
      [("wgsl", twinOutput "a" "a_b" "b_c" "c" "params" "PARAMS" "tex" "tex")]
      pairSettings).toBool = true := by decide +kernel
  obtain ⟨m, hm⟩ := exists_eq_ok_of_toBool hok
  obtain ⟨-, first, b, hfirst, hb, hassembled⟩ := assembledFrom_of_assemble hm
  have hwgsl : (Slang.inOrder pairSettings.slangs).head? = some wgsl := by decide +kernel
  obtain rfl : wgsl = first := Option.some.inj (hwgsl.symm.trans hfirst)
  obtain rfl := Option.some.inj hb
  -- the blocks stand in order of slots already
  have hblocks : sharedResources UniformBlock (twinInput "a" "a_b")
      (twinOutput "a" "a_b" "b_c" "c" "params" "PARAMS" "tex" "tex") =
        [⟨0, 16, "params", "", [], false⟩, ⟨1, 16, "PARAMS", "", [], false⟩] := by
    unfold sharedResources
    exact List.mergeSort_of_pairwise (by decide)
  have hidentifiers : m.identifiers = ["ATTR_a_b_c", "ATTR_a_b_c", "SLOT_tex", "SLOT_tex",
      "SLOT_params", "SLOT_PARAMS", "Params", "Params"] := by
    rw [identifiers_eq hassembled]
    unfold recordNames slotNames
    rw [hblocks]
    decide +kernel
  refine ⟨m, by decide, by decide, by decide, hm, hidentifiers, ?_⟩
  rw [hidentifiers]
  decide

end Module

end ShaderBindings
