/-
  What stands in a module for types that are not known: a record field that does not compile,
  and an invalid tag in the overview and in the procedures. A module is `Tagged` if nothing of
  the sort stands in it. Every use of an unknown name in an embedded shader is warned about,
  whether it is bound or not (`warnings_eq`); so where programs use embedded shaders and there
  are no warnings, the module is tagged (`tagged_of_warnings_eq_nil`). Host types are taken to
  be texts; whether a host type fits its uniform is not looked at.
-/
import ShaderBindings.Proofs.Dump
import ShaderBindings.Proofs.Module.Overview
import ShaderBindings.Proofs.Unsupported

namespace ShaderBindings

open Fallible Desc

/-- All type names in a reflection are in their tables. -/
def StageReflection.Listed (r : StageReflection) : Prop := TypeUse.unlisted r = []

namespace StageReflection.Listed

variable {r : StageReflection}

theorem name_mem_table (h : r.Listed) {u : TypeUse} (hu : u ∈ TypeUse.all r) :
    u.name ∈ u.table := by
  have hnone := List.filter_eq_nil_iff.mp h u hu
  simpa using hnone

theorem uniform (h : r.Listed) {b : UniformBlock} (hb : b ∈ r.uniformBlocks) {u : Uniform}
    (hu : u ∈ b.uniforms) : u.type ∈ UniformType.all.map UniformType.name := by
  refine h.name_mem_table (u := .uniform b u) ?_
  simp only [TypeUse.all, List.mem_append, List.mem_flatMap]
  exact .inl (.inl ⟨b, hb, List.mem_map_of_mem hu⟩)

theorem image (h : r.Listed) {i : Image} (hi : i ∈ r.images) :
    (imageTag i.type).text ≠ Tag.invalid.text ∧
      (imageSampleTag i.sampleType).text ≠ Tag.invalid.text := by
  have huse : ∀ u ∈ [TypeUse.image i, TypeUse.sample i], u ∈ TypeUse.all r := by
    intro u hu
    simp only [TypeUse.all, List.mem_append, List.mem_flatMap]
    exact .inl (.inr ⟨i, hi, hu⟩)
  have htype := h.name_mem_table (huse (.image i) (by simp))
  have hsample := h.name_mem_table (huse (.sample i) (by simp))
  exact ⟨TypeUse.text_tag_ne_invalid htype, TypeUse.text_tag_ne_invalid hsample⟩

theorem sampler (h : r.Listed) {s : Sampler} (hs : s ∈ r.samplers) :
    (samplerTag s.type).text ≠ Tag.invalid.text := by
  refine TypeUse.text_tag_ne_invalid (u := .sampler s) (h.name_mem_table ?_)
  simp only [TypeUse.all, List.mem_append]
  exact .inr (List.mem_map_of_mem hs)

end StageReflection.Listed

/-! ## Records -/

/-- With texts for host types, only an unknown type that is not mapped has none. -/
theorem OdinType.ofUniform_eq_none {hosts : HostTypes}
    (hhosts : ∀ host ∈ hosts, (Json.text? host.2).isSome = true) {u : Uniform} :
    ofUniform hosts u = none ↔ hosts.get? u.type = none ∧ UniformType.ofName? u.type = none := by
  unfold ofUniform
  cases hhost : hosts.get? u.type with
  | none => simp
  | some host =>
    have htext := hhosts _ (Keyed.mem_of_get? hhost)
    cases host with
    | text s => by_cases hcount : u.arrayCount = 1 <;> simp [hcount]
    | _ => simp [Json.text?] at htext

/-- A record of uniforms whose types are known has a type for each field. -/
theorem UniformBlock.unsupported_notMem_record {hosts : HostTypes} {b : UniformBlock}
    (hhosts : ∀ host ∈ hosts, (Json.text? host.2).isSome = true)
    (h : ∀ u ∈ b.uniforms, u.type ∈ UniformType.all.map UniformType.name) (namePrefix : String) :
    RecordField.unsupported ∉ (b.record namePrefix hosts).fields := by
  intro hmem
  obtain ⟨segment, hsegment, hunsupported⟩ := List.mem_map.mp hmem
  cases segment with
  | padding n => simp [RecordField.ofSegment] at hunsupported
  | field f =>
    have hfield : f ∈ (BlockLayout.ofBlock hosts b).fields :=
      List.mem_filterMap.mpr ⟨_, hsegment, rfl⟩
    rw [BlockLayout.fields_ofBlock] at hfield
    obtain ⟨u, hu, rfl⟩ := List.mem_map.mp hfield
    cases htype : OdinType.ofUniform hosts u with
    | some type => simp [RecordField.ofSegment, htype] at hunsupported
    | none =>
      have hname := ((OdinType.ofUniform_eq_none hhosts).mp htype).2
      exact TypeUse.ofName?_eq_none.mp hname (h u hu)

/-! ## Statements -/

namespace Desc

/-- A value that is a type tag is one that is known. -/
def Value.Tagged (v : Value) : Prop := ∀ t, v = .tag t → t.text ≠ Tag.invalid.text

theorem Value.tagged_tag {t : Tag} (h : t.text ≠ Tag.invalid.text) : (Value.tag t).Tagged := by
  intro t' ht
  obtain rfl := Value.tag.inj ht
  exact h

end Desc

namespace Emitter

variable {e : Emitter} {tag : String} {r : StageReflection} {a : Assignment}

theorem attr_tagged {slot : Nat} {input : Attr} (ha : a ∈ e.attr slot input) : a.value.Tagged := by
  unfold Emitter.attr at ha
  split at ha
  · obtain rfl := List.mem_singleton.mp ha
    simp [Value.Tagged]
  · simp only [List.mem_cons, List.not_mem_nil, or_false] at ha
    rcases ha with rfl | rfl <;> simp [Value.Tagged]
  · simp at ha

theorem code_tagged {p : Payload} (ha : a ∈ e.code tag p) : a.value.Tagged := by
  unfold code at ha
  split at ha
  · simp only [List.mem_cons, List.not_mem_nil, or_false] at ha
    rcases ha with rfl | rfl <;> simp [Value.Tagged]
  · rcases List.mem_cons.mp ha with rfl | ha
    · simp [Value.Tagged]
    · obtain ⟨target, -, rfl⟩ := List.mem_map.mp ha
      simp [Value.Tagged]

/-- The tags of a block are those of its uniforms, or that of its first one. -/
theorem uniforms_tagged {slot : Nat} {b : UniformBlock}
    (h : ∀ u ∈ b.uniforms, u.type ∈ UniformType.all.map UniformType.name)
    (ha : a ∈ e.uniforms tag slot b) : a.value.Tagged := by
  unfold uniforms at ha
  split at ha
  · simp at ha
  · next first rest _ hus =>
    have hfirst := TypeUse.text_flattenedTag_ne_invalid (h first (hus ▸ List.mem_cons_self))
    split at ha
    · simp only [List.mem_cons, List.not_mem_nil, or_false] at ha
      rcases ha with rfl | rfl | rfl
      · simp [Value.Tagged]
      · exact Value.tagged_tag hfirst
      · simp [Value.Tagged]
    · obtain ⟨⟨u, index⟩, hu, ha⟩ := List.mem_flatMap.mp ha
      have hmem : u ∈ b.uniforms := hus ▸ List.fst_mem_of_mem_zipIdx hu
      have htype := TypeUse.text_tag_ne_invalid (u := .uniform b u) (h u hmem)
      simp only [List.mem_cons, List.not_mem_nil, or_false] at ha
      rcases ha with rfl | rfl | rfl
      · simp [Value.Tagged]
      · exact Value.tagged_tag htype
      · simp [Value.Tagged]
  · simp at ha

theorem image_tagged {slot : Nat} {i : Image} (htype : (imageTag i.type).text ≠ Tag.invalid.text)
    (hsample : (imageSampleTag i.sampleType).text ≠ Tag.invalid.text)
    (ha : a ∈ image tag slot i) : a.value.Tagged := by
  simp only [image, List.mem_cons, List.not_mem_nil, or_false] at ha
  rcases ha with rfl | rfl | rfl | rfl
  · simp [Value.Tagged]
  · simp [Value.Tagged]
  · exact Value.tagged_tag htype
  · exact Value.tagged_tag hsample

theorem sampler_tagged {slot : Nat} {s : Sampler}
    (htype : (samplerTag s.type).text ≠ Tag.invalid.text) (ha : a ∈ sampler tag slot s) :
    a.value.Tagged := by
  simp only [sampler, List.mem_cons, List.not_mem_nil, or_false] at ha
  rcases ha with rfl | rfl
  · simp [Value.Tagged]
  · exact Value.tagged_tag htype

theorem pair_tagged {slot : Nat} {s : ImageSampler} {part : List Assignment}
    (h : e.pair tag r slot s = .ok part) (ha : a ∈ part) : a.value.Tagged := by
  obtain ⟨image, sampler, -, -, rfl⟩ := pair_eq_ok.mp h
  rcases List.mem_append.mp ha with ha | ha
  · simp only [List.mem_cons, List.not_mem_nil, or_false] at ha
    rcases ha with rfl | rfl | rfl <;> simp [Value.Tagged]
  · unfold pairName at ha
    split at ha
    · obtain rfl := List.mem_singleton.mp ha
      simp [Value.Tagged]
    · simp at ha

/-- The tags of a stage come from what is bound in it, and that is declared. -/
theorem stage_tagged (hr : r.Listed) {p : Payload} {as : List Assignment}
    (h : e.stage tag r p = .ok as) (ha : a ∈ as) : a.value.Tagged := by
  obtain ⟨blocks, pairs, hblocks, hpairs, rfl⟩ := stage_eq_ok.mp h
  unfold stageBody at ha
  simp only [List.mem_append, or_assoc] at ha
  rcases ha with ha | ha | ha | ha | ha | ha
  · exact code_tagged ha
  · obtain rfl := List.mem_singleton.mp ha
    simp [Value.Tagged]
  · obtain ⟨part, hpart, ha⟩ := List.mem_flatten.mp ha
    obtain ⟨⟨slot, b⟩, hb, hok⟩ := exists_of_forall₂_right hblocks hpart
    have hdeclared : b ∈ r.uniformBlocks := StageReflection.mem_declared_of_mem_occupied hb
    obtain ⟨-, rfl⟩ := block_eq_ok.mp hok
    rcases List.mem_append.mp ha with ha | ha
    · simp only [List.mem_cons, List.not_mem_nil, or_false] at ha
      rcases ha with rfl | rfl
      · simp [Value.Tagged]
      · exact Value.tagged_tag (by decide)
    · exact uniforms_tagged (fun u hu => hr.uniform hdeclared hu) ha
  · obtain ⟨⟨slot, i⟩, hi, ha⟩ := List.mem_flatMap.mp ha
    obtain ⟨htype, hsample⟩ := hr.image (StageReflection.mem_declared_of_mem_occupied hi)
    exact image_tagged htype hsample ha
  · obtain ⟨⟨slot, s⟩, hs, ha⟩ := List.mem_flatMap.mp ha
    exact sampler_tagged (hr.sampler (StageReflection.mem_declared_of_mem_occupied hs)) ha
  · obtain ⟨part, hpart, ha⟩ := List.mem_flatten.mp ha
    obtain ⟨sp, -, hok⟩ := exists_of_forall₂_right hpairs hpart
    exact pair_tagged hok ha

theorem program_tagged {namePrefix : String} {p : Program} {b : BackendOutput}
    (hlisted : ∀ (stage : ProgramStage) (source : StageSource),
      b.source? (p.snippet stage) = some source → source.reflection.Listed)
    {as : List Assignment} (h : e.program namePrefix p b = .ok as) (ha : a ∈ as) :
    a.value.Tagged := by
  obtain ⟨vs, fs, hvs, hfs⟩ := sources_of_program h
  obtain ⟨asV, asF, hV, hF, rfl⟩ := (program_eq_ok hvs hfs).mp h
  obtain ⟨vertex, -, hV⟩ := programStage_eq_ok.mp hV
  obtain ⟨fragment, -, hF⟩ := programStage_eq_ok.mp hF
  simp only [List.mem_append, or_assoc] at ha
  rcases ha with ha | ha | ha | ha
  · obtain ⟨sa, -, ha⟩ := List.mem_flatMap.mp ha
    exact attr_tagged ha
  · exact stage_tagged (hlisted .vertex vs hvs) hV ha
  · exact stage_tagged (hlisted .fragment fs hfs) hF ha
  · obtain rfl := List.mem_singleton.mp ha
    simp [Value.Tagged]

end Emitter

/-! ## Entries of the overview -/

namespace Overview

/-- The type tags that an entry shows. -/
def Entry.tags : Entry → List Tag
  | .image _ type sampleType _ _ => [type, sampleType]
  | .sampler _ type _ => [type]
  | _ => []

theorem resources_tagged {namePrefix : String} {r : StageReflection} (hr : r.Listed) {entry : Entry}
    (hentry : entry ∈ resources namePrefix r) : ∀ t ∈ entry.tags, t.text ≠ Tag.invalid.text := by
  rcases mem_resources.mp hentry with ⟨slot, u, -, rfl⟩ | ⟨slot, i, hi, rfl⟩ | ⟨slot, s, hs, rfl⟩ |
    ⟨slot, q, -, rfl⟩
  · simp [Entry.tags]
  · obtain ⟨htype, hsample⟩ := hr.image (StageReflection.mem_declared_of_mem_occupied hi)
    intro t ht
    simp only [Entry.tags, List.mem_cons, List.not_mem_nil, or_false] at ht
    rcases ht with rfl | rfl
    · exact htype
    · exact hsample
  · intro t ht
    obtain rfl := List.mem_singleton.mp ht
    exact hr.sampler (StageReflection.mem_declared_of_mem_occupied hs)
  · simp [Entry.tags]

end Overview

/-! ## Modules -/

namespace Module

/-- No record has a field for want of a type, and no type tag is shown as an invalid one. -/
structure Tagged (m : Module) : Prop where
  records : ∀ block ∈ m.blocks, RecordField.unsupported ∉ block.2.fields
  overview : ∀ entry ∈ m.header.entries, ∀ t ∈ entry.tags, t.text ≠ Tag.invalid.text
  cases : ∀ proc ∈ m.procedures, ∀ c ∈ proc.cases, ∀ a ∈ c.body, a.value.Tagged

/-- The warnings about the output for a language: shader by shader, one for each use of a name that
is not in its table. -/
def warningsOf (inp : ShaderInput) (b : BackendOutput) : List Diagnostic :=
  inp.shaders.flatMap fun s => (b.source? s.name).toList.flatMap fun source =>
    (TypeUse.unlisted source.reflection).map (TypeUse.warning inp.basePath b.slang)

variable {inp : ShaderInput} {backends : Backends} {settings : Settings} {slangs : List Slang}
  {slang : Slang} {b : BackendOutput} {m : Module}

theorem unsupportedTypes_eq (inp : ShaderInput) (b : BackendOutput) :
    unsupportedTypes inp b = warningsOf inp b := by
  unfold unsupportedTypes Unsupported.ofBackend warningsOf
  rw [List.map_flatMap]
  refine congrArg (inp.shaders.flatMap ·) (funext fun s => ?_)
  cases b.source? s.name with
  | none => rfl
  | some source => simp [TypeUse.ofReflection_eq, TypeUse.warning, Function.comp_def]

theorem warnings_eq (h : AssembledFrom inp backends settings slangs b m) :
    m.warnings = slangs.flatMap fun slang =>
      (backends.get? slang.name).toList.flatMap (warningsOf inp) := by
  rw [h.warnings]
  refine congrArg (slangs.flatMap ·) (funext fun slang => ?_)
  unfold warningsFor
  cases backends.get? slang.name with
  | none => rfl
  | some b => simp [unsupportedTypes_eq]

/-- Without warnings, the types of embedded shaders are known. -/
theorem listed_of_warnings_eq_nil (h : AssembledFrom inp backends settings slangs b m)
    (hnone : m.warnings = []) (hslang : slang ∈ slangs) {c : BackendOutput}
    (hc : backends.get? slang.name = some c) {s : Snippet} (hs : s ∈ inp.shaders)
    {source : StageSource} (hsource : c.source? s.name = some source) :
    source.reflection.Listed := by
  rw [warnings_eq h, List.flatMap_eq_nil_iff] at hnone
  have hlanguage := hnone slang hslang
  rw [hc, Option.toList_some, List.flatMap_singleton] at hlanguage
  have hshader := List.flatMap_eq_nil_iff.mp hlanguage s hs
  rw [hsource, Option.toList_some, List.flatMap_singleton] at hshader
  exact List.map_eq_nil_iff.mp hshader

theorem tagged_of_warnings_eq_nil {first : Slang}
    (h : AssembledFrom inp backends settings slangs b m) (hfirst : first ∈ slangs)
    (hb : backends.get? first.name = some b)
    (hhosts : ∀ host ∈ settings.hosts, (Json.text? host.2).isSome = true)
    (hembeds : inp.EmbedsPrograms) (hnone : m.warnings = []) : m.Tagged where
  records := by
    intro block hblock
    rw [h.blocks] at hblock
    obtain ⟨u, hu, rfl⟩ := List.mem_map.mp hblock
    obtain ⟨s, hs, source, hsource, hdeclared⟩ :=
      exists_of_mem_declaredIn (mem_declaredIn_of_mem_sharedResources hu)
    have hlisted := listed_of_warnings_eq_nil h hnone hfirst hb hs hsource
    exact u.unsupported_notMem_record hhosts (fun v hv => hlisted.uniform hdeclared hv) _
  overview := by
    intro entry hentry
    obtain ⟨p, hp, stage, source, hsource, ⟨-, rfl⟩ | hentry⟩ := Header.entry_cases h.header hentry
    · exact fun t ht => absurd ht List.not_mem_nil
    · obtain ⟨s, hs, hname⟩ := hembeds p hp stage
      rw [← hname] at hsource
      exact Overview.resources_tagged (listed_of_warnings_eq_nil h hnone hfirst hb hs hsource)
        hentry
  cases := by
    intro proc hproc c hc a ha
    obtain ⟨p, hp, hofProgram⟩ := exists_of_forall₂_right h.procedures hproc
    obtain ⟨slang, hslang, hcase⟩ := exists_of_forall₂_right (procedure_eq_ok.mp hofProgram).1 hc
    obtain ⟨e, c, body, hget, hbody, rfl⟩ := caseOfSlang_eq_ok hcase
    refine Emitter.program_tagged (fun stage source hsource => ?_) hbody ha
    obtain ⟨s, hs, hname⟩ := hembeds p (ShaderInput.mem_sortedPrograms.mp hp) stage
    rw [← hname] at hsource
    exact listed_of_warnings_eq_nil h hnone hslang hget hs hsource

/-- The warnings of a module are, language by language in order and shader by shader, one for each
use of a type name that is not in its table. If there are none, host types are texts and programs
use embedded shaders only, then no record lacks a type and no type tag is invalid. -/
theorem sentinels_reported (h : assemble inp backends settings = .ok m) :
    backends.Complete inp (Slang.inOrder settings.slangs) ∧
    m.warnings = (Slang.inOrder settings.slangs).flatMap (fun slang =>
      (backends.get? slang.name).toList.flatMap (warningsOf inp)) ∧
    ((∀ host ∈ settings.hosts, (Json.text? host.2).isSome = true) → inp.EmbedsPrograms →
      m.warnings = [] → m.Tagged) := by
  obtain ⟨hcomplete, first, b, hfirst, hb, hm⟩ := assembledFrom_of_assemble h
  exact ⟨hcomplete, warnings_eq hm, fun hhosts hembeds hnone =>
    tagged_of_warnings_eq_nil hm (List.mem_of_mem_head? hfirst) hb hhosts hembeds hnone⟩

/-! ## A program that samples an image -/

/-- The output for a program with a block in its vertex shader, and in its fragment shader an image
that lies beyond the slots and is sampled as the given type says. -/
def sampledOutput (type : String) : Backends :=
  [("wgsl", {
    slang := wgsl
    sources :=
      [⟨"v", "v", {
        stage := "vs"
        uniformBlocks := [⟨0, 16, "params", "", [⟨"tint", "vec4", 0, 1⟩], false⟩] }⟩,
       ⟨"f", "f", {
        stage := "fs"
        images := [⟨40, "tex", "2d", type, false⟩] }⟩] })]

/-- With a type that is known there is no warning, and all of the module is tagged; with another one
there is a warning about it, although the image is not bound. -/
theorem sampled_reported : ∃ m other,
    assemble (pairInput [⟨"v", "vs"⟩, ⟨"f", "fs"⟩]) (sampledOutput "float")
      { pairSettings with hosts := [("vec4", .text "Vec4")] } = .ok m ∧ m.Tagged ∧
    assemble (pairInput [⟨"v", "vs"⟩, ⟨"f", "fs"⟩]) (sampledOutput "half") pairSettings =
      .ok other ∧
    other.warnings = [⟨.unsupportedType,
      "image 'tex' has unsupported sample type 'half' in wgsl reflection", "", 0, .warning⟩] := by
  have hknown : (·.warnings) <$> assemble (pairInput [⟨"v", "vs"⟩, ⟨"f", "fs"⟩])
      (sampledOutput "float") { pairSettings with hosts := [("vec4", .text "Vec4")] } =
        .ok [] := by decide +kernel
  have hunknown : (assemble (pairInput [⟨"v", "vs"⟩, ⟨"f", "fs"⟩]) (sampledOutput "half")
      pairSettings).toBool = true := by decide +kernel
  obtain ⟨m, hm, hnone⟩ := map_eq_ok.mp hknown
  obtain ⟨other, hother⟩ := exists_eq_ok_of_toBool hunknown
  have hembeds := attributeInput_embedsPrograms .vertex
  refine ⟨m, other, hm, (sentinels_reported hm).2.2 ?_ hembeds hnone.symm, hother, ?_⟩
  · simp [Json.text?]
  · rw [(sentinels_reported hother).2.1]
    decide +kernel

end Module

end ShaderBindings
