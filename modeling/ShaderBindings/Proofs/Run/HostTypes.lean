/-
  Host types from the dump and from the command line, in records. The command line maps known
  types only, which is checked there (`mem_names_of_readHostMapping`). A dump may map any name:
  a uniform of an unknown type that it maps has a field like any other, although the layout has
  no room for it (`showsUnsupported_iff`, `advances_iff`). The host types of the dump are taken
  to be texts.
-/
import ShaderBindings.Proofs.Bytes
import ShaderBindings.Proofs.Config
import ShaderBindings.Proofs.Dump.Load
import ShaderBindings.Proofs.Layout.TypeText
import ShaderBindings.Proofs.Module.Sentinels
import ShaderBindings.Run

namespace ShaderBindings

/-! ## Fields -/

/-- Whether the type of a uniform is one that records can hold. -/
def Uniform.Known (u : Uniform) : Prop := u.type ∈ UniformType.all.map UniformType.name

/-- A uniform takes bytes in the layout if its type is known. -/
theorem Uniform.size_pos_iff {u : Uniform} : 0 < u.size ↔ u.Known := by
  unfold Uniform.size uniformSize
  cases htype : UniformType.ofName? u.type with
  | none =>
    simp only [Int.lt_irrefl, false_iff]
    exact TypeUse.ofName?_eq_none.mp htype
  | some t =>
    have hknown : u.Known := by
      by_contra hunknown
      rw [TypeUse.ofName?_eq_none.mpr hunknown] at htype
      simp at htype
    have hsize := t.size_pos
    refine iff_of_true ?_ hknown
    dsimp only
    split
    · next hcount => exact Int.mul_pos (by omega) (by omega)
    · omega

namespace RecordField

/-- The line of a field that does not compile is that of no other. -/
theorem line_eq_unsupported {f : RecordField} : f.line = unsupported.line ↔ f = unsupported := by
  refine ⟨fun h => ?_, fun h => congrArg line h⟩
  have hcolon : ':' ∉ unsupported.line.toList := by decide
  rw [← h] at hcolon
  cases f with
  | padding n => simp [line] at hcolon
  | unsupported => rfl
  | named name type => simp [line] at hcolon

theorem ofSegment_eq_unsupported {f : Layout.Field} :
    ofSegment (.field f) = unsupported ↔ f.type = none := by
  unfold ofSegment
  cases hf : f.type <;> simp [hf]

def isPadding : RecordField → Bool
  | padding _ => true
  | _ => false

end RecordField

/-- The fields of a record that are no padding: one for each uniform of the block. -/
def Record.uniformFields (r : Record) : List RecordField := r.fields.filter (!·.isPadding)

theorem UniformBlock.uniformFields_record (namePrefix : String) (hosts : HostTypes)
    (b : UniformBlock) : (b.record namePrefix hosts).uniformFields =
      b.uniforms.map fun u => .ofSegment (.field ⟨u, OdinType.ofUniform hosts u⟩) := by
  have hsegments (segments : List Layout.Segment) :
      (segments.map RecordField.ofSegment).filter (!·.isPadding) =
        (segments.filterMap Layout.Segment.field?).map fun f => .ofSegment (.field f) := by
    induction segments with
    | nil => rfl
    | cons segment segments ih =>
      cases segment with
      | padding n => simpa [RecordField.ofSegment, RecordField.isPadding, Layout.Segment.field?]
      | field f =>
        have hfield : (RecordField.ofSegment (.field f)).isPadding = false := by
          unfold RecordField.ofSegment
          cases hf : f.type <;> simp [hf, RecordField.isPadding]
        simp [hfield, ih, Layout.Segment.field?]
  have hfields := hsegments (BlockLayout.ofBlock hosts b).segments
  change _ = (BlockLayout.ofBlock hosts b).fields.map _ at hfields
  rw [BlockLayout.fields_ofBlock, List.map_map] at hfields
  exact hfields

/-! ## Records under both mappings -/

/-- The fields of the uniforms in a record, each with its uniform. -/
def UniformBlock.EachField (namePrefix : String) (hosts : HostTypes) (b : UniformBlock)
    (p : Uniform → RecordField → Prop) : Prop :=
  List.Forall₂ p b.uniforms (b.record namePrefix hosts).uniformFields

/-- A record shows what is unsupported: exactly the uniforms of unknown types are fields that do not
compile. -/
def UniformBlock.ShowsUnsupported (namePrefix : String) (hosts : HostTypes) (b : UniformBlock) :
    Prop :=
  b.EachField namePrefix hosts fun u f => f.line = RecordField.unsupported.line ↔ ¬ u.Known

/-- Fields with a type have room in the layout. -/
def UniformBlock.Advances (namePrefix : String) (hosts : HostTypes) (b : UniformBlock) : Prop :=
  b.EachField namePrefix hosts fun u f => f.line ≠ RecordField.unsupported.line → 0 < u.size

variable {d : Dump} {c : GenerateConfig} {mappings : List String} {b : UniformBlock}
  {namePrefix : String} {p : Uniform → RecordField → Prop}

theorem UniformBlock.eachField_iff {hosts : HostTypes} : b.EachField namePrefix hosts p ↔
    ∀ u ∈ b.uniforms, p u (.ofSegment (.field ⟨u, OdinType.ofUniform hosts u⟩)) := by
  rw [EachField, uniformFields_record, List.forall₂_map_right_iff, List.forall₂_same]

/-- The command line maps known types. -/
theorem mem_names_of_readHostMapping (hc : mappings.mapM readHostMapping = .ok c.hosts)
    {host : String × String} (hhost : host ∈ c.hosts) :
    host.1 ∈ UniformType.all.map UniformType.name := by
  obtain ⟨s, -, hs⟩ := Fallible.exists_of_forall₂_right (Fallible.mapM_eq_ok.mp hc) hhost
  obtain ⟨⟨t, ht⟩, -, -⟩ := readHostMapping_eq_ok.mp hs
  rw [← ht]
  exact List.mem_map_of_mem (by cases t <;> decide)

theorem texts_of_settings (hd : ∀ host ∈ d.hosts, (Json.text? host.2).isSome = true) :
    ∀ host ∈ (Run.settings c d).hosts, (Json.text? host.2).isSome = true := by
  intro host hhost
  rcases Keyed.mem_of_mem_override hhost with hhost | hhost
  · exact hd host hhost
  · obtain ⟨pair, -, rfl⟩ := List.mem_map.mp hhost
    rfl

/-- Of the unknown types, those are mapped that the dump maps. -/
theorem settings_get?_eq_none (hc : mappings.mapM readHostMapping = .ok c.hosts) {type : String}
    (htype : type ∉ UniformType.all.map UniformType.name) :
    (Run.settings c d).hosts.get? type = none ↔ type ∉ d.hosts.map Prod.fst := by
  rw [← Keyed.get?_eq_none]
  refine Keyed.get?_override_eq_none.trans (and_iff_left (Keyed.get?_eq_none.mpr ?_))
  intro hmem
  rw [List.map_map] at hmem
  obtain ⟨host, hhost, rfl⟩ := List.mem_map.mp hmem
  exact htype (mem_names_of_readHostMapping hc hhost)

/-- The uniforms that do not compile are those of unknown types that the dump does not map. -/
theorem line_eq_unsupported_iff (hd : ∀ host ∈ d.hosts, (Json.text? host.2).isSome = true)
    (hc : mappings.mapM readHostMapping = .ok c.hosts) (u : Uniform) :
    (RecordField.ofSegment (.field ⟨u, OdinType.ofUniform (Run.settings c d).hosts u⟩)).line =
      RecordField.unsupported.line ↔ ¬ u.Known ∧ u.type ∉ d.hosts.map Prod.fst := by
  rw [RecordField.line_eq_unsupported, RecordField.ofSegment_eq_unsupported,
    OdinType.ofUniform_eq_none (texts_of_settings hd), TypeUse.ofName?_eq_none, and_comm]
  exact and_congr_right fun htype => settings_get?_eq_none hc htype

theorem showsUnsupported_iff (hd : ∀ host ∈ d.hosts, (Json.text? host.2).isSome = true)
    (hc : mappings.mapM readHostMapping = .ok c.hosts) :
    b.ShowsUnsupported namePrefix (Run.settings c d).hosts ↔
      ∀ u ∈ b.uniforms, u.type ∈ d.hosts.map Prod.fst → u.Known := by
  refine UniformBlock.eachField_iff.trans (forall₂_congr fun u _ => ?_)
  rw [line_eq_unsupported_iff hd hc]
  tauto

theorem advances_iff (hd : ∀ host ∈ d.hosts, (Json.text? host.2).isSome = true)
    (hc : mappings.mapM readHostMapping = .ok c.hosts) :
    b.Advances namePrefix (Run.settings c d).hosts ↔
      ∀ u ∈ b.uniforms, u.type ∈ d.hosts.map Prod.fst → u.Known := by
  refine UniformBlock.eachField_iff.trans (forall₂_congr fun u _ => ?_)
  rw [Ne, line_eq_unsupported_iff hd hc, Uniform.size_pos_iff]
  tauto

/-- Under the host types of a dump, which are texts, and of a command line, a record has a field
that does not compile for the uniforms of unknown types that the dump does not map, and for no
others. So a record shows what is unsupported, or, what is the same, leaves room for every field
that has a type, exactly if the dump maps none of the unknown types in it; and all records do
exactly if the dump maps known types only. -/
theorem hostTypes_showUnsupported_iff
    (hd : ∀ host ∈ d.hosts, (Json.text? host.2).isSome = true)
    (hc : mappings.mapM readHostMapping = .ok c.hosts) :
    (∀ (namePrefix : String) (b : UniformBlock),
      (b.EachField namePrefix (Run.settings c d).hosts fun u f =>
        f.line = RecordField.unsupported.line ↔ ¬ u.Known ∧ u.type ∉ d.hosts.map Prod.fst) ∧
      (b.ShowsUnsupported namePrefix (Run.settings c d).hosts ↔
        b.Advances namePrefix (Run.settings c d).hosts) ∧
      (b.ShowsUnsupported namePrefix (Run.settings c d).hosts ↔
        ∀ u ∈ b.uniforms, u.type ∈ d.hosts.map Prod.fst → u.Known)) ∧
    ((∀ (namePrefix : String) (b : UniformBlock),
        b.ShowsUnsupported namePrefix (Run.settings c d).hosts) ↔
      ∀ type ∈ d.hosts.map Prod.fst, type ∈ UniformType.all.map UniformType.name) := by
  refine ⟨fun namePrefix b => ⟨UniformBlock.eachField_iff.mpr fun u _ =>
    line_eq_unsupported_iff hd hc u, (showsUnsupported_iff hd hc).trans (advances_iff hd hc).symm,
    showsUnsupported_iff hd hc⟩, fun h type htype => ?_, fun h namePrefix b => ?_⟩
  · -- a block with one uniform of the type
    have hblock := (showsUnsupported_iff hd hc).mp (h "" ⟨0, 0, "", "", [⟨"", type, 0, 1⟩], false⟩)
    exact hblock _ List.mem_cons_self htype
  · exact (showsUnsupported_iff hd hc).mpr fun u _ htype => h u.type htype

/-! ## A flag -/

/-- A block with a color and, behind it, a flag, which is of no type that records can hold. -/
def flagBlock : UniformBlock where
  slot := 0
  size := 32
  structName := "params"
  instName := ""
  uniforms := [⟨"tint", "vec4", 0, 1⟩, ⟨"flag", "bool", 16, 1⟩]
  flattened := false

/-- A configuration with host types. -/
def mappingConfig (hosts : List (String × String)) : GenerateConfig where
  input := Dump.filePath
  output := .value ⟨"", ["o.odin"]⟩
  slangs := [⟨"wgsl", "wgsl", ".WGPU", 0⟩]
  module := none
  hosts := hosts
  version := .value 1
  errorFormat := .value .gcc
  cmdline := ""

def mappedDump (hosts : HostTypes) : Dump where
  input := { basePath := "in.json" }
  hosts := hosts

/-- A dump that maps the color does not hide that the flag is unsupported. -/
theorem tint_showsUnsupported :
    ["vec4=Color"].mapM readHostMapping = .ok (mappingConfig [("vec4", "Color")]).hosts ∧
    flagBlock.ShowsUnsupported ""
      (Run.settings (mappingConfig [("vec4", "Color")])
        (mappedDump [("vec4", .text "Vec4")])).hosts ∧
    (flagBlock.record "" (Run.settings (mappingConfig [("vec4", "Color")])
        (mappedDump [("vec4", .text "Vec4")])).hosts).lines =
      ["Params :: struct \x7b", "    tint: Color,", "    INVALID_UNIFORM_TYPE,", "\x7d"] := by
  have hc : ["vec4=Color"].mapM readHostMapping =
      .ok (mappingConfig [("vec4", "Color")]).hosts := by decide +kernel
  have hd : ∀ host ∈ (mappedDump [("vec4", .text "Vec4")]).hosts,
      (Json.text? host.2).isSome = true := by simp [mappedDump, Json.text?]
  refine ⟨hc, (hostTypes_showUnsupported_iff hd hc).2.mpr ?_ "" flagBlock, by decide +kernel⟩
  intro type htype
  obtain rfl := List.mem_singleton.mp htype
  decide

/-- A file that maps the type of the flag. -/
def flagText : String := "\x7b\"ctypes\":\x7b\"bool\":\"b32\"\x7d\x7d"

/-- The dump in it is loaded, and the record has a field for the flag, for which there is no
room. -/
theorem flag_hidden :
    Dump.load (Dump.fileTree (Bytes.ofText flagText)) Dump.filePath =
      .ok (mappedDump [("bool", .text "b32")]) ∧
    (∀ host ∈ (mappedDump [("bool", .text "b32")]).hosts, (Json.text? host.2).isSome = true) ∧
    ([] : List String).mapM readHostMapping = .ok (mappingConfig []).hosts ∧
    ¬ flagBlock.ShowsUnsupported ""
      (Run.settings (mappingConfig []) (mappedDump [("bool", .text "b32")])).hosts ∧
    ¬ flagBlock.Advances ""
      (Run.settings (mappingConfig []) (mappedDump [("bool", .text "b32")])).hosts ∧
    (flagBlock.record ""
        (Run.settings (mappingConfig []) (mappedDump [("bool", .text "b32")])).hosts).lines =
      ["Params :: struct \x7b", "    tint: [4]f32,", "    flag: b32,", "\x7d"] := by
  have hread : (Dump.fileTree (Bytes.ofText flagText)).read Dump.filePath =
      .ok (Bytes.ofText flagText) := by decide +kernel
  have htext : Bytes.text? (Bytes.ofText flagText) = some flagText :=
    Bytes.text?_eq_some.mpr rfl
  have hjson : Json.read Dump.limits flagText =
      .ok (.object [("ctypes", .object [("bool", .text "b32")])]) := by cbv
  have hc : ([] : List String).mapM readHostMapping = .ok (mappingConfig []).hosts := rfl
  have hd : ∀ host ∈ (mappedDump [("bool", .text "b32")]).hosts,
      (Json.text? host.2).isSome = true := by simp [mappedDump, Json.text?]
  have hflag : ¬ ∀ u ∈ flagBlock.uniforms,
      u.type ∈ (mappedDump [("bool", .text "b32")]).hosts.map Prod.fst → u.Known := by
    intro h
    have hknown : "bool" ∈ UniformType.all.map UniformType.name :=
      h ⟨"flag", "bool", 16, 1⟩ (by simp [flagBlock]) (by simp [mappedDump])
    revert hknown
    decide
  refine ⟨?_, hd, hc, fun h => hflag ((showsUnsupported_iff hd hc).mp h),
    fun h => hflag ((advances_iff hd hc).mp h), by decide +kernel⟩
  rw [Dump.load_eq hread htext hjson]
  rfl

end ShaderBindings
