/-
  What the comment at the head of a module says about the module. `Labelled` picks the lines of
  it that give a constant or a record out by their labels, and `entry_of_labelled` tells the
  entry that such a line belongs to.

  * `declaresSlots`, `declaresRecords`: constants of slots and names of records are declared if
    programs use embedded shaders only and resources of one name share a slot (`SlotsAgree`).
  * `declaresAttrs`: constants of attributes come from what programs use as vertex shaders, and
    are declared for what is declared as one (`ShaderInput.DeclaresVertexShaders`).

  Blocks, images and samplers are looked for in the output for the first language, which is the
  one that the comment is written from.
-/
import ShaderBindings.Proofs.Module.Closure
import ShaderBindings.Proofs.Module.Shared

namespace ShaderBindings

open Fallible

/-! ## Shared resources -/

section

variable {α : Type} [Resource α] {inp : ShaderInput} {b : BackendOutput}

variable (α inp b) in
/-- Resources of one name have one slot. -/
def SlotsAgree : Prop :=
  ∀ a ∈ declaredIn α inp b, ∀ c ∈ declaredIn α inp b, Resource.name a = Resource.name c →
    Resource.slot a = Resource.slot c

instance : Decidable (SlotsAgree α inp b) :=
  inferInstanceAs (Decidable (∀ a ∈ declaredIn α inp b, ∀ c ∈ declaredIn α inp b,
    Resource.name a = Resource.name c → Resource.slot a = Resource.slot c))

/-- A resource bound in an embedded shader is declared under its name and with its slot. -/
theorem exists_sharedResource (hagree : SlotsAgree α inp b) {s : Snippet} (hs : s ∈ inp.shaders)
    {source : StageSource} (hsource : b.source? s.name = some source) {slot : Nat} {a : α}
    (ha : (slot, a) ∈ source.reflection.occupied α) :
    ∃ c ∈ sharedResources α inp b, Resource.name c = Resource.name a ∧
      Resource.slot c = Resource.slot a := by
  have hdeclared := mem_declaredIn hs hsource (StageReflection.mem_declared_of_mem_occupied ha)
  obtain ⟨c, hc, hmem, hname⟩ := exists_firstOfEachName hdeclared
  exact ⟨c, mem_sharedResources.mpr hc, hname, hagree c hmem a hdeclared hname⟩

end

/-- Uniform blocks of one name have one slot, and so have images and samplers. -/
structure BackendOutput.SlotsAgree (inp : ShaderInput) (b : BackendOutput) : Prop where
  blocks : ShaderBindings.SlotsAgree UniformBlock inp b
  images : ShaderBindings.SlotsAgree Image inp b
  samplers : ShaderBindings.SlotsAgree Sampler inp b

/-! ## Announcements -/

namespace Overview

/-- What stands in front of the text below the heading of an entry. -/
def lead : String := Entry.indent ++ "    "

/-- A line of an overview that starts with a label. -/
def Labelled (label line : String) : Prop := (lead ++ label).toList <+: line.toList

namespace Entry

/-- The constants of attributes that an entry gives. -/
def attrs : Entry → List Constant
  | attributes slots => slots
  | _ => []

/-- The constants of slots that an entry gives. -/
def slots : Entry → List Constant
  | block _ _ slot => [slot]
  | image _ _ _ _ slot => [slot]
  | sampler _ _ slot => [slot]
  | _ => []

/-- The records that an entry names. -/
def records : Entry → List String
  | block _ recordName _ => [recordName]
  | _ => []

/-- A labelled line stands below a heading, if headings are not set in further. -/
theorem text_of_labelled {heading label line : String} {below : List String}
    (hline : line ∈ headed heading below) (hheading : ¬ [' '] <+: heading.toList)
    (h : Labelled label line) :
    ∃ text ∈ below, line = lead ++ text ∧ label.toList <+: text.toList := by
  unfold headed at hline
  unfold Labelled lead at h
  rcases List.mem_cons.mp hline with rfl | hline
  · simp only [String.toList_append, List.append_assoc, List.prefix_append_right_inj] at h
    have hspace : [' '] <+: "    ".toList ++ label.toList := ⟨_, rfl⟩
    exact absurd (hspace.trans h) hheading
  · obtain ⟨text, htext, rfl⟩ := List.mem_map.mp hline
    simp only [String.toList_append, List.append_assoc, List.prefix_append_right_inj] at h
    exact ⟨text, htext, rfl, h⟩

/-- The constants of an entry are named after what they are for. -/
structure Proper (entry : Entry) : Prop where
  attrs : ∀ c ∈ entry.attrs, ∃ x, c.name = "ATTR_" ++ x
  slots : ∀ c ∈ entry.slots, ∃ x, c.name = "SLOT_" ++ x

/-- What other lines of an entry start with. -/
def otherLabels : List String :=
  ["Image Type: ", "Sample Type: ", "Multisampled: ", "Type: ", "Image: ", "Sampler: "]

/-- What a text in an entry is: the constant of an attribute or of a slot, the name of a record, or
something else. -/
def Tells (entry : Entry) (text : String) : Prop :=
  (∃ c ∈ entry.attrs, text = c.mention) ∨
  (∃ name ∈ entry.records, text = "Odin struct: " ++ name) ∨
  (∃ c ∈ entry.slots, text = "Bind slot: " ++ c.mention) ∨
  ∃ other ∈ otherLabels, ∃ rest, text = other ++ rest

variable {entry : Entry} {label line : String}

/-- The lines of an entry are a heading, set in no further than headings are, and texts below. -/
theorem exists_headed (entry : Entry) : ∃ heading below, entry.lines = headed heading below ∧
    ¬ [' '] <+: heading.toList ∧ ∀ text ∈ below, entry.Tells text := by
  cases entry with
  | attributes slots =>
    refine ⟨_, _, rfl, by simp, fun text htext => ?_⟩
    obtain ⟨c, hc, rfl⟩ := List.mem_map.mp htext
    exact .inl ⟨c, hc, rfl⟩
  | block name recordName slot =>
    exact ⟨_, _, rfl, by simp, by simp [Tells, records, slots]⟩
  | image name type sampleType multisampled slot =>
    exact ⟨_, _, rfl, by simp, by simp [Tells, slots, otherLabels]⟩
  | sampler name type slot =>
    exact ⟨_, _, rfl, by simp, by simp [Tells, slots, otherLabels]⟩
  | pair name imageName samplerName =>
    exact ⟨_, _, rfl, by simp, by simp [Tells, otherLabels]⟩

theorem tells_of_labelled (hline : line ∈ entry.lines) (h : Labelled label line) :
    ∃ text, line = lead ++ text ∧ label.toList <+: text.toList ∧ entry.Tells text := by
  obtain ⟨heading, below, hlines, hheading, htells⟩ := exists_headed entry
  rw [hlines] at hline
  obtain ⟨text, htext, hlead, hlabel⟩ := text_of_labelled hline hheading h
  exact ⟨text, hlead, hlabel, htells text htext⟩

/-! What an entry tells can be told from the first letter of the text. -/

theorem not_prefix_other {other rest : String} (hother : other ∈ otherLabels)
    (hlabel : label ∈ ["ATTR_", "Odin struct: ", "Bind slot: "]) :
    ¬ label.toList <+: (other ++ rest).toList := by
  simp only [otherLabels, List.mem_cons, List.not_mem_nil, or_false] at hother hlabel
  rcases hlabel with rfl | rfl | rfl <;>
    rcases hother with rfl | rfl | rfl | rfl | rfl | rfl <;> simp

theorem attr_of_labelled (hline : line ∈ entry.lines) (h : Labelled "ATTR_" line) :
    ∃ c ∈ entry.attrs, line = lead ++ c.mention := by
  obtain ⟨text, rfl, hlabel, htells⟩ := tells_of_labelled hline h
  rcases htells with ⟨c, hc, rfl⟩ | ⟨name, -, rfl⟩ | ⟨c, -, rfl⟩ | ⟨other, hother, rest, rfl⟩
  · exact ⟨c, hc, rfl⟩
  · simp at hlabel
  · simp at hlabel
  · exact absurd hlabel (not_prefix_other hother (by simp))

theorem record_of_labelled (hproper : entry.Proper) (hline : line ∈ entry.lines)
    (h : Labelled "Odin struct: " line) :
    ∃ name ∈ entry.records, line = lead ++ "Odin struct: " ++ name := by
  obtain ⟨text, rfl, hlabel, htells⟩ := tells_of_labelled hline h
  rcases htells with ⟨c, hc, rfl⟩ | ⟨name, hname, rfl⟩ | ⟨c, -, rfl⟩ | ⟨other, hother, rest, rfl⟩
  · obtain ⟨x, hx⟩ := hproper.attrs c hc
    simp [Constant.mention, hx] at hlabel
  · exact ⟨name, hname, String.append_assoc.symm⟩
  · simp at hlabel
  · exact absurd hlabel (not_prefix_other hother (by simp))

theorem slot_of_labelled (hproper : entry.Proper) (hline : line ∈ entry.lines)
    (h : Labelled "Bind slot: " line) :
    ∃ c ∈ entry.slots, line = lead ++ "Bind slot: " ++ c.mention := by
  obtain ⟨text, rfl, hlabel, htells⟩ := tells_of_labelled hline h
  rcases htells with ⟨c, hc, rfl⟩ | ⟨name, -, rfl⟩ | ⟨c, hc, rfl⟩ | ⟨other, hother, rest, rfl⟩
  · obtain ⟨x, hx⟩ := hproper.attrs c hc
    simp [Constant.mention, hx] at hlabel
  · simp at hlabel
  · exact ⟨c, hc, String.append_assoc.symm⟩
  · exact absurd hlabel (not_prefix_other hother (by simp))

end Entry

/-! ## Entries of programs -/

variable {namePrefix : String} {b : BackendOutput} {p : Program} {entry : Entry}

/-- An entry about the resources of a stage is about one that is bound, or about a pair. -/
theorem mem_resources {r : StageReflection} : entry ∈ resources namePrefix r ↔
    (∃ slot u, (slot, u) ∈ r.occupied UniformBlock ∧ entry =
      .block u.structName (u.recordName namePrefix) (u.slotConstant namePrefix)) ∨
    (∃ slot i, (slot, i) ∈ r.occupied Image ∧ entry = .image i.name (imageTag i.type)
      (imageSampleTag i.sampleType) i.multisampled (.slot namePrefix i.name i.slot)) ∨
    (∃ slot s, (slot, s) ∈ r.occupied Sampler ∧ entry =
      .sampler s.name (samplerTag s.type) (.slot namePrefix s.name s.slot)) ∨
    ∃ slot q, (slot, q) ∈ r.occupied ImageSampler ∧
      entry = .pair q.name q.imageName q.samplerName := by
  unfold resources
  simp only [List.mem_append, List.mem_map, Prod.exists, or_assoc, eq_comm]

theorem proper_attributes (snippet : String) (r : StageReflection) :
    (attributes namePrefix snippet r).Proper where
  attrs := by
    intro c hc
    obtain ⟨sa, -, rfl⟩ := List.mem_map.mp hc
    refine ⟨namePrefix ++ snippet ++ "_" ++ sa.2.name, ?_⟩
    simp only [Attr.constant, String.append_assoc]
  slots := by
    intro c hc
    simp [attributes, Entry.slots] at hc

theorem proper_of_mem_resources {r : StageReflection} (h : entry ∈ resources namePrefix r) :
    entry.Proper := by
  rcases mem_resources.mp h with ⟨slot, u, -, rfl⟩ | ⟨slot, i, -, rfl⟩ | ⟨slot, s, -, rfl⟩ |
    ⟨slot, q, -, rfl⟩
  · refine ⟨by simp [Entry.attrs], fun c hc => ?_⟩
    obtain rfl := List.mem_singleton.mp hc
    exact ⟨namePrefix ++ u.structName, String.append_assoc⟩
  · refine ⟨by simp [Entry.attrs], fun c hc => ?_⟩
    obtain rfl := List.mem_singleton.mp hc
    exact ⟨namePrefix ++ i.name, String.append_assoc⟩
  · refine ⟨by simp [Entry.attrs], fun c hc => ?_⟩
    obtain rfl := List.mem_singleton.mp hc
    exact ⟨namePrefix ++ s.name, String.append_assoc⟩
  · exact ⟨by simp [Entry.attrs], by simp [Entry.slots]⟩

theorem ofProgram_eq_ok {e : ProgramEntry} : ofProgram namePrefix b p = .ok e ↔
    ∃ vs fs, b.source? p.vsName = some vs ∧ b.source? p.fsName = some fs ∧
      e = ⟨p, attributes namePrefix p.vsName vs.reflection :: resources namePrefix vs.reflection,
        resources namePrefix fs.reflection⟩ := by
  unfold ofProgram
  cases b.source? p.vsName with
  | none => simp
  | some vs =>
    cases b.source? p.fsName with
    | none => simp
    | some fs => simp [eq_comm]

end Overview

/-- All entries of a header. -/
def Header.entries (h : Header) : List Overview.Entry :=
  h.programs.flatMap fun e => e.vertex ++ e.fragment

namespace Header

open Overview

variable {inp : ShaderInput} {b : BackendOutput} {version : Setting Int} {cmdline : String}
  {header : Header} {entry : Overview.Entry}

/-- An entry is about the attributes of what a program uses as its vertex shader, or about the
resources of one of its stages. -/
theorem entry_cases (h : Header.ofInput inp b version cmdline = .ok header)
    (hentry : entry ∈ header.entries) :
    ∃ p ∈ inp.programs, ∃ (stage : ProgramStage) (source : StageSource),
      b.source? (p.snippet stage) = some source ∧
      (stage = .vertex ∧ entry = attributes inp.namePrefix (p.snippet stage) source.reflection ∨
        entry ∈ resources inp.namePrefix source.reflection) := by
  unfold Header.ofInput at h
  obtain ⟨programs, hprograms, h⟩ := bind_eq_ok.mp h
  obtain rfl := pure_eq_ok.mp h
  obtain ⟨e, he, hentry⟩ := List.mem_flatMap.mp hentry
  obtain ⟨p, hp, hofProgram⟩ := exists_of_forall₂_right (mapM_eq_ok.mp hprograms) he
  obtain ⟨vs, fs, hvs, hfs, rfl⟩ := ofProgram_eq_ok.mp hofProgram
  refine ⟨p, ShaderInput.mem_sortedPrograms.mp hp, ?_⟩
  rcases List.mem_append.mp hentry with hentry | hentry
  · rcases List.mem_cons.mp hentry with rfl | hentry
    · exact ⟨.vertex, vs, hvs, .inl ⟨rfl, rfl⟩⟩
    · exact ⟨.vertex, vs, hvs, .inr hentry⟩
  · exact ⟨.fragment, fs, hfs, .inr hentry⟩

theorem proper_of_mem_entries (h : Header.ofInput inp b version cmdline = .ok header)
    (hentry : entry ∈ header.entries) : entry.Proper := by
  obtain ⟨p, -, stage, source, -, ⟨-, rfl⟩ | hentry⟩ := entry_cases h hentry
  · exact proper_attributes _ _
  · exact proper_of_mem_resources hentry

/-- Labelled lines are lines of entries: all others are set in less. -/
theorem entry_of_labelled {label line : String} (hline : line ∈ header.lines)
    (h : Labelled label line) : ∃ entry ∈ header.entries, line ∈ entry.lines := by
  have hlead : lead.toList <+: line.toList := by
    unfold Labelled at h
    rw [String.toList_append] at h
    exact (List.prefix_append _ _).trans h
  unfold Header.lines ProgramEntry.lines at hline
  simp only [List.mem_append, List.mem_cons, List.not_mem_nil, or_false, List.mem_flatMap] at hline
  rcases hline with (hline | ⟨e, he, hline⟩) | rfl
  · rcases hline with rfl | rfl | rfl | rfl | rfl | rfl | rfl | rfl | rfl <;>
      simp [lead, Overview.Entry.indent] at hlead
  · rcases hline with
      (((( rfl | rfl | rfl) | ⟨entry, hentry, hline⟩) | rfl) | ⟨entry, hentry, hline⟩) | rfl
    · simp [lead, Overview.Entry.indent] at hlead
    · simp [lead, Overview.Entry.indent] at hlead
    · simp [lead, Overview.Entry.indent] at hlead
    · exact ⟨entry, List.mem_flatMap.mpr ⟨e, he, List.mem_append_left _ hentry⟩, hline⟩
    · simp [lead, Overview.Entry.indent] at hlead
    · exact ⟨entry, List.mem_flatMap.mpr ⟨e, he, List.mem_append_right _ hentry⟩, hline⟩
    · simp [lead, Overview.Entry.indent] at hlead
  · simp [lead, Overview.Entry.indent] at hlead

end Header

/-! ## Declarations -/

/-- Every program has as its vertex shader what is declared as a vertex shader. -/
def ShaderInput.DeclaresVertexShaders (inp : ShaderInput) : Prop :=
  ∀ p ∈ inp.programs, ∃ s ∈ inp.shaders, s.name = p.snippet .vertex ∧
    s.stage = ProgramStage.vertex.tag

namespace Module

open Overview

/-- Lines of the overview that give a constant of some kind, under a label, have its declaration. -/
def DeclaresConstants (m : Module) (label kind : String) : Prop :=
  ∀ line ∈ m.header.lines, Labelled (label ++ kind) line → ∃ x n,
    line = lead ++ label ++ (Constant.mk (kind ++ x) n).mention ∧
      (Constant.mk (kind ++ x) n).line ∈ m.lines

/-- Lines of the overview that name a record have its declaration. -/
def DeclaresRecords (m : Module) : Prop :=
  ∀ line ∈ m.header.lines, Labelled "Odin struct: " line → ∃ name,
    line = lead ++ "Odin struct: " ++ name ∧ (name ++ " :: struct \x7b") ∈ m.lines

/-- The constants that a module declares. -/
def constants (m : Module) : List Constant :=
  m.attrs ++ m.images ++ m.samplers ++ m.blocks.map Prod.fst

variable {inp : ShaderInput} {backends : Backends} {settings : Settings} {slangs : List Slang}
  {b : BackendOutput} {m : Module} {entry : Overview.Entry}

theorem constant_mem_lines {c : Constant} (h : c ∈ m.constants) : c.line ∈ m.lines := by
  have hshared : c.line ∈ m.sharedLines := by
    unfold sharedLines
    simp only [constants, List.mem_append] at h
    simp only [List.mem_append]
    rcases h with ((h | h) | h) | h
    · exact .inl (.inl (.inl (.inr (List.mem_map_of_mem h))))
    · exact .inl (.inl (.inr (List.mem_map_of_mem h)))
    · exact .inl (.inr (List.mem_map_of_mem h))
    · obtain ⟨block, hblock, rfl⟩ := List.mem_map.mp h
      exact .inr (List.mem_flatMap.mpr ⟨block, hblock, List.mem_cons_self⟩)
  unfold lines
  simp only [List.mem_append]
  exact .inl (.inl hshared)

theorem record_mem_lines {slot : Constant} {record : Record} (h : (slot, record) ∈ m.blocks) :
    (record.name ++ " :: struct \x7b") ∈ m.lines := by
  have hshared : (record.name ++ " :: struct \x7b") ∈ m.sharedLines := by
    unfold sharedLines
    simp only [List.mem_append]
    refine .inr (List.mem_flatMap.mpr ⟨(slot, record), h, ?_⟩)
    exact List.mem_cons_of_mem _ List.mem_cons_self
  unfold lines
  simp only [List.mem_append]
  exact .inl (.inl hshared)

theorem mem_attrConstants {constants : List Constant} (h : attrConstants inp b = .ok constants)
    {s : Snippet} (hs : s ∈ inp.shaders) (hstage : s.stage = ProgramStage.vertex.tag)
    {source : StageSource} (hsource : b.source? s.name = some source) {slot : Nat} {a : Attr}
    (ha : (slot, a) ∈ source.reflection.occupied Attr) :
    a.constant inp.namePrefix s.name slot ∈ constants := by
  unfold attrConstants at h
  obtain ⟨parts, hparts, h⟩ := bind_eq_ok.mp h
  obtain rfl := pure_eq_ok.mp h
  have hvertex : s ∈ inp.shaders.filter (·.stage == ProgramStage.vertex.tag) :=
    List.mem_filter.mpr ⟨hs, by simp [hstage]⟩
  obtain ⟨part, hpart, hok⟩ := exists_of_forall₂_left (mapM_eq_ok.mp hparts) hvertex
  rw [hsource] at hok
  obtain rfl := Except.ok.inj hok
  exact List.mem_flatten.mpr ⟨_, hpart, List.mem_map.mpr ⟨(slot, a), ha, rfl⟩⟩

/-- The slot of a resource that is bound in an embedded shader is that of a shared one. -/
theorem slot_mem_shared {α : Type} [Resource α] (namePrefix : String)
    (hagree : ShaderBindings.SlotsAgree α inp b) {s : Snippet} (hs : s ∈ inp.shaders)
    {source : StageSource} (hsource : b.source? s.name = some source) {slot : Nat} {a : α}
    (ha : (slot, a) ∈ source.reflection.occupied α) :
    Constant.slot namePrefix (Resource.name a) (Resource.slot a) ∈
      (sharedResources α inp b).map fun c =>
        Constant.slot namePrefix (Resource.name c) (Resource.slot c) := by
  obtain ⟨c, hc, hname, hslot⟩ := exists_sharedResource hagree hs hsource ha
  refine List.mem_map.mpr ⟨c, hc, ?_⟩
  rw [hname, hslot]

theorem record_declared (h : AssembledFrom inp backends settings slangs b m)
    (hagree : b.SlotsAgree inp) {s : Snippet} (hs : s ∈ inp.shaders) {source : StageSource}
    (hsource : b.source? s.name = some source) {slot : Nat} {u : UniformBlock}
    (hu : (slot, u) ∈ source.reflection.occupied UniformBlock) :
    (u.recordName inp.namePrefix ++ " :: struct \x7b") ∈ m.lines := by
  obtain ⟨c, hc, hname, -⟩ := exists_sharedResource hagree.blocks hs hsource hu
  have hblock : (c.slotConstant inp.namePrefix, c.record inp.namePrefix settings.hosts) ∈
      m.blocks := by
    rw [h.blocks]
    unfold blocksOf
    exact List.mem_map.mpr ⟨c, hc, rfl⟩
  have hrecord : u.recordName inp.namePrefix = c.recordName inp.namePrefix := by
    change c.structName = u.structName at hname
    unfold UniformBlock.recordName
    rw [hname]
  have hdeclared := record_mem_lines hblock
  unfold UniformBlock.record at hdeclared
  rw [hrecord]
  exact hdeclared

/-- The slots and records of what is bound in an embedded shader are declared. -/
theorem declares_of_resources (h : AssembledFrom inp backends settings slangs b m)
    (hagree : b.SlotsAgree inp) {s : Snippet} (hs : s ∈ inp.shaders) {source : StageSource}
    (hsource : b.source? s.name = some source)
    (hentry : entry ∈ resources inp.namePrefix source.reflection) :
    (∀ c ∈ entry.slots, c ∈ m.constants) ∧
    ∀ name ∈ entry.records, (name ++ " :: struct \x7b") ∈ m.lines := by
  simp only [constants, List.mem_append, h.images, h.samplers, h.blocks]
  rcases mem_resources.mp hentry with ⟨slot, u, hu, rfl⟩ | ⟨slot, i, hi, rfl⟩ | ⟨slot, t, ht, rfl⟩ |
    ⟨slot, q, -, rfl⟩
  · constructor
    · intro c hc
      obtain rfl := List.mem_singleton.mp hc
      have hslot := slot_mem_shared inp.namePrefix hagree.blocks hs hsource hu
      refine .inr ?_
      unfold blocksOf
      rw [List.map_map]
      exact hslot
    · intro name hname
      obtain rfl := List.mem_singleton.mp hname
      exact record_declared h hagree hs hsource hu
  · refine ⟨fun c hc => ?_, fun name hname => absurd hname List.not_mem_nil⟩
    obtain rfl := List.mem_singleton.mp hc
    exact .inl (.inl (.inr (slot_mem_shared inp.namePrefix hagree.images hs hsource hi)))
  · refine ⟨fun c hc => ?_, fun name hname => absurd hname List.not_mem_nil⟩
    obtain rfl := List.mem_singleton.mp hc
    exact .inl (.inr (slot_mem_shared inp.namePrefix hagree.samplers hs hsource ht))
  · exact ⟨fun c hc => absurd hc List.not_mem_nil, fun name hname => absurd hname List.not_mem_nil⟩

/-- Where programs use embedded shaders, an entry about resources is about those of one. -/
theorem declares_of_entry (h : AssembledFrom inp backends settings slangs b m)
    (hembeds : inp.EmbedsPrograms) (hagree : b.SlotsAgree inp) (hentry : entry ∈ m.header.entries) :
    (∀ c ∈ entry.slots, c ∈ m.constants) ∧
    ∀ name ∈ entry.records, (name ++ " :: struct \x7b") ∈ m.lines := by
  obtain ⟨p, hp, stage, source, hsource, ⟨-, rfl⟩ | hentry⟩ := Header.entry_cases h.header hentry
  · exact ⟨fun c hc => absurd hc List.not_mem_nil, fun name hname => absurd hname List.not_mem_nil⟩
  · obtain ⟨s, hs, hname⟩ := hembeds p hp stage
    rw [← hname] at hsource
    exact declares_of_resources h hagree hs hsource hentry

/-- The attributes of what is declared and used as a vertex shader are declared. -/
theorem attrs_declared (h : AssembledFrom inp backends settings slangs b m)
    (hvertex : inp.DeclaresVertexShaders) (hentry : entry ∈ m.header.entries) :
    ∀ c ∈ entry.attrs, c ∈ m.constants := by
  intro c hc
  obtain ⟨p, hp, stage, source, hsource, ⟨rfl, rfl⟩ | hentry⟩ := Header.entry_cases h.header hentry
  · obtain ⟨s, hs, hname, hstage⟩ := hvertex p hp
    obtain ⟨⟨slot, a⟩, ha, rfl⟩ := List.mem_map.mp hc
    rw [← hname] at hsource ⊢
    have hmem := mem_attrConstants h.attrs hs hstage hsource ha
    simp only [constants, List.mem_append]
    exact .inl (.inl (.inl hmem))
  · rcases mem_resources.mp hentry with ⟨slot, u, -, rfl⟩ | ⟨slot, i, -, rfl⟩ | ⟨slot, t, -, rfl⟩ |
      ⟨slot, q, -, rfl⟩ <;> exact absurd hc List.not_mem_nil

/-! ## The overview of a module -/

theorem declaresSlots (h : AssembledFrom inp backends settings slangs b m)
    (hembeds : inp.EmbedsPrograms) (hagree : b.SlotsAgree inp) :
    m.DeclaresConstants "Bind slot: " "SLOT_" := by
  intro line hline hlabelled
  have hlabel : Labelled "Bind slot: " line := by
    unfold Labelled at hlabelled ⊢
    rw [← String.append_assoc, String.toList_append] at hlabelled
    exact (List.prefix_append _ _).trans hlabelled
  obtain ⟨entry, hentry, hmem⟩ := Header.entry_of_labelled hline hlabel
  have hproper := Header.proper_of_mem_entries h.header hentry
  obtain ⟨⟨name, n⟩, hc, rfl⟩ := Overview.Entry.slot_of_labelled hproper hmem hlabel
  obtain ⟨x, rfl⟩ := hproper.slots _ hc
  exact ⟨x, n, rfl, constant_mem_lines ((declares_of_entry h hembeds hagree hentry).1 _ hc)⟩

theorem declaresRecords (h : AssembledFrom inp backends settings slangs b m)
    (hembeds : inp.EmbedsPrograms) (hagree : b.SlotsAgree inp) : m.DeclaresRecords := by
  intro line hline hlabel
  obtain ⟨entry, hentry, hmem⟩ := Header.entry_of_labelled hline hlabel
  obtain ⟨name, hname, rfl⟩ := Overview.Entry.record_of_labelled
    (Header.proper_of_mem_entries h.header hentry) hmem hlabel
  exact ⟨name, rfl, (declares_of_entry h hembeds hagree hentry).2 name hname⟩

theorem declaresAttrs (h : AssembledFrom inp backends settings slangs b m)
    (hvertex : inp.DeclaresVertexShaders) : m.DeclaresConstants "" "ATTR_" := by
  intro line hline hlabel
  obtain ⟨entry, hentry, hmem⟩ := Header.entry_of_labelled hline hlabel
  obtain ⟨⟨name, n⟩, hc, rfl⟩ := Overview.Entry.attr_of_labelled hmem hlabel
  obtain ⟨x, rfl⟩ := (Header.proper_of_mem_entries h.header hentry).attrs _ hc
  refine ⟨x, n, ?_, constant_mem_lines (attrs_declared h hvertex hentry _ hc)⟩
  rw [String.append_empty]

/-- What the overview says about slots and records is declared, if programs use embedded shaders
only and resources of one name share a slot in the output that the overview is written from. What
it says about attributes is declared, if what programs use as vertex shaders is declared so. -/
theorem overview_declared {first : Slang} (h : assemble inp backends settings = .ok m)
    (hfirst : (Slang.inOrder settings.slangs).head? = some first)
    (hb : backends.get? first.name = some b) (hembeds : inp.EmbedsPrograms)
    (hagree : b.SlotsAgree inp) :
    m.DeclaresConstants "Bind slot: " "SLOT_" ∧ m.DeclaresRecords ∧
      (inp.DeclaresVertexShaders → m.DeclaresConstants "" "ATTR_") := by
  obtain ⟨-, other, c, hother, hc, hm⟩ := assembledFrom_of_assemble h
  rw [hfirst] at hother
  obtain rfl := Option.some.inj hother
  rw [hb] at hc
  obtain rfl := Option.some.inj hc
  exact ⟨declaresSlots hm hembeds hagree, declaresRecords hm hembeds hagree,
    fun hvertex => declaresAttrs hm hvertex⟩

/-! ## A program with an attribute -/

/-- The output for a program whose vertex shader has an attribute, and blocks besides. -/
def attributeOutput (blocks : List UniformBlock) : BackendOutput where
  slang := wgsl
  sources :=
    [⟨"v", "v", {
      stage := "vs"
      inputs := [⟨0, "pos", "TEXCOORD", 0⟩]
      uniformBlocks := blocks }⟩,
     ⟨"f", "f", { stage := "fs" }⟩]

/-- The program, with its vertex shader declared as one or as a fragment shader. -/
def attributeInput (stage : ProgramStage) : ShaderInput :=
  pairInput [⟨"v", stage.tag⟩, ⟨"f", "fs"⟩]

theorem attributeInput_embedsPrograms (stage : ProgramStage) :
    (attributeInput stage).EmbedsPrograms := by
  intro p hp s
  obtain rfl := List.mem_singleton.mp hp
  cases stage <;> cases s
  · exact ⟨⟨"v", "vs"⟩, by decide, rfl⟩
  · exact ⟨⟨"f", "fs"⟩, by decide, rfl⟩
  · exact ⟨⟨"v", "fs"⟩, by decide, rfl⟩
  · exact ⟨⟨"f", "fs"⟩, by decide, rfl⟩

/-- With its vertex shader declared as one, all that the overview says is declared. -/
theorem attribute_declared : ∃ m,
    assemble (attributeInput .vertex)
      [("wgsl", attributeOutput [⟨1, 16, "params", "", [], false⟩])] pairSettings = .ok m ∧
    m.DeclaresConstants "Bind slot: " "SLOT_" ∧ m.DeclaresRecords ∧
    m.DeclaresConstants "" "ATTR_" := by
  have hok : (assemble (attributeInput .vertex)
      [("wgsl", attributeOutput [⟨1, 16, "params", "", [], false⟩])] pairSettings).toBool =
        true := by decide +kernel
  obtain ⟨m, hm⟩ := exists_eq_ok_of_toBool hok
  have hfirst : (Slang.inOrder pairSettings.slangs).head? = some wgsl := by decide +kernel
  obtain ⟨hslots, hrecords, hattrs⟩ := overview_declared hm hfirst rfl
    (attributeInput_embedsPrograms .vertex) ⟨by decide, by decide, by decide⟩
  refine ⟨m, hm, hslots, hrecords, hattrs fun p hp => ?_⟩
  obtain rfl := List.mem_singleton.mp hp
  exact ⟨⟨"v", "vs"⟩, by decide, rfl, rfl⟩

/-- With the vertex shader declared as a fragment shader the module is assembled all the same, and
its overview gives the constant of an attribute that is not declared. -/
theorem misdeclared_attribute_not_declared : ∃ m,
    assemble (attributeInput .fragment) [("wgsl", attributeOutput [])] pairSettings = .ok m ∧
    (Slang.inOrder pairSettings.slangs).head? = some wgsl ∧
    (attributeInput .fragment).EmbedsPrograms ∧
    (attributeOutput []).SlotsAgree (attributeInput .fragment) ∧
    lead ++ "ATTR_v_pos = 0" ∈ m.header.lines ∧ ¬ m.DeclaresConstants "" "ATTR_" := by
  have hok : (fun m : Module => decide (lead ++ "ATTR_v_pos = 0" ∈ m.header.lines ∧
        ∀ line ∈ m.lines, ¬ "ATTR_".toList <+: line.toList)) <$>
      assemble (attributeInput .fragment) [("wgsl", attributeOutput [])] pairSettings =
        .ok true := by
    decide +kernel
  obtain ⟨m, hm, hlines⟩ := map_eq_ok.mp hok
  obtain ⟨hmention, hnone⟩ := of_decide_eq_true hlines.symm
  refine ⟨m, hm, by decide +kernel, attributeInput_embedsPrograms .fragment,
    ⟨by decide, by decide, by decide⟩, hmention, fun hdeclares => ?_⟩
  have hlabelled : Labelled ("" ++ "ATTR_") (lead ++ "ATTR_v_pos = 0") := by
    unfold Labelled
    decide
  obtain ⟨x, n, -, hline⟩ := hdeclares _ hmention hlabelled
  refine hnone _ hline ?_
  simp [Constant.line]

end Module

end ShaderBindings
