/-
  The comment at the head of a module. What it says about programs is made of names, numbers and
  tags, and none of these has a star in it (`starless_ofProgram`). So the comment ends with its
  last line, unless the command line that it repeats has marks of comments in it
  (`isWhole_text_iff`), and the lines behind it are outside of it in every module that has it
  (`behind?_source_iff`). Names are taken to be identifiers (`ShaderInput.WellNamed`,
  `BackendOutput.WellNamed`); a shader compiler has no others.
-/
import ShaderBindings.Proofs.Comment
import ShaderBindings.Proofs.Identifier
import ShaderBindings.Proofs.Module.Overview
import ShaderBindings.Proofs.Run.Configured

namespace ShaderBindings

open Fallible

/-! ## Texts without stars -/

/-- A text without a star has no mark of a comment in it. -/
def Starless (s : String) : Prop := '*' ∉ s.toList

instance : DecidablePred Starless := fun s => inferInstanceAs (Decidable ('*' ∉ s.toList))

@[simp] theorem starless_append {s t : String} : Starless (s ++ t) ↔ Starless s ∧ Starless t := by
  simp [Starless]

@[simp] theorem starless_numeral (n : Int) : Starless (Text.numeral n) := fun h => by
  rcases Text.mem_numeral h with h | h <;> exact absurd h (by decide)

@[simp] theorem starless_mention {c : Constant} : Starless c.mention ↔ Starless c.name := by
  have hsign : Starless " = " := by decide
  simp [Constant.mention, hsign]

@[simp] theorem starless_slot {namePrefix name : String} {n : Int} :
    Starless (Constant.slot namePrefix name n).name ↔ Starless namePrefix ∧ Starless name := by
  have hkind : Starless "SLOT_" := by decide
  simp [Constant.slot, hkind]

@[simp] theorem starless_flagText (b : Bool) : Starless (Desc.flagText b) := by
  cases b <;> decide

/-- A tag from a table without stars has none. -/
theorem Tag.starless_ofOption {table : List (String × String)} (h : ∀ e ∈ table, Starless e.2)
    (name : String) : Starless (Tag.ofOption (table.lookup name)).text := by
  cases hlookup : table.lookup name with
  | none => decide
  | some tag =>
    obtain ⟨before, after, htable, -⟩ := List.lookup_eq_some_iff.mp hlookup
    exact h (name, tag) (by simp [htable])

theorem starless_imageTag (name : String) : Starless (imageTag name).text :=
  Tag.starless_ofOption (by decide) name

theorem starless_imageSampleTag (name : String) : Starless (imageSampleTag name).text :=
  Tag.starless_ofOption (by decide) name

theorem starless_samplerTag (name : String) : Starless (samplerTag name).text :=
  Tag.starless_ofOption (by decide) name

/-! ## Names -/

def Program.names (p : Program) : List String := [p.name, p.vsName, p.fsName]

/-- The names of all that a stage declares, and those that its pairs refer to. -/
def StageReflection.names (r : StageReflection) : List String :=
  r.inputs.map Attr.name ++ r.uniformBlocks.map UniformBlock.structName ++ r.images.map Image.name
    ++ r.samplers.map Sampler.name
    ++ r.imageSamplers.flatMap fun q => [q.name, q.imageName, q.samplerName]

/-- The name of the module, if it has one, is one that a module may have, and those of programs
and of their snippets are identifiers. -/
structure ShaderInput.WellNamed (inp : ShaderInput) : Prop where
  module : inp.module.truthy = true → ∃ name, inp.module = .text name ∧ isModuleName name = true
  programs : ∀ p ∈ inp.programs, ∀ name ∈ p.names, isIdentifier name.toList = true

/-- Names in the reflection of every source are identifiers. -/
def BackendOutput.WellNamed (b : BackendOutput) : Prop :=
  ∀ source ∈ b.sources, ∀ name ∈ source.reflection.names, isIdentifier name.toList = true

instance (b : BackendOutput) : Decidable b.WellNamed :=
  inferInstanceAs (Decidable (∀ source ∈ b.sources, ∀ name ∈ source.reflection.names,
    isIdentifier name.toList = true))

theorem ShaderInput.WellNamed.starless_namePrefix {inp : ShaderInput} (h : inp.WellNamed) :
    Starless inp.namePrefix := by
  unfold namePrefix
  split
  · next hmodule =>
    obtain ⟨name, hname, hgood⟩ := h.module hmodule
    rw [hname, Json.display_text]
    exact starless_append.mpr ⟨star_not_mem_of_isModuleName hgood, by decide⟩
  · decide

/-! ## Entries -/

namespace Overview

namespace Entry

/-- The texts in an entry that are given to it. -/
def texts : Entry → List String
  | attributes slots => slots.map Constant.name
  | block name recordName slot => [name, recordName, slot.name]
  | image name type sampleType _ slot => [name, type.text, sampleType.text, slot.name]
  | sampler name type slot => [name, type.text, slot.name]
  | pair name imageName samplerName => [name, imageName, samplerName]

theorem starless_headed {heading : String} {below : List String} (hheading : Starless heading)
    (hbelow : ∀ text ∈ below, Starless text) : ∀ line ∈ headed heading below, Starless line := by
  have hindent : Starless indent := by decide
  have hdeeper : Starless "    " := by decide
  intro line hline
  rcases List.mem_cons.mp hline with rfl | hline
  · exact starless_append.mpr ⟨hindent, hheading⟩
  · obtain ⟨text, htext, rfl⟩ := List.mem_map.mp hline
    simp [hindent, hdeeper, hbelow text htext]

/-- An entry adds no stars to what it is given. -/
theorem starless_lines {entry : Entry} (h : ∀ text ∈ entry.texts, Starless text) :
    ∀ line ∈ entry.lines, Starless line := by
  cases entry with
  | attributes slots =>
    refine starless_headed (by decide) fun text htext => ?_
    obtain ⟨c, hc, rfl⟩ := List.mem_map.mp htext
    exact starless_mention.mpr (h c.name (List.mem_map_of_mem hc))
  | _ =>
    simp only [texts, List.forall_mem_cons] at h
    refine starless_headed ?_ ?_ <;> simp [h] <;> decide

end Entry

variable {namePrefix : String} {r : StageReflection} {entry : Entry}

theorem starless_of_mem_attributes {snippet : String} (hstart : Starless namePrefix)
    (hsnippet : Starless snippet) (hnames : ∀ name ∈ r.names, Starless name) :
    ∀ text ∈ (attributes namePrefix snippet r).texts, Starless text := by
  unfold StageReflection.names at hnames
  simp only [List.forall_mem_append, List.forall_mem_map] at hnames
  obtain ⟨⟨⟨⟨hnames, -⟩, -⟩, -⟩, -⟩ := hnames
  intro text htext
  obtain ⟨c, hc, rfl⟩ := List.mem_map.mp htext
  obtain ⟨⟨slot, a⟩, ha, rfl⟩ := List.mem_map.mp hc
  have hmem := StageReflection.mem_declared_of_mem_occupied ha
  have hname := hnames a hmem
  have hkind : Starless "ATTR_" ∧ Starless "_" := by decide
  simp [Attr.constant, hstart, hsnippet, hname, hkind]

theorem starless_of_mem_resources (hstart : Starless namePrefix)
    (hnames : ∀ name ∈ r.names, Starless name) (hentry : entry ∈ resources namePrefix r) :
    ∀ text ∈ entry.texts, Starless text := by
  unfold StageReflection.names at hnames
  simp only [List.forall_mem_append, List.forall_mem_map] at hnames
  obtain ⟨⟨⟨⟨-, hblocks⟩, himages⟩, hsamplers⟩, hpairs⟩ := hnames
  rcases mem_resources.mp hentry with ⟨slot, u, hu, rfl⟩ | ⟨slot, i, hi, rfl⟩ | ⟨slot, s, hs, rfl⟩ |
    ⟨slot, q, hq, rfl⟩
  · have hname := hblocks u (StageReflection.mem_declared_of_mem_occupied hu)
    have hrecord : Starless (u.recordName namePrefix) :=
      star_not_mem_adaCase (starless_append.mpr ⟨hstart, hname⟩)
    simp [Entry.texts, UniformBlock.slotConstant, hname, hrecord, hstart]
  · have hname := himages i (StageReflection.mem_declared_of_mem_occupied hi)
    simp [Entry.texts, hname, hstart, starless_imageTag, starless_imageSampleTag]
  · have hname := hsamplers s (StageReflection.mem_declared_of_mem_occupied hs)
    simp [Entry.texts, hname, hstart, starless_samplerTag]
  · have hmem := StageReflection.mem_declared_of_mem_occupied hq
    exact fun text htext => hpairs text (List.mem_flatMap.mpr ⟨q, hmem, htext⟩)

/-! ## Headers -/

variable {inp : ShaderInput} {b : BackendOutput} {p : Program} {e : ProgramEntry}

/-- The lines about a program are as free of stars as its names. -/
theorem starless_ofProgram (hinp : inp.WellNamed) (hb : b.WellNamed) (hp : p ∈ inp.programs)
    (h : ofProgram inp.namePrefix b p = .ok e) :
    ∀ line ∈ e.lines inp.namePrefix, Starless line := by
  obtain ⟨vs, fs, hvs, hfs, rfl⟩ := ofProgram_eq_ok.mp h
  have hstart := hinp.starless_namePrefix
  have hprogram : ∀ name ∈ p.names, Starless name := fun name hname =>
    star_not_mem_of_isIdentifier (hinp.programs p hp name hname)
  simp only [Program.names, List.forall_mem_cons] at hprogram
  obtain ⟨hname, hvsName, hfsName, -⟩ := hprogram
  have hnames {source : StageSource} {snippet : String}
      (hsource : b.source? snippet = some source) :
      ∀ name ∈ source.reflection.names, Starless name := fun name hname =>
    star_not_mem_of_isIdentifier (hb source (List.mem_of_find?_eq_some hsource) name hname)
  have hresources {source : StageSource} {snippet : String}
      (hsource : b.source? snippet = some source) :
      ∀ entry ∈ resources inp.namePrefix source.reflection, ∀ line ∈ entry.lines, Starless line :=
    fun entry hentry =>
      Entry.starless_lines (starless_of_mem_resources hstart (hnames hsource) hentry)
  have hattributes := Entry.starless_lines
    (starless_of_mem_attributes hstart hvsName (hnames hvs))
  unfold ProgramEntry.lines procedureName
  simp only [List.forall_mem_append, List.forall_mem_cons, List.forall_mem_flatMap,
    List.not_mem_nil, false_implies, implies_true, and_true, starless_append, hname, hvsName,
    hfsName, hstart]
  exact ⟨⟨⟨⟨by decide, hattributes, hresources hvs⟩, by decide⟩, hresources hfs⟩, by decide⟩

end Overview

namespace Header

/-- The text of a header. -/
def text (h : Header) : String := "\n".intercalate h.lines

/-- The lines of a header above the command line, without the opening mark. -/
def above (h : Header) : List String :=
  ["    #version:" ++ h.version.text Text.numeral ++ "# (machine generated, don't edit!)",
   "",
   "    Generated by " ++ generatorName,
   ""]

/-- The lines below the command line, without the closing mark. -/
def below (h : Header) : List String :=
  ["", "    Overview:", ""] ++ h.programs.flatMap (Overview.ProgramEntry.lines h.namePrefix)

theorem lines_eq (h : Header) : h.lines =
    "/*" :: (h.above ++ ("    Cmdline: " ++ h.cmdline) :: (h.below ++ ["*/"])) := by
  simp [lines, above, below]

theorem starless_above (h : Header) : ∀ line ∈ h.above, Starless line := by
  have hversion : Starless (h.version.text Text.numeral) := by
    cases h.version with
    | blank => decide
    | value n => exact starless_numeral n
  unfold above
  simp only [List.forall_mem_cons, starless_append, hversion]
  exact ⟨by decide, by decide, by decide, by decide, by simp⟩

variable {inp : ShaderInput} {b : BackendOutput} {version : Setting Int} {cmdline : String}
  {header : Header}

theorem starless_below (hinp : inp.WellNamed) (hb : b.WellNamed)
    (h : Header.ofInput inp b version cmdline = .ok header) :
    ∀ line ∈ header.below, Starless line := by
  unfold Header.ofInput at h
  obtain ⟨programs, hprograms, h⟩ := bind_eq_ok.mp h
  obtain rfl := pure_eq_ok.mp h
  unfold below
  rw [List.forall_mem_append, List.forall_mem_flatMap]
  refine ⟨by decide, fun e he => ?_⟩
  obtain ⟨p, hp, hofProgram⟩ := exists_of_forall₂_right (mapM_eq_ok.mp hprograms) he
  exact Overview.starless_ofProgram hinp hb (ShaderInput.mem_sortedPrograms.mp hp) hofProgram

theorem cmdline_eq (h : Header.ofInput inp b version cmdline = .ok header) :
    header.cmdline = cmdline := by
  unfold Header.ofInput at h
  obtain ⟨programs, -, h⟩ := bind_eq_ok.mp h
  obtain rfl := pure_eq_ok.mp h
  rfl

/-- The header is one comment exactly if the command line opens and closes comments of its own
only. -/
theorem isWhole_text_iff (hinp : inp.WellNamed) (hb : b.WellNamed)
    (h : Header.ofInput inp b version cmdline = .ok header) :
    Comment.IsWhole header.text ↔ Comment.Balanced cmdline := by
  have hneutral {lines : List String} (hlines : ∀ line ∈ lines, Starless line) :
      ∀ line ∈ lines, Comment.Neutral line.toList := fun line hline =>
    Comment.neutral_of_star_not_mem (hlines line hline)
  unfold text
  rw [lines_eq, Comment.isWhole_lines_iff (hneutral header.starless_above)
    (hneutral (starless_below hinp hb h)), cmdline_eq h]
  unfold Comment.Balanced
  rw [String.toList_append, Comment.read_front (by decide) (by decide)]

end Header

/-! ## Modules -/

/-- Lines with line feeds between them and at the end have one each. -/
theorem intercalate_append_lineFeed {lines : List (List Char)} (h : lines ≠ []) :
    ['\n'].intercalate lines ++ ['\n'] = lines.flatMap (· ++ ['\n']) := by
  induction lines with
  | nil => exact absurd rfl h
  | cons line rest ih =>
    cases rest with
    | nil => simp
    | cons next rest =>
      rw [List.intercalate_cons_of_ne_nil (List.cons_ne_nil next rest), List.append_assoc,
        ih (List.cons_ne_nil next rest)]
      exact (List.flatMap_cons (f := (· ++ ['\n']))).symm

namespace Module

/-- The text of a module behind its header: a line feed, and lines that have one each. -/
def body (m : Module) : List Char :=
  '\n' :: (m.lines.drop m.header.lines.length).flatMap fun line => line.toList ++ ['\n']

theorem lines_eq (m : Module) :
    m.lines = m.header.lines ++ m.lines.drop m.header.lines.length := by
  have hheader : m.header.lines <+: m.lines := by
    unfold lines sharedLines
    simp only [List.append_assoc]
    exact List.prefix_append _ _
  obtain ⟨rest, hrest⟩ := hheader
  rw [← hrest, List.drop_left]

theorem header_lines_ne_nil (m : Module) : m.header.lines.map String.toList ≠ [] := by
  rw [Header.lines_eq]
  exact List.cons_ne_nil _ _

theorem toList_source (m : Module) :
    m.source.toList = m.lines.flatMap fun line => line.toList ++ ['\n'] := by
  have hne : m.lines.map String.toList ≠ [] := by
    rw [lines_eq, List.map_append]
    exact List.append_ne_nil_of_left_ne_nil m.header_lines_ne_nil _
  unfold source
  rw [String.toList_append, String.toList_intercalate]
  refine (intercalate_append_lineFeed hne).trans ?_
  rw [List.flatMap_map]

theorem source_eq (m : Module) : m.source.toList = m.header.text.toList ++ m.body := by
  have hheader := intercalate_append_lineFeed m.header_lines_ne_nil
  rw [List.flatMap_map] at hheader
  unfold Header.text body
  rw [toList_source, lines_eq, List.flatMap_append, ← hheader, String.toList_intercalate,
    List.append_assoc]
  simp

/-- A module is read as its header, a comment, and the lines behind it exactly if its header is one
comment. -/
theorem behind?_source_iff {m : Module} : Comment.behind? m.source.toList = some m.body ↔
    Comment.IsWhole m.header.text := by
  have hopen : ∃ body, m.header.text.toList = '/' :: '*' :: body := by
    unfold Header.text
    rw [Header.lines_eq, String.toList_intercalate, List.map_cons,
      List.intercalate_cons_of_ne_nil (by simp)]
    exact ⟨_, rfl⟩
  obtain ⟨body, hbody⟩ := hopen
  rw [source_eq]
  exact Comment.behind?_append_eq_iff hbody _

/-- If names are identifiers, a header is one comment, and in every module that has it all lines
behind it are outside of it, exactly if the command line opens and closes comments of its own only.
One whose words have no marks of comments does. -/
theorem header_isWhole_iff {inp : ShaderInput} {b : BackendOutput} {version : Setting Int}
    {cmdline : String} {header : Header} (hinp : inp.WellNamed) (hb : b.WellNamed)
    (h : Header.ofInput inp b version cmdline = .ok header) :
    (Comment.IsWhole header.text ↔ Comment.Balanced cmdline) ∧
    (∀ m : Module, m.header = header →
      (Comment.behind? m.source.toList = some m.body ↔ Comment.Balanced cmdline)) ∧
    ∀ (t : FileTree) (words : List String) (c : GenerateConfig),
      Config.ofWords t words = .ok (.generate c) → c.cmdline = cmdline →
      (∀ w ∈ words, ¬ ['/', '*'] <:+: w.toList ∧ ¬ ['*', '/'] <:+: w.toList) →
      Comment.Balanced cmdline := by
  have hwhole := Header.isWhole_text_iff hinp hb h
  refine ⟨hwhole, fun m hm => ?_, fun t words c hconfig hcmdline hwords => ?_⟩
  · rw [behind?_source_iff, hm]
    exact hwhole
  · obtain ⟨args, -, hgenerate⟩ := Config.toGenerate_of_ofWords hconfig
    rw [← hcmdline, (Config.toGenerate_eq_ok hgenerate).2.2.2]
    exact Comment.balanced_words hwords

/-! ## Outputs with marks in their names -/

/-- A command line for an output. -/
def wordsTo (output : String) : List String :=
  ["--input", "in.json", "--output", output, "--slang", "wgsl"]

def configTo (output : String) : GenerateConfig where
  input := PathName.ofText "in.json"
  output := .value (PathName.ofText output)
  slangs := [wgsl]
  module := none
  hosts := []
  version := .value 1
  errorFormat := .value .gcc
  cmdline := " ".intercalate (wordsTo output)

/-- The output for a program with resources of every kind, all named by identifiers. -/
def boundOutput : BackendOutput where
  slang := wgsl
  sources :=
    [⟨"v", "v", {
      stage := "vs"
      inputs := [⟨0, "pos", "TEXCOORD", 0⟩]
      uniformBlocks := [⟨0, 16, "params", "", [], false⟩] }⟩,
     ⟨"f", "f", {
      stage := "fs"
      images := [⟨0, "tex", "2d", "float", false⟩]
      samplers := [⟨0, "smp", "sample"⟩]
      imageSamplers := [⟨0, "tex_smp", "tex", "smp"⟩] }⟩]

def boundDump : Dump where
  input := pairInput [⟨"v", "vs"⟩, ⟨"f", "fs"⟩]
  backends := [("wgsl", boundOutput)]

theorem boundDump_wellNamed : boundDump.input.WellNamed ∧
    ∀ name b, boundDump.backends.get? name = some b → b.WellNamed := by
  have hb : boundOutput.WellNamed := by decide
  refine ⟨⟨fun hmodule => absurd hmodule (by decide), by decide⟩, fun name b hget => ?_⟩
  unfold boundDump at hget
  rw [Keyed.get?_cons] at hget
  split at hget
  · obtain rfl := Option.some.inj hget
    exact hb
  · simp at hget

/-- A name with an opening and a closing mark leaves the header whole, and so does one without
marks. -/
theorem nested_header_isWhole :
    (∃ m, Config.ofWords Run.bench (wordsTo "gen/*x*/o.odin") =
        .ok (.generate (configTo "gen/*x*/o.odin")) ∧
      assemble boundDump.input boundDump.backends
        (Run.settings (configTo "gen/*x*/o.odin") boundDump) = .ok m ∧
      boundDump.input.WellNamed ∧ boundOutput.WellNamed ∧
      Header.ofInput boundDump.input boundOutput (.value 1) (configTo "gen/*x*/o.odin").cmdline =
        .ok m.header ∧
      Comment.IsWhole m.header.text ∧ Comment.behind? m.source.toList = some m.body) ∧
    ∃ header, Config.ofWords Run.bench (wordsTo "o.odin") = .ok (.generate (configTo "o.odin")) ∧
      Header.ofInput boundDump.input boundOutput (.value 1) (configTo "o.odin").cmdline =
        .ok header ∧
      Comment.IsWhole header.text := by
  have hinp := boundDump_wellNamed.1
  have hb : boundOutput.WellNamed := by decide
  constructor
  · have hok : (assemble boundDump.input boundDump.backends
        (Run.settings (configTo "gen/*x*/o.odin") boundDump)).toBool = true := by decide +kernel
    obtain ⟨m, hm⟩ := exists_eq_ok_of_toBool hok
    obtain ⟨-, first, b, hfirst, hget, hassembled⟩ := assembledFrom_of_assemble hm
    have hwgsl : (Slang.inOrder [wgsl]).head? = some wgsl := by decide +kernel
    obtain rfl : wgsl = first := Option.some.inj (hwgsl.symm.trans hfirst)
    obtain rfl := Option.some.inj hget
    have hbalanced : Comment.Balanced (configTo "gen/*x*/o.odin").cmdline := by decide
    obtain ⟨hwhole, hbehind, -⟩ := header_isWhole_iff hinp hb hassembled.header
    exact ⟨m, by decide +kernel, hm, hinp, hb, hassembled.header, hwhole.mpr hbalanced,
      (hbehind m rfl).mpr hbalanced⟩
  · have hok : (Header.ofInput boundDump.input boundOutput (.value 1)
        (configTo "o.odin").cmdline).toBool = true := by decide +kernel
    obtain ⟨header, hheader⟩ := exists_eq_ok_of_toBool hok
    have hconfig : Config.ofWords Run.bench (wordsTo "o.odin") =
        .ok (.generate (configTo "o.odin")) := by decide +kernel
    obtain ⟨hwhole, -, hplain⟩ := header_isWhole_iff hinp hb hheader
    exact ⟨header, hconfig, hheader, hwhole.mpr (hplain _ _ _ hconfig rfl (by decide))⟩

/-- A star behind a slash opens a comment that the header does not close. -/
theorem globbed_header_not_isWhole : ∃ m, boundDump.input.WellNamed ∧
    (∀ name b, boundDump.backends.get? name = some b → b.WellNamed) ∧
    Config.ofWords Run.bench (wordsTo "gen/*.odin") = .ok (.generate (configTo "gen/*.odin")) ∧
    assemble boundDump.input boundDump.backends (Run.settings (configTo "gen/*.odin") boundDump) =
      .ok m ∧
    ¬ Comment.IsWhole m.header.text ∧ Comment.behind? m.source.toList ≠ some m.body := by
  obtain ⟨hinp, hbackends⟩ := boundDump_wellNamed
  have hok : (assemble boundDump.input boundDump.backends
      (Run.settings (configTo "gen/*.odin") boundDump)).toBool = true := by decide +kernel
  obtain ⟨m, hm⟩ := exists_eq_ok_of_toBool hok
  obtain ⟨-, first, b, -, hget, hassembled⟩ := assembledFrom_of_assemble hm
  have hunbalanced : ¬ Comment.Balanced (configTo "gen/*.odin").cmdline := by decide
  have hheader : ¬ Comment.IsWhole m.header.text := by
    rwa [Header.isWhole_text_iff hinp (hbackends _ b hget) hassembled.header]
  refine ⟨m, hinp, hbackends, by decide +kernel, hm, hheader, ?_⟩
  rwa [ne_eq, behind?_source_iff]

end Module

end ShaderBindings
