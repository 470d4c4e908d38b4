/-
  Names of modules. Every generated identifier starts with the name of the module, so that the
  name has to be an identifier (`IsIdentifier`). The names that are accepted are the identifiers
  and, besides, the identifiers with a line feed behind them (`IsIdentifierLine`,
  `isModuleName_iff`). A name of the first sort starts identifiers, and one of the second sort
  none (`isIdentifier_prefixed_iff`). Names in a dump are not checked; only those on a command
  line are.
-/
import ShaderBindings.Proofs.Run.Configured
import ShaderBindings.Proofs.Text.Lines

namespace ShaderBindings

/-! ## Identifiers -/

/-- A letter or an underscore, then letters, digits and underscores, all of ASCII. -/
def IsIdentifier (s : String) : Prop :=
  ∃ c rest, s.toList = c :: rest ∧ (c.isAlpha = true ∨ c = '_') ∧
    ∀ d ∈ rest, d.isAlphanum = true ∨ d = '_'

theorem isIdentifierStart_iff {c : Char} :
    isIdentifierStart c = true ↔ c.isAlpha = true ∨ c = '_' := by
  have hlower : (decide ('a' ≤ c) && decide (c ≤ 'z')) = c.isLower := rfl
  have hupper : (decide ('A' ≤ c) && decide (c ≤ 'Z')) = c.isUpper := (Bool.decide_and _ _).symm
  have halpha : c.isAlpha = (c.isUpper || c.isLower) := rfl
  simp only [isIdentifierStart, hlower, hupper, halpha, Bool.or_eq_true, beq_iff_eq]
  rw [@or_comm (c.isLower = true)]

theorem isIdentifierPart_iff {c : Char} :
    isIdentifierPart c = true ↔ c.isAlphanum = true ∨ c = '_' := by
  have hdigit : (decide ('0' ≤ c) && decide (c ≤ '9')) = c.isDigit := rfl
  simp only [isIdentifierPart, hdigit, Char.isAlphanum, Bool.or_eq_true, isIdentifierStart_iff]
  tauto

theorem isIdentifier_iff {s : String} : isIdentifier s.toList = true ↔ IsIdentifier s := by
  unfold IsIdentifier
  cases s.toList with
  | nil => simp [isIdentifier]
  | cons c rest =>
    simp only [isIdentifier, Bool.and_eq_true, List.all_eq_true, isIdentifierStart_iff,
      isIdentifierPart_iff]
    constructor
    · intro h
      exact ⟨c, rest, rfl, h⟩
    · rintro ⟨c', rest', hcons, h⟩
      obtain ⟨rfl, rfl⟩ := List.cons.inj hcons
      exact h

instance : DecidablePred IsIdentifier := fun _ => decidable_of_iff _ isIdentifier_iff

namespace IsIdentifier

variable {s t : String} {c : Char}

theorem alphanum_or_underscore (h : IsIdentifier s) (hc : c ∈ s.toList) :
    c.isAlphanum = true ∨ c = '_' := by
  obtain ⟨first, rest, hs, hfirst, hrest⟩ := h
  rw [hs] at hc
  rcases List.mem_cons.mp hc with rfl | hc
  · exact hfirst.imp_left fun halpha => by rw [Char.isAlphanum, halpha, Bool.true_or]
  · exact hrest c hc

/-- An identifier with the characters of one behind it is an identifier. -/
theorem append (h : IsIdentifier s) (ht : ∀ c ∈ t.toList, c.isAlphanum = true ∨ c = '_') :
    IsIdentifier (s ++ t) := by
  obtain ⟨first, rest, hs, hfirst, hrest⟩ := h
  refine ⟨first, rest ++ t.toList, by rw [String.toList_append, hs, List.cons_append], hfirst,
    fun c hc => ?_⟩
  rcases List.mem_append.mp hc with hc | hc
  · exact hrest c hc
  · exact ht c hc

/-- There is no white space in an identifier, and no line break. -/
theorem not_blank (h : IsIdentifier s) (hc : c ∈ s.toList) :
    Text.isBlank c = false ∧ Text.isLineBreak c = false := by
  have hpart := isIdentifierPart_iff.mpr (h.alphanum_or_underscore hc)
  have hvisible : 0x20 < c.toNat ∧ c.toNat < 0x7f := by
    simp only [isIdentifierPart, isIdentifierStart, Bool.or_eq_true, Bool.and_eq_true,
      decide_eq_true_eq, beq_iff_eq, Char.le_def, UInt32.le_iff_toNat_le] at hpart
    have ha : 'a'.val.toNat = 0x61 := rfl
    have hz : 'z'.val.toNat = 0x7a := rfl
    have hA : 'A'.val.toNat = 0x41 := rfl
    have hZ : 'Z'.val.toNat = 0x5a := rfl
    have hzero : '0'.val.toNat = 0x30 := rfl
    have hnine : '9'.val.toNat = 0x39 := rfl
    have hc : c.val.toNat = c.toNat := rfl
    rcases hpart with ((h | h) | rfl) | h
    · omega
    · omega
    · decide
    · omega
  exact Text.not_blank_of_visible hvisible.1 hvisible.2

end IsIdentifier

/-! ## Accepted names -/

/-- An identifier with a line feed behind it. -/
def IsIdentifierLine (s : String) : Prop := ∃ name, IsIdentifier name ∧ s = name ++ "\n"

variable {s name x : String}

/-- The line feed is not part of an identifier. -/
theorem IsIdentifierLine.lineFeed_mem_append (h : IsIdentifierLine s) (x : String) :
    '\n' ∈ (s ++ x).toList := by
  obtain ⟨name, -, rfl⟩ := h
  simp

theorem IsIdentifierLine.not_isIdentifier (h : IsIdentifierLine s) : ¬ IsIdentifier s := by
  intro hs
  have hmem : '\n' ∈ s.toList := by simpa using h.lineFeed_mem_append ""
  exact absurd (hs.not_blank hmem).2 (by decide)

theorem isModuleName_iff : isModuleName s = true ↔ IsIdentifier s ∨ IsIdentifierLine s := by
  unfold isModuleName
  rw [Bool.or_eq_true, isIdentifier_iff, Bool.and_eq_true, beq_iff_eq]
  refine or_congr_right ⟨fun h => ?_, fun h => ?_⟩
  · obtain ⟨hlast, hname⟩ := h
    refine ⟨String.ofList s.toList.dropLast, isIdentifier_iff.mp (by rwa [String.toList_ofList]),
      String.toList_injective ?_⟩
    rw [String.toList_append, String.toList_ofList]
    exact (List.dropLast_append_getLast? _ hlast).symm
  · obtain ⟨name, hname, rfl⟩ := h
    rw [String.toList_append]
    exact ⟨by simp, by simpa using isIdentifier_iff.mpr hname⟩

theorem accepted_iff : checkModuleName s = .ok name ↔
    name = s ∧ (IsIdentifier s ∨ IsIdentifierLine s) := by
  rw [checkModuleName_eq_ok, isModuleName_iff]

/-! ## Identifiers that start with the name of the module -/

theorem ShaderInput.namePrefix_of_isModuleName {inp : ShaderInput} (h : inp.module = .text name)
    (hname : isModuleName name = true) : inp.namePrefix = name ++ "_" := by
  have hne : name ≠ "" := by
    rintro rfl
    exact absurd hname (by decide)
  unfold namePrefix
  rw [h, Json.truthy_text, Json.display_text]
  exact if_pos (bne_iff_ne.mpr hne)

theorem isIdentifier_prefixed_iff (hname : isModuleName name = true) (hx : IsIdentifier x) :
    IsIdentifier (name ++ "_" ++ x) ↔ IsIdentifier name := by
  constructor
  · intro h
    rcases isModuleName_iff.mp hname with hname | hname
    · exact hname
    · have hmem := hname.lineFeed_mem_append ("_" ++ x)
      rw [← String.append_assoc] at hmem
      exact absurd (h.not_blank hmem).2 (by decide)
  · intro h
    rw [String.append_assoc]
    refine h.append fun c hc => ?_
    rw [String.toList_append, List.mem_append] at hc
    rcases hc with hc | hc
    · exact .inr (List.mem_singleton.mp hc)
    · exact hx.alphanum_or_underscore hc

/-- A module name is accepted, as it is, exactly if it is an identifier or one with a line feed
behind it; so what is accepted are the identifiers, except in the second case. The name that a
configuration takes over starts the identifiers of the module: what begins with it and is an
identifier behind it is one altogether, without white space or line breaks, exactly in the first
case. -/
theorem moduleName_accepted_iff (s : String) :
    (∀ name, checkModuleName s = .ok name ↔ name = s ∧ (IsIdentifier s ∨ IsIdentifierLine s)) ∧
    (∀ e, (checkModuleName s).mapError ConfigFault.error = .error e ↔
      (¬ IsIdentifier s ∧ ¬ IsIdentifierLine s) ∧
      e = ⟨.invalidModuleName, "Invalid module name: " ++ Text.quoted s,
        "Module names are used as identifier prefix and must match [A-Za-z_][A-Za-z0-9_]*."⟩) ∧
    ((checkModuleName s = .ok s ↔ IsIdentifier s) ↔ ¬ IsIdentifierLine s) ∧
    ∀ (t : FileTree) (args : CommandLine.Arguments) (cmdline : String) (c : GenerateConfig)
      (dump : Dump) (x : String), Config.ofArguments t args cmdline = .ok (.generate c) →
      c.module = some s → IsIdentifier x →
      (IsIdentifier ((Run.shaderInput c dump).namePrefix ++ x) ↔ ¬ IsIdentifierLine s) ∧
      ((∀ ch ∈ ((Run.shaderInput c dump).namePrefix ++ x).toList,
        Text.isBlank ch = false ∧ Text.isLineBreak ch = false) ↔ ¬ IsIdentifierLine s) := by
  refine ⟨fun name => accepted_iff, fun e => ?_, ?_,
    fun t args cmdline c dump x hconfig hname hx => ?_⟩
  · rw [Fallible.mapError_eq_error, ← not_or, ← isModuleName_iff, Bool.not_eq_true]
    simp only [checkModuleName_eq_error]
    constructor
    · rintro ⟨f, ⟨rfl, hs⟩, rfl⟩
      exact ⟨hs, rfl⟩
    · rintro ⟨hs, rfl⟩
      exact ⟨_, ⟨rfl, hs⟩, rfl⟩
  · rw [accepted_iff]
    have hline : IsIdentifierLine s → ¬ IsIdentifier s := IsIdentifierLine.not_isIdentifier
    tauto
  · have hgood : isModuleName s = true := Config.isModuleName_of_toGenerate
      (Config.toGenerate_of_ofArguments hconfig) hname
    have hmodule : (Run.shaderInput c dump).module = .text s := by
      unfold Run.shaderInput
      rw [hname]
    have hline : IsIdentifier s ↔ ¬ IsIdentifierLine s :=
      ⟨fun h hline => hline.not_isIdentifier h, (isModuleName_iff.mp hgood).resolve_right⟩
    rw [ShaderInput.namePrefix_of_isModuleName hmodule hgood, ← hline]
    refine ⟨isIdentifier_prefixed_iff hgood hx, fun h => ?_, fun h ch hch => ?_⟩
    · rw [hline]
      intro hbroken
      have hmem := hbroken.lineFeed_mem_append ("_" ++ x)
      rw [← String.append_assoc] at hmem
      exact absurd (h _ hmem).2 (by decide)
    · exact ((isIdentifier_prefixed_iff hgood hx).mpr h).not_blank hch

/-! ## A name with a line feed behind it -/

/-- The settings of a command line that gives a module name. -/
def namedArguments (name : String) : CommandLine.Arguments where
  input := some (.value (PathName.ofText "in.json"))
  output := some (.value (PathName.ofText "shader.odin"))
  slang := some (.value "wgsl")
  module := some (.value name)

/-- What these settings ask for. -/
def namedConfig (name : String) : GenerateConfig where
  input := PathName.ofText "in.json"
  output := .value (PathName.ofText "shader.odin")
  slangs := [⟨"wgsl", "wgsl", ".WGPU", 0⟩]
  module := some name
  hosts := []
  version := (namedArguments name).version
  errorFormat := (namedArguments name).errorFormat
  cmdline := ""

theorem plain_moduleName :
    (Config.ofArguments Run.bench (namedArguments "tex") "" = .ok (.generate (namedConfig "tex")) ∧
      (namedConfig "tex").module = some "tex" ∧ IsIdentifier "vs_params") ∧
    (∀ dump : Dump, IsIdentifier ((Run.shaderInput (namedConfig "tex") dump).namePrefix
      ++ "vs_params")) ∧
    checkModuleName "tex" = .ok "tex" := by
  obtain ⟨hok, -, -, hnames⟩ := moduleName_accepted_iff "tex"
  have hname : IsIdentifier "tex" := by decide
  have hx : IsIdentifier "vs_params" := by decide
  have hconfig : Config.ofArguments Run.bench (namedArguments "tex") "" =
      .ok (.generate (namedConfig "tex")) := by decide +kernel
  refine ⟨⟨hconfig, rfl, hx⟩, fun dump => ?_, (hok _).mpr ⟨rfl, .inl hname⟩⟩
  exact (hnames _ _ _ _ dump _ hconfig rfl hx).1.mpr fun h => h.not_isIdentifier hname

/-- A name with a line feed behind it is accepted though it is no identifier, also in a
configuration, and then breaks every identifier in two. -/
theorem lineFeed_accepted :
    ¬ (∀ s : String, checkModuleName s = .ok s ↔ IsIdentifier s) ∧
    ¬ ∀ (t : FileTree) (args : CommandLine.Arguments) (cmdline : String) (c : GenerateConfig)
      (dump : Dump) (name x : String), Config.ofArguments t args cmdline = .ok (.generate c) →
      c.module = some name → IsIdentifier x →
      IsIdentifier ((Run.shaderInput c dump).namePrefix ++ x) := by
  have hnot : ¬ IsIdentifier "a\n" := by decide
  refine ⟨fun h => hnot ((h "a\n").mp (by decide)), fun h => ?_⟩
  have hconfig : Config.ofArguments Run.bench (namedArguments "a\n") "" =
      .ok (.generate (namedConfig "a\n")) := by decide +kernel
  have hbroken := h _ _ _ _ ⟨⟨"", .null, [], []⟩, [], [], []⟩ _ "p" hconfig rfl (by decide)
  exact absurd hbroken (by decide)

end ShaderBindings
