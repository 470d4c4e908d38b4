/-
  Command lines and their configurations. Every check of a command line is stated on its own
  (`requestFaults`, `inputStops`, `moduleStop?`, `hostStop?`, put together in `Config.stops`).

  * `fault?_toGenerate`: what stops a command line is the first of its checks that fails.
  * `sound_of_ofWords`: what passes all of them is a sound configuration
    (`GenerateConfig.Sound`).
  * `admissible_of_readRequest`: in particular its request is one that is assembled.

  How the words are turned into settings is taken as it is (`Proofs.CommandLine`).
-/
import ShaderBindings.Proofs.CommandLine
import ShaderBindings.Proofs.Module.Assembly
import ShaderBindings.Run

namespace ShaderBindings

open Fallible

namespace Slang

/-! ## Requests -/

variable {request : List Slang}

/-- The names in a request. -/
def requestNames (s : String) : List String := (s.toList.splitOn ':').map String.ofList

/-- What is wrong with a request: that it is empty, then each name of no language from left to
right, then a backend that two of its languages share. -/
def requestFaults (s : String) : List ConfigFault :=
  (if s = "" then [.missingSlang] else [])
    ++ ((requestNames s).filter (· ∉ names)).map .unknownSlang
    ++ (sharedBackend? ((requestNames s).filterMap ofName?)).toList.map fun pair =>
      .sharedBackend pair.1 pair.2

theorem ofName?_eq_none {name : String} : ofName? name = none ↔ name ∉ names := by
  unfold ofName? names
  simp

theorem ofName?_name {s : Slang} (h : s ∈ table) : ofName? s.name = some s := by
  have hall : ∀ s ∈ table, ofName? s.name = some s := by decide
  exact hall s h

theorem mem_table_of_ofName? {name : String} {s : Slang} (h : ofName? name = some s) :
    s ∈ table ∧ s.name = name :=
  ⟨List.mem_of_find?_eq_some h, by simpa using List.find?_some h⟩

theorem fault?_namedIn (ns : List String) :
    fault? (namedIn ns) = ((ns.filter (· ∉ names)).map ConfigFault.unknownSlang).head? := by
  induction ns with
  | nil => rfl
  | cons name rest ih =>
    rw [namedIn]
    cases hname : ofName? name with
    | none => simp [fault?, ofName?_eq_none.mp hname]
    | some s =>
      have hmem : name ∈ names := by
        by_contra hno
        simp [ofName?_eq_none.mpr hno] at hname
      rw [fault?_bind_pure, ih, List.filter_cons_of_neg (by simpa using hmem)]

/-- The languages of a request are those of its names, one for each. -/
theorem namedIn_eq_ok {ns : List String} (h : namedIn ns = .ok request) :
    request.map Slang.name = ns ∧ ∀ s ∈ request, s ∈ table := by
  induction ns generalizing request with
  | nil =>
    obtain rfl := Except.ok.inj h
    simp
  | cons name rest ih =>
    rw [namedIn] at h
    split at h
    · simp at h
    · next s hs =>
      obtain ⟨more, hmore, h⟩ := bind_eq_ok.mp h
      obtain rfl := pure_eq_ok.mp h
      obtain ⟨hnames, hlisted⟩ := ih hmore
      obtain ⟨hmem, hname⟩ := mem_table_of_ofName? hs
      exact ⟨by rw [List.map_cons, hnames, hname], List.forall_mem_cons.mpr ⟨hmem, hlisted⟩⟩

theorem filterMap_ofName? (h : ∀ s ∈ request, s ∈ table) :
    (request.map Slang.name).filterMap ofName? = request := by
  rw [List.filterMap_map]
  calc request.filterMap (ofName? ∘ Slang.name)
      = request.filterMap some := List.filterMap_congr fun s hs => ofName?_name (h s hs)
    _ = request := List.filterMap_some

theorem fault?_inOrder (request : List Slang) :
    fault? (match sharedBackend? request with
      | some (first, second) => .error (ConfigFault.sharedBackend first second)
      | none => pure (inOrder request)) =
      (sharedBackend? request).map fun pair => ConfigFault.sharedBackend pair.1 pair.2 := by
  cases sharedBackend? request <;> rfl

theorem fault?_readRequest (s : String) : fault? (readRequest s) = (requestFaults s).head? := by
  unfold readRequest requestFaults
  by_cases hempty : s = ""
  · simp only [if_pos hempty]
    rfl
  · have hshared (request : List Slang) (h : namedIn (requestNames s) = .ok request) :
        ((sharedBackend? request).map fun pair => ConfigFault.sharedBackend pair.1 pair.2) =
        (sharedBackend? ((requestNames s).filterMap ofName?)).map fun pair =>
          ConfigFault.sharedBackend pair.1 pair.2 := by
      obtain ⟨hnames, hlisted⟩ := namedIn_eq_ok h
      rw [← hnames, filterMap_ofName? hlisted]
    simp only [if_neg hempty, List.nil_append, List.head?_append]
    refine (fault?_bind fun request h =>
      (fault?_inOrder request).trans (hshared request h)).trans ?_
    rw [fault?_namedIn]
    cases sharedBackend? ((requestNames s).filterMap ofName?) <;> rfl

/-- An accepted request, in the order of the table, is one that is assembled. -/
theorem admissible_of_readRequest {s : String} {slangs : List Slang}
    (h : readRequest s = .ok slangs) :
    Admissible slangs ∧ ∃ request, request.map Slang.name = requestNames s ∧
      slangs = inOrder request := by
  unfold readRequest at h
  by_cases hempty : s = ""
  · simp only [if_pos hempty] at h
    exact nomatch h
  · simp only [if_neg hempty] at h
    obtain ⟨request, hrequest, h⟩ := bind_eq_ok.mp h
    obtain ⟨hnames, hlisted⟩ := namedIn_eq_ok hrequest
    split at h
    · simp at h
    · next hshared =>
      obtain rfl := pure_eq_ok.mp h
      refine ⟨⟨?_, fun s hs => (mem_inOrder.mp hs).1, ?_⟩, request, hnames, rfl⟩
      · -- there is always a name between colons, if only the empty one
        have hne : request ≠ [] := by
          rintro rfl
          exact List.splitOn_ne_nil ':' s.toList (by simpa using hnames.symm)
        obtain ⟨first, hfirst⟩ := List.exists_mem_of_ne_nil request hne
        exact List.ne_nil_of_mem (mem_inOrder.mpr ⟨hlisted first hfirst, hfirst⟩)
      · rw [sharedBackend?, inOrder_inOrder]
        exact hshared

end Slang

/-! ## Host type mappings -/

/-- The name of a uniform type, an equals sign, and a name that is not empty. -/
def IsHostMapping (s : String) : Prop :=
  ∃ (u : UniformType) (host : String), host ≠ "" ∧ s = u.name ++ "=" ++ host

theorem UniformType.ofName?_isSome {name : String} :
    (ofName? name).isSome = true ↔ ∃ u : UniformType, u.name = name := by
  have hall (u : UniformType) : u ∈ all := by cases u <;> decide
  simp [ofName?, hall]

theorem readHostMapping_eq_ok {s type host : String} :
    readHostMapping s = .ok (type, host) ↔
      (∃ u : UniformType, u.name = type) ∧ host ≠ "" ∧ s = type ++ "=" ++ host := by
  constructor
  · intro h
    unfold readHostMapping at h
    split at h
    · next type' host' hsplit =>
      split at h
      · next hgood =>
        obtain ⟨rfl, rfl⟩ := Prod.mk.injEq .. ▸ Except.ok.inj h
        refine ⟨UniformType.ofName?_isSome.mp hgood.1, hgood.2, String.toList_injective ?_⟩
        rw [CommandLine.eq_of_splitAtEquals hsplit]
        simp
      · simp at h
    · simp at h
  · rintro ⟨⟨u, rfl⟩, hhost, rfl⟩
    have hname : '=' ∉ u.name.toList := by cases u <;> decide
    have hsplit : CommandLine.splitAtEquals (u.name ++ "=" ++ host).toList =
        (u.name, some host) := by
      have h := CommandLine.splitAtEquals_append hname host.toList
      simpa using h
    unfold readHostMapping
    rw [hsplit]
    exact if_pos ⟨UniformType.ofName?_isSome.mpr ⟨u, rfl⟩, hhost⟩

theorem readHostMapping_eq_error {s : String} {f : ConfigFault}
    (h : readHostMapping s = .error f) : f = .badHostMapping s := by
  unfold readHostMapping at h
  split at h
  · split at h
    · simp at h
    · exact (Except.error.inj h).symm
  · exact (Except.error.inj h).symm

theorem exists_readHostMapping_eq_ok {s : String} :
    (∃ mapping, readHostMapping s = .ok mapping) ↔ IsHostMapping s := by
  constructor
  · rintro ⟨⟨type, host⟩, h⟩
    obtain ⟨⟨u, rfl⟩, hhost, hs⟩ := readHostMapping_eq_ok.mp h
    exact ⟨u, host, hhost, hs⟩
  · rintro ⟨u, host, hhost, hs⟩
    exact ⟨(u.name, host), readHostMapping_eq_ok.mpr ⟨⟨u, rfl⟩, hhost, hs⟩⟩

instance : DecidablePred IsHostMapping := fun s =>
  decidable_of_iff ((fault? (readHostMapping s)).isNone = true)
    (by rw [Option.isNone_iff_eq_none, fault?_eq_none, exists_readHostMapping_eq_ok])

theorem fault?_readHostMapping (s : String) :
    fault? (readHostMapping s) = if IsHostMapping s then none else some (.badHostMapping s) := by
  split
  · next h => exact fault?_eq_none.mpr (exists_readHostMapping_eq_ok.mpr h)
  · next h =>
    cases hread : readHostMapping s with
    | error f => rw [readHostMapping_eq_error hread]; rfl
    | ok mapping => exact absurd (exists_readHostMapping_eq_ok.mp ⟨mapping, hread⟩) h

/-! ## Module names -/

theorem checkModuleName_eq_ok {s name : String} :
    checkModuleName s = .ok name ↔ name = s ∧ isModuleName s = true := by
  unfold checkModuleName
  split
  · next h => simp [h, eq_comm]
  · next h => simp [h]

theorem checkModuleName_eq_error {s : String} {f : ConfigFault} :
    checkModuleName s = .error f ↔ f = .badModuleName s ∧ isModuleName s = false := by
  unfold checkModuleName
  split
  · next h => simp [h]
  · next h => simp [h, eq_comm]

namespace Config

/-! ## Checks in order -/

open CommandLine

/-- What is wrong with the input: that there is none, or nothing under its path. -/
def inputStops (t : FileTree) : Option (Setting PathName) → List ConfigStop
  | none => [.refused .missingInput]
  | some .blank => [.blank .input]
  | some (.value path) =>
    match t.exists? path with
    | .ok true => []
    | .ok false => [.refused (.inputNotFound path)]
    | .error f => [.blocked path f]

/-- What is wrong with a module name. -/
def moduleStop? : Setting String → Option ConfigStop
  | .blank => some (.blank .module)
  | .value name => if isModuleName name then none else some (.refused (.badModuleName name))

/-- What is wrong with a host type mapping. -/
def hostStop? : Setting String → Option ConfigStop
  | .blank => some (.blank .ctype)
  | .value s => if IsHostMapping s then none else some (.refused (.badHostMapping s))

/-- All that is wrong with the settings of a command line, in the order languages, input, output,
module name, host types. Each is looked at on its own. -/
def stops (t : FileTree) (args : Arguments) : List ConfigStop :=
  (Slang.requestFaults ((args.slang.bind Setting.value?).getD "")).map .refused
    ++ inputStops t args.input
    ++ (if args.output.isNone then [.refused .missingOutput] else [])
    ++ args.module.toList.filterMap moduleStop?
    ++ args.ctypes.filterMap hostStop?

theorem fault?_checkInput (t : FileTree) (input : Option (Setting PathName)) :
    fault? (checkInput t input) = (inputStops t input).head? := by
  match input with
  | none => rfl
  | some .blank => rfl
  | some (.value path) =>
    change fault? (match t.exists? path with
      | .ok true => pure path
      | .ok false => .error (ConfigStop.refused (.inputNotFound path))
      | .error f => .error (ConfigStop.blocked path f)) = (match t.exists? path with
      | .ok true => []
      | .ok false => [ConfigStop.refused (.inputNotFound path)]
      | .error f => [ConfigStop.blocked path f]).head?
    cases t.exists? path with
    | error f => rfl
    | ok found => cases found <;> rfl

theorem fault?_module (s : Setting String) :
    fault? (valueOf .module s >>= fun name => (checkModuleName name).mapError ConfigStop.refused) =
      moduleStop? s := by
  cases s with
  | blank => rfl
  | value name =>
    change fault? ((checkModuleName name).mapError ConfigStop.refused) =
      if isModuleName name then none else some (.refused (.badModuleName name))
    unfold checkModuleName
    split <;> rfl

theorem fault?_host (s : Setting String) :
    fault? (valueOf .ctype s >>= fun text => (readHostMapping text).mapError ConfigStop.refused) =
      hostStop? s := by
  cases s with
  | blank => rfl
  | value text =>
    change fault? ((readHostMapping text).mapError ConfigStop.refused) =
      if IsHostMapping text then none else some (.refused (.badHostMapping text))
    rw [fault?_mapError, fault?_readHostMapping]
    split <;> rfl

theorem fault?_modules (module : Option (Setting String)) :
    fault? (module.mapM fun s => do
      (checkModuleName (← valueOf .module s)).mapError ConfigStop.refused) =
      (module.toList.filterMap moduleStop?).head? := by
  cases module with
  | none => rfl
  | some s =>
    have hone : ([s].filterMap moduleStop?).head? = moduleStop? s := by
      rw [List.filterMap_cons]
      cases moduleStop? s <;> rfl
    rw [Option.toList_some, hone, ← fault?_module]
    exact fault?_bind_pure

theorem fault?_hosts (ctypes : List (Setting String)) :
    fault? (ctypes.mapM fun s => do
      (readHostMapping (← valueOf .ctype s)).mapError ConfigStop.refused) =
      (ctypes.filterMap hostStop?).head? := by
  rw [fault?_mapM]
  simp only [fault?_host]

/-- What stops a command line is the first of its checks that fails. -/
theorem fault?_toGenerate (t : FileTree) (args : Arguments) (cmdline : String) :
    fault? (toGenerate t args cmdline) = (stops t args).head? := by
  unfold toGenerate stops
  cases houtput : args.output with
  | none =>
    refine (fault?_bind fun slangs _ => fault?_bind fun input _ => rfl).trans ?_
    rw [fault?_mapError, Slang.fault?_readRequest, fault?_checkInput]
    simp only [List.head?_append, List.head?_map, Option.or_assoc]
    rfl
  | some output =>
    refine (fault?_bind fun slangs _ => fault?_bind fun input _ =>
      fault?_bind fun module _ => fault?_bind_pure).trans ?_
    rw [fault?_mapError, Slang.fault?_readRequest, fault?_checkInput, fault?_modules, fault?_hosts]
    simp only [List.head?_append, List.head?_map, Option.or_assoc]
    rfl

end Config

/-! ## Configurations -/

/-- What a configuration promises: languages that can be generated together, each once and in the
order of the table, an input that is there, and host types as the command line gives them. -/
structure GenerateConfig.Sound (t : FileTree) (words : List String) (c : GenerateConfig) :
    Prop where
  admissible : Slang.Admissible c.slangs
  ascending : c.slangs.Pairwise fun a b => Slang.table.idxOf a < Slang.table.idxOf b
  backends : (c.slangs.map Slang.backend).Nodup
  found : t.exists? c.input = .ok true
  typed : ∀ h ∈ c.hosts, (∃ u : UniformType, u.name = h.1) ∧ h.2 ≠ ""
  hosts : ∃ ts, CommandLine.tokens words = some ts ∧
    c.hosts.map (fun h => h.1 ++ "=" ++ h.2) = CommandLine.valuesOf .ctype ts

namespace Config

open CommandLine

theorem exists?_of_checkInput {t : FileTree} {input : Option (Setting PathName)} {path : PathName}
    (h : checkInput t input = .ok path) : t.exists? path = .ok true := by
  unfold checkInput at h
  split at h
  · simp at h
  · obtain ⟨path', -, h⟩ := bind_eq_ok.mp h
    split at h
    · next hfound =>
      obtain rfl := pure_eq_ok.mp h
      exact hfound
    · simp at h
    · simp at h

/-- Host types are read one from each mapping, which is the two parts with an equals sign. -/
theorem hosts_of_mapM {ctypes : List (Setting String)} {hosts : List (String × String)}
    (h : (ctypes.mapM fun s => do
      (readHostMapping (← valueOf .ctype s)).mapError ConfigStop.refused) = .ok hosts) :
    (∀ h ∈ hosts, (∃ u : UniformType, u.name = h.1) ∧ h.2 ≠ "") ∧
      ctypes = hosts.map fun h => .value (h.1 ++ "=" ++ h.2) := by
  have hread : List.Forall₂ (fun s h => ((∃ u : UniformType, u.name = h.1) ∧ h.2 ≠ "") ∧
      s = .value (h.1 ++ "=" ++ h.2)) ctypes hosts := by
    refine (mapM_eq_ok.mp h).imp fun s host hs => ?_
    obtain ⟨text, htext, hs⟩ := bind_eq_ok.mp hs
    obtain ⟨htype, hname, rfl⟩ := readHostMapping_eq_ok.mp (mapError_eq_ok.mp hs)
    cases s with
    | blank => exact nomatch htext
    | value s =>
      obtain rfl := Except.ok.inj htext
      exact ⟨⟨htype, hname⟩, rfl⟩
  refine ⟨fun host hhost => ?_, ?_⟩
  · obtain ⟨s, -, hs⟩ := exists_of_forall₂_right hread hhost
    exact hs.1
  · rw [← map_eq_map_of_forall₂ (f := id) hread fun s host hs => hs.2, List.map_id]

theorem toGenerate_eq_ok {t : FileTree} {args : Arguments} {cmdline : String} {c : GenerateConfig}
    (h : toGenerate t args cmdline = .ok c) :
    Slang.readRequest ((args.slang.bind Setting.value?).getD "") = .ok c.slangs ∧
    checkInput t args.input = .ok c.input ∧
    (args.ctypes.mapM fun s => do
      (readHostMapping (← valueOf .ctype s)).mapError ConfigStop.refused) = .ok c.hosts ∧
    c.cmdline = cmdline := by
  unfold toGenerate at h
  obtain ⟨slangs, hslangs, h⟩ := bind_eq_ok.mp h
  obtain ⟨input, hinput, h⟩ := bind_eq_ok.mp h
  split at h
  · simp at h
  · obtain ⟨module, -, h⟩ := bind_eq_ok.mp h
    obtain ⟨hosts, hhosts, h⟩ := bind_eq_ok.mp h
    obtain rfl := pure_eq_ok.mp h
    exact ⟨mapError_eq_ok.mp hslangs, hinput, hhosts, rfl⟩

theorem isModuleName_of_mapM {module : Option (Setting String)} {name : String}
    (h : (module.mapM fun s => do
      (checkModuleName (← valueOf .module s)).mapError ConfigStop.refused) = .ok (some name)) :
    isModuleName name = true := by
  cases module with
  | none => simp [pure, Except.pure] at h
  | some s =>
    obtain ⟨checked, hchecked, h⟩ := bind_eq_ok.mp h
    obtain rfl := Option.some.inj (pure_eq_ok.mp h)
    obtain ⟨text, -, hchecked⟩ := bind_eq_ok.mp hchecked
    obtain ⟨rfl, hname⟩ := checkModuleName_eq_ok.mp (mapError_eq_ok.mp hchecked)
    exact hname

/-- A module name in a configuration has passed its check. -/
theorem isModuleName_of_toGenerate {t : FileTree} {args : Arguments} {cmdline name : String}
    {c : GenerateConfig} (h : toGenerate t args cmdline = .ok c) (hname : c.module = some name) :
    isModuleName name = true := by
  unfold toGenerate at h
  obtain ⟨slangs, -, h⟩ := bind_eq_ok.mp h
  obtain ⟨input, -, h⟩ := bind_eq_ok.mp h
  split at h
  · simp at h
  · obtain ⟨module, hmodule, h⟩ := bind_eq_ok.mp h
    obtain ⟨hosts, -, h⟩ := bind_eq_ok.mp h
    obtain rfl := pure_eq_ok.mp h
    obtain rfl : module = some name := hname
    exact isModuleName_of_mapM hmodule

theorem toGenerate_of_ofArguments {t : FileTree} {args : Arguments} {cmdline : String}
    {c : GenerateConfig} (h : ofArguments t args cmdline = .ok (.generate c)) :
    toGenerate t args cmdline = .ok c := by
  unfold ofArguments at h
  split at h
  · split at h <;> simp at h
  · cases hgenerate : toGenerate t args cmdline with
    | error stop => simp [hgenerate, Except.map] at h
    | ok c' => simpa [hgenerate, Except.map] using h

/-- A configuration to generate comes from settings without the one that asks for a listing. -/
theorem toGenerate_of_ofWords {t : FileTree} {words : List String} {c : GenerateConfig}
    (h : ofWords t words = .ok (.generate c)) : ∃ args, Arguments.ofWords words = .ok args ∧
      toGenerate t args (" ".intercalate words) = .ok c := by
  unfold ofWords at h
  split at h
  · simp at h
  · next args hargs => exact ⟨args, hargs, toGenerate_of_ofArguments h⟩

theorem sound_of_ofWords {t : FileTree} {words : List String} {c : GenerateConfig}
    (h : ofWords t words = .ok (.generate c)) : c.Sound t words := by
  obtain ⟨args, hargs, h⟩ := toGenerate_of_ofWords h
  obtain ⟨hslangs, hinput, hhosts, -⟩ := toGenerate_eq_ok h
  obtain ⟨hadmissible, request, -, hrequest⟩ := Slang.admissible_of_readRequest hslangs
  obtain ⟨ts, hts, hctypes⟩ := Arguments.ctypes_ofWords hargs
  obtain ⟨htyped, hmappings⟩ := hosts_of_mapM hhosts
  refine ⟨hadmissible, ?_, ?_, exists?_of_checkInput hinput, htyped, ts, hts, ?_⟩
  · rw [hrequest]
    exact Slang.pairwise_inOrder request
  · have hnodup := Slang.sharedBackend?_eq_none.mp hadmissible.apart
    rwa [hrequest, Slang.inOrder_inOrder, ← hrequest] at hnodup
  · rw [hctypes] at hmappings
    refine (Arguments.eq_of_map_textSetting (hmappings.trans ?_)).symm
    rw [List.map_map]
    rfl

/-- Settings that do not ask for a listing are refused for the first of their checks that fails. -/
theorem ofWords_eq_error {t : FileTree} {words : List String} {args : Arguments}
    (hargs : Arguments.ofWords words = .ok args) (hlist : args.listSlangs = false)
    (stop : ConfigStop) : ofWords t words = .error stop ↔ (stops t args).head? = some stop := by
  unfold ofWords ofArguments
  rw [hargs]
  simp only [hlist, Bool.false_eq_true, if_false]
  rw [← fault?_eq_some, fault?_map, fault?_toGenerate]

end Config

end ShaderBindings
