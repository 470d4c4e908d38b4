/-
  Runs and their configurations. A run that has a configuration to generate from comes to what
  `generateModule` does (`ofWords_of_generate`); any other prints a listing or stops before it
  reads a dump (`ofWords_of_not_generate`). A run generates only for a sound configuration,
  whose request the assembly accepts: what it breaks down on, if anything, is never the request
  (`AssemblyFault.blamesRequest`). `assemble_eq_error` says so of the assembly,
  `assemble_of_crashed` finds the assembly on which a run breaks down. Other faults of the
  assembly, a missing source for one, may well end a run.
-/
import ShaderBindings.Proofs.Config

namespace ShaderBindings

open Fallible

/-! ## Guards of the assembly -/

/-- The faults that say that the request itself makes no sense. -/
def AssemblyFault.blamesRequest : AssemblyFault → Bool
  | .emptyRequest | .unlistedSlang | .sharedBackend .. => true
  | .inconsistent _ | .incomplete _ | .verbatimNotText => false

namespace Module

variable {inp : ShaderInput} {backends : Backends} {settings : Settings} {f : AssemblyFault}

theorem backend_eq_error {slang : Slang} (h : backend backends slang = .error f) :
    f.blamesRequest = false := by
  unfold backend at h
  split at h
  · simp at h
  · obtain rfl := Except.error.inj h
    rfl

theorem payloadSection_eq_error {slang : Slang} (h : payloadSection inp backends slang = .error f) :
    f.blamesRequest = false := by
  unfold payloadSection at h
  rcases bind_eq_error.mp h with h | ⟨b, -, h⟩
  · exact backend_eq_error h
  · rcases bind_eq_error.mp h with h | ⟨embedded, -, h⟩
    · obtain ⟨g, -, rfl⟩ := mapError_eq_error.mp h
      rfl
    · simp [pure, Except.pure] at h

theorem verbatimLines_eq_error (h : verbatimLines settings = .error f) :
    f.blamesRequest = false := by
  unfold verbatimLines at h
  split at h
  · simp at h
  · obtain rfl := Except.error.inj h
    rfl

/-- Languages in order are never blamed themselves. -/
theorem ofSlangs_eq_error {first : Slang} {rest : List Slang}
    (h : ofSlangs inp backends settings first rest = .error f) : f.blamesRequest = false := by
  unfold ofSlangs at h
  rcases bind_eq_error.mp h with h | ⟨_, -, h⟩
  · obtain ⟨slang, -, h⟩ := exists_of_forM_eq_error h
    obtain ⟨d, -, rfl⟩ := mapError_eq_error.mp h
    rfl
  rcases bind_eq_error.mp h with h | ⟨b, -, h⟩
  · exact backend_eq_error h
  rcases bind_eq_error.mp h with h | ⟨header, -, h⟩
  · obtain ⟨missing, -, rfl⟩ := mapError_eq_error.mp h
    rfl
  rcases bind_eq_error.mp h with h | ⟨attrs, -, h⟩
  · obtain ⟨missing, -, rfl⟩ := mapError_eq_error.mp h
    rfl
  rcases bind_eq_error.mp h with h | ⟨payloads, -, h⟩
  · obtain ⟨slang, -, h⟩ := exists_of_mapM_eq_error h
    exact payloadSection_eq_error h
  rcases bind_eq_error.mp h with h | ⟨procedures, -, h⟩
  · obtain ⟨g, -, rfl⟩ := mapError_eq_error.mp h
    rfl
  rcases bind_eq_error.mp h with h | ⟨verbatim, -, h⟩
  · exact verbatimLines_eq_error h
  · simp [pure, Except.pure] at h

/-- The guards of the assembly let every admissible request through. -/
theorem assemble_eq_error (hrequest : Slang.Admissible settings.slangs)
    (h : assemble inp backends settings = .error f) : f.blamesRequest = false := by
  obtain ⟨first, rest, hslangs⟩ := hrequest.exists_cons
  rw [assemble_eq_ofSlangs hrequest hslangs] at h
  exact ofSlangs_eq_error h

end Module

theorem assemble_of_generate {t : FileTree} {inp : ShaderInput} {backends : Backends}
    {settings : Settings} {output : PathName} {f : AssemblyFault}
    (h : generate t inp backends settings output = .error (.assembly f)) :
    Module.assemble inp backends settings = .error f := by
  unfold generate at h
  rcases bind_eq_error.mp h with h | ⟨m, -, h⟩
  · obtain ⟨g, hg, heq⟩ := mapError_eq_error.mp h
    obtain rfl := GenerateFault.assembly.inj heq
    exact hg
  · rcases bind_eq_error.mp h with h | ⟨found, -, h⟩
    · obtain ⟨g, -, hg⟩ := mapError_eq_error.mp h
      simp at hg
    · simp [pure, Except.pure] at h

namespace Run

/-! ## What a run is configured for -/

section

variable {t : FileTree} {words : List String}

theorem ofWords_of_generate {c : GenerateConfig} (h : Config.ofWords t words = .ok (.generate c)) :
    ofWords t words = generateModule t c := by
  unfold ofWords
  rw [h]
  rfl

/-- A run that is not to generate anything does not come to a dump: it prints a listing or stops
before. -/
theorem ofWords_of_not_generate (h : ∀ c, Config.ofWords t words ≠ .ok (.generate c)) :
    (ofWords t words).tree = t ∧ (ofWords t words).ending ≠ .untold ∧
    (∀ f, (ofWords t words).ending ≠ .crashed (.generate f)) ∧
    ((ofWords t words).ending = .finished →
      ∃ d, Config.ofWords t words = .ok (.discover d)) := by
  unfold ofWords
  cases hconfig : Config.ofWords t words with
  | error stop => cases stop <;> simp [refuse]
  | ok config =>
    cases config with
    | discover d => exact ⟨rfl, nofun, nofun, fun _ => ⟨d, rfl⟩⟩
    | generate c => exact absurd hconfig (h c)

end

/-! ## Runs that break down -/

theorem endGenerating_crashed {t : FileTree} {before : List String} {format : ErrorFormat}
    {f g : GenerateFault} (h : (endGenerating t before format f).ending = .crashed (.generate g)) :
    f = g := by
  unfold endGenerating at h
  split at h
  · simp at h
  · simpa using h

theorem endLoading_crashed {t : FileTree} {before : List String} {f : LoadFault}
    {g : GenerateFault} : (endLoading t before f).ending ≠ .crashed (.generate g) := by
  unfold endLoading
  split
  · simp
  · split <;> simp [refuse]

/-- A run that breaks down on the assembly does so for an assembly with its configuration. -/
theorem assemble_of_crashed {t : FileTree} {words : List String} {f : AssemblyFault}
    (h : (ofWords t words).ending = .crashed (.generate (.assembly f))) :
    ∃ c dump, Config.ofWords t words = .ok (.generate c) ∧
      Module.assemble (shaderInput c dump) dump.backends (settings c dump) = .error f := by
  by_cases hgenerate : ∃ c, Config.ofWords t words = .ok (.generate c)
  · obtain ⟨c, hconfig⟩ := hgenerate
    rw [ofWords_of_generate hconfig] at h
    unfold generateModule at h
    split at h
    · exact absurd h endLoading_crashed
    · next dump hdump =>
      refine ⟨c, dump, hconfig, ?_⟩
      split at h
      · next output houtput =>
        simp only [writeModule] at h
        split at h
        · next g hg =>
          obtain rfl := endGenerating_crashed h
          exact assemble_of_generate hg
        · split at h <;> simp at h
      · simp only [endUnwritten] at h
        split at h
        · next g hg =>
          obtain rfl := GenerateFault.assembly.inj (endGenerating_crashed h)
          exact hg
        · simp at h
  · obtain ⟨-, -, hcrashed, -⟩ := ofWords_of_not_generate (not_exists.mp hgenerate)
    exact absurd h (hcrashed _)

/-- With a configuration from a command line no assembly, of whatever dump, fails on the request. -/
theorem blamesRequest_eq_false {t : FileTree} {words : List String} {c : GenerateConfig}
    {dump : Dump} {f : AssemblyFault} (hc : Config.ofWords t words = .ok (.generate c))
    (h : Module.assemble (shaderInput c dump) dump.backends (settings c dump) = .error f) :
    f.blamesRequest = false := by
  have hrequest : Slang.Admissible (settings c dump).slangs :=
    (Config.sound_of_ofWords hc).admissible
  exact Module.assemble_eq_error hrequest h

/-- What a command line is configured to generate is sound, so that with no dump at all the assembly
fails on the request, and no run breaks down on it; and a command line that is to generate is
stopped by the first of its checks that fails, if any does. -/
theorem configured_soundly (t : FileTree) (words : List String) :
    (∀ c, Config.ofWords t words = .ok (.generate c) → c.Sound t words) ∧
    (∀ c dump f, Config.ofWords t words = .ok (.generate c) →
      Module.assemble (shaderInput c dump) dump.backends (settings c dump) = .error f →
      f.blamesRequest = false) ∧
    (∀ f : AssemblyFault, f.blamesRequest = true →
      (ofWords t words).ending ≠ .crashed (.generate (.assembly f))) ∧
    ∀ args, CommandLine.Arguments.ofWords words = .ok args → args.listSlangs = false →
      ∀ stop, Config.ofWords t words = .error stop ↔
        (Config.stops t args).head? = some stop := by
  refine ⟨fun c hc => Config.sound_of_ofWords hc,
    fun c dump f hc hassemble => blamesRequest_eq_false hc hassemble, fun f hf hcrashed => ?_,
    fun args hargs hlist => Config.ofWords_eq_error hargs hlist⟩
  obtain ⟨c, dump, hc, hassemble⟩ := assemble_of_crashed hcrashed
  rw [blamesRequest_eq_false hc hassemble] at hf
  cases hf

/-! ## A command line for two languages -/

/-- A tree with one dump. -/
def bench : FileTree where
  home := []
  entries := [([], .directory 0o755), (["in.json"], .file (Bytes.ofText "\x7b\x7d") 0o644)]

def benchWords : List String :=
  ["--slang", "hlsl5:glsl330", "--ctype", "vec4=Color", "--input", "in.json", "--ctype=mat4=Pose",
   "--output", "shader.odin"]

/-- What it asks for. -/
def benchConfig : GenerateConfig where
  input := PathName.ofText "in.json"
  output := .value (PathName.ofText "shader.odin")
  slangs := [⟨"glsl330", "glsl", ".GLCORE33", 0⟩, ⟨"hlsl5", "hlsl", ".D3D11", 5⟩]
  module := none
  hosts := [("vec4", "Color"), ("mat4", "Pose")]
  version := .value 1
  errorFormat := .value .gcc
  cmdline := " ".intercalate benchWords

/-- A dump without output for any language. -/
def emptyDump : Dump where
  input := { basePath := "" }

/-- Of several things that are wrong, the leftmost unknown name counts. -/
def slipWords : List String :=
  ["--module", "9", "--slang", "hlsl4:glsl9:hlsl5", "--ctype", "vec5=V"]

theorem bench_configured :
    (∃ c, Config.ofWords bench benchWords = .ok (.generate c) ∧ c.Sound bench benchWords ∧
      ∃ f, Module.assemble (shaderInput c emptyDump) [] (settings c emptyDump) = .error f ∧
        f.blamesRequest = false) ∧
    (AssemblyFault.emptyRequest.blamesRequest = true ∧
      (ofWords bench benchWords).ending ≠ .crashed (.generate (.assembly .emptyRequest))) ∧
    ∃ args, CommandLine.Arguments.ofWords slipWords = .ok args ∧ args.listSlangs = false ∧
      Config.ofWords bench slipWords = .error (.refused (.unknownSlang "glsl9")) := by
  obtain ⟨hsound, hassembly, hguard, -⟩ := configured_soundly bench benchWords
  obtain ⟨-, -, -, hstop⟩ := configured_soundly bench slipWords
  refine ⟨?_, ⟨rfl, hguard .emptyRequest rfl⟩, ?_⟩
  · have hok : Config.ofWords bench benchWords = .ok (.generate benchConfig) := by decide +kernel
    refine ⟨_, hok, hsound _ hok, ?_⟩
    have hfails : (Module.assemble (shaderInput benchConfig emptyDump) []
        (settings benchConfig emptyDump)).toBool = false := by decide +kernel
    obtain ⟨f, hf⟩ := exists_eq_error_of_toBool hfails
    exact ⟨f, hf, hassembly _ emptyDump f hok hf⟩
  · have hargs : CommandLine.Arguments.ofWords slipWords = .ok {
        slang := some (.value "hlsl4:glsl9:hlsl5")
        module := some (.value "9")
        ctypes := [.value "vec5=V"] } := by decide +kernel
    exact ⟨_, hargs, rfl, (hstop _ hargs rfl _).mpr (by decide +kernel)⟩

end Run

end ShaderBindings
