/-
  A run of the program (`Run.ofWords`): what it prints, how it ends, and the tree of files that
  it leaves behind (`Outcome`). Faults of a configuration, of loading and of generating end a
  run with a message or, as a `Crash`, without one. `Ending.untold` stands for a run that comes
  to a dump about which nothing is told: with an unpaired surrogate, or with something else than
  a text where one is due.
-/
import ShaderBindings.Config.Basic
import ShaderBindings.Dump.Load
import ShaderBindings.Generation
import ShaderBindings.Summary

namespace ShaderBindings

/-- A fault that is not reported but ends the program. -/
inductive Crash
  /-- An option that needs a value is blank. -/
  | blank (o : CommandLine.OptionName)
  | path (p : PathName) (f : FileFault)
  | load (f : LoadFault)
  | generate (f : GenerateFault)
  | summary (f : SectionFault)
deriving DecidableEq, Repr

/-- How a run ends. What a run does with a dump that has an unpaired surrogate, or something else
than a text where one is due, is not told; what is printed and the tree are then those at the time
when the dump is read. -/
inductive Ending
  | finished
  | exited (code : Nat)
  | crashed (c : Crash)
  | untold
deriving DecidableEq, Repr

structure Outcome where
  printed : String
  ending : Ending
  tree : FileTree
deriving DecidableEq, Repr

namespace Run

/-- Lines as they are printed. -/
def console (lines : List String) : String := String.join (lines.map (· ++ "\n"))

/-- The end of a run with a configuration error. -/
def refuse (t : FileTree) (before : List String) (f : ConfigFault) : Outcome :=
  ⟨console (before ++ f.error.lines), .exited 1, t⟩

/-- The end of a run whose dump cannot be loaded. -/
def endLoading (t : FileTree) (before : List String) (f : LoadFault) : Outcome :=
  if f.isUntold then ⟨console before, .untold, t⟩
  else
    match f, f.malformed? with
    | _, some fault => refuse t before fault
    | .unreadable path .zeroInName, none =>
      ⟨console before, .crashed (.load (.unreadable path .zeroInName)), t⟩
    | .unreadable path f, none =>
      ⟨console (before ++ ["Error: " ++ f.message path]), .exited 1, t⟩
    | f, none => ⟨console before, .crashed (.load f), t⟩

/-- The end of a run whose module cannot be generated. -/
def endGenerating (t : FileTree) (before : List String) (format : ErrorFormat)
    (f : GenerateFault) : Outcome :=
  match f.diagnostic? with
  | some d => ⟨console (before ++ [d.text format]), .exited 1, t⟩
  | none => ⟨console before, .crashed (.generate f), f.after t⟩

/-- The dump with the settings of the command line taking precedence. -/
def settings (c : GenerateConfig) (dump : Dump) : Settings where
  slangs := c.slangs
  hosts := dump.hosts.override (c.hosts.map fun (type, host) => (type, .text host))
  verbatim := dump.verbatim
  version := c.version
  cmdline := c.cmdline

/-- The input under the name given on the command line, if there is one. -/
def shaderInput (c : GenerateConfig) (dump : Dump) : ShaderInput :=
  match c.module with
  | none => dump.input
  | some name => { dump.input with module := .text name }

def countsLine (inp : ShaderInput) (dump : Dump) : String :=
  "  Input: " ++ Text.digits inp.snippets.length ++ " snippets, "
    ++ Text.digits inp.programs.length ++ " programs, "
    ++ Text.digits dump.backends.length ++ " backends"

def slangsLine (c : GenerateConfig) : String :=
  "  Slangs: " ++ ", ".intercalate (c.slangs.map Slang.name)

def writtenLine (file : WrittenFile) : String :=
  "  Written: " ++ Text.digits file.lineCount ++ " lines, " ++ Text.digits file.byteCount
    ++ " bytes to " ++ file.path.text

/-- Writes the module for a dump to a file. What has been printed so far comes first. -/
def writeModule (t : FileTree) (c : GenerateConfig) (dump : Dump) (before : List String)
    (output : PathName) : Outcome :=
  let inp := shaderInput c dump
  let format := c.errorFormat.valueOr .gcc
  match generate t inp dump.backends (settings c dump) output with
  | .error f => endGenerating t before format f
  | .ok (done, after) =>
    let written := before ++ done.warnings.map (·.text format) ++ [writtenLine done.file]
    match Summary.ofGenerated inp dump.backends (settings c dump) done with
    | .error f => ⟨console written, .crashed (.summary f), after⟩
    | .ok summary => ⟨console written ++ summary.text, .finished, after⟩

/-- The end of a run without an output: the module is assembled, but there is nowhere to write
it. -/
def endUnwritten (t : FileTree) (c : GenerateConfig) (dump : Dump) (before : List String) :
    Outcome :=
  match Module.assemble (shaderInput c dump) dump.backends (settings c dump) with
  | .error f => endGenerating t before (c.errorFormat.valueOr .gcc) (.assembly f)
  | .ok _ => ⟨console before, .crashed (.blank .output), t⟩

/-- Generates what a configuration asks for. -/
def generateModule (t : FileTree) (c : GenerateConfig) : Outcome :=
  let loading := ["Loading: " ++ c.input.text]
  match Dump.loadTyped t c.input with
  | .error f => endLoading t loading f
  | .ok dump =>
    let loaded := loading ++ [countsLine (shaderInput c dump) dump, slangsLine c]
    match c.output with
    | .value output => writeModule t c dump loaded output
    | .blank => endUnwritten t c dump loaded

/-- Runs a configuration. -/
def ofConfig (t : FileTree) : Config → Outcome
  | .discover d => ⟨d.text, .finished, t⟩
  | .generate c => generateModule t c

/-- Runs a command line. -/
def ofWords (t : FileTree) (words : List String) : Outcome :=
  match Config.ofWords t words with
  | .error (.early e) => ⟨"", .exited e.exitCode, t⟩
  | .error (.refused f) => refuse t [] f
  | .error (.blank o) => ⟨"", .crashed (.blank o), t⟩
  | .error (.blocked path f) => ⟨"", .crashed (.path path f), t⟩
  | .ok c => ofConfig t c

end Run

end ShaderBindings
