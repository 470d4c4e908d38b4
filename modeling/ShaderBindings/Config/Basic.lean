/-
  Configurations (`Config`): which module is to be generated from which dump, or that the
  languages are to be listed. `Config.toGenerate` checks a command line in the order languages
  (`Slang.readRequest`), input, output, module name (`checkModuleName`), host types
  (`readHostMapping`), and stops at the first fault (`ConfigStop`). Of the tree of files only
  the input is looked up here; the output is not.
-/
import ShaderBindings.CommandLine.Arguments
import ShaderBindings.Config.Fault
import ShaderBindings.Discovery
import ShaderBindings.FileTree.Lookup
import ShaderBindings.Identifier

namespace ShaderBindings

/-- What to generate. The host types are pairs of a uniform type and a name. Settings that are not
looked at before they are used may be blank. -/
structure GenerateConfig where
  input : PathName
  output : Setting PathName
  slangs : List Slang
  module : Option String
  hosts : List (String × String)
  version : Setting Int
  errorFormat : Setting ErrorFormat
  cmdline : String
deriving DecidableEq, Repr

inductive Config
  | generate (c : GenerateConfig)
  | discover (d : Discovery)
deriving DecidableEq, Repr

/-- Why there is no configuration. -/
inductive ConfigStop
  | early (e : CommandLine.EarlyEnd)
  | refused (f : ConfigFault)
  /-- An option that needs a value is blank. -/
  | blank (o : CommandLine.OptionName)
  /-- Looking for a path has failed. -/
  | blocked (path : PathName) (f : FileFault)
deriving DecidableEq, Repr

namespace Slang

/-- The languages of a list of names between colons. -/
def namedIn : List String → Except ConfigFault (List Slang)
  | [] => .ok []
  | name :: rest =>
    match ofName? name with
    | none => .error (.unknownSlang name)
    | some s => do return s :: (← namedIn rest)

/-- Reads a request: names between colons, of languages with different backends. -/
def readRequest (s : String) : Except ConfigFault (List Slang) := do
  if s = "" then .error .missingSlang
  let request ← namedIn ((s.toList.splitOn ':').map String.ofList)
  match sharedBackend? request with
  | some (first, second) => .error (.sharedBackend first second)
  | none => return inOrder request

end Slang

/-- Reads a host type mapping: the name of a uniform type, an equals sign, a name. -/
def readHostMapping (s : String) : Except ConfigFault (String × String) :=
  match CommandLine.splitAtEquals s.toList with
  | (type, some host) =>
    if (UniformType.ofName? type).isSome ∧ host ≠ "" then .ok (type, host)
    else .error (.badHostMapping s)
  | (_, none) => .error (.badHostMapping s)

/-- A name that a module may have. -/
def checkModuleName (name : String) : Except ConfigFault String :=
  if isModuleName name then .ok name else .error (.badModuleName name)

namespace Config

/-- Whether a text is given that is not empty. -/
def isFilled (s : Option (Setting String)) : Bool := (s.bind Setting.value?).getD "" != ""

/-- Whether anything is given that a listing has no use for. A host type mapping counts even if it
is blank. -/
def asksToGenerate (args : CommandLine.Arguments) : Bool :=
  (args.input.bind Setting.value?).isSome || (args.output.bind Setting.value?).isSome
    || isFilled args.slang || isFilled args.module || !args.ctypes.isEmpty

/-- The value of an option that needs one. -/
def valueOf (o : CommandLine.OptionName) : Setting α → Except ConfigStop α
  | .blank => .error (.blank o)
  | .value a => .ok a

/-- The input, which must be there. -/
def checkInput (t : FileTree) : Option (Setting PathName) → Except ConfigStop PathName
  | none => .error (.refused .missingInput)
  | some s => do
    let path ← valueOf .input s
    match t.exists? path with
    | .ok true => return path
    | .ok false => .error (.refused (.inputNotFound path))
    | .error f => .error (.blocked path f)

/-- What to generate for a command line. -/
def toGenerate (t : FileTree) (args : CommandLine.Arguments) (cmdline : String) :
    Except ConfigStop GenerateConfig := do
  let request := (args.slang.bind Setting.value?).getD ""
  let slangs ← (Slang.readRequest request).mapError .refused
  let input ← checkInput t args.input
  match args.output with
  | none => .error (.refused .missingOutput)
  | some output =>
    let module ← args.module.mapM fun s => do
      (checkModuleName (← valueOf .module s)).mapError ConfigStop.refused
    let hosts ← args.ctypes.mapM fun s => do
      (readHostMapping (← valueOf .ctype s)).mapError ConfigStop.refused
    return {
      input, output, slangs, module, hosts, cmdline
      version := args.version
      errorFormat := args.errorFormat }

/-- The configuration for the settings of a command line. -/
def ofArguments (t : FileTree) (args : CommandLine.Arguments) (cmdline : String) :
    Except ConfigStop Config :=
  if args.listSlangs then
    if asksToGenerate args then .error (.refused .listWithOthers) else .ok (.discover .listSlangs)
  else (toGenerate t args cmdline).map .generate

/-- The configuration for a command line. -/
def ofWords (t : FileTree) (words : List String) : Except ConfigStop Config :=
  match CommandLine.Arguments.ofWords words with
  | .error e => .error (.early e)
  | .ok args => ofArguments t args (" ".intercalate words)

end Config

end ShaderBindings
