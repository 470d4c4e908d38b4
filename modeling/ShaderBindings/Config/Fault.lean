/-
  What can be wrong with a configuration. A `ConfigFault` stands for one way to refuse, and has
  a code, a message and a hint; `ConfigFault.error` puts them together and `ConfigError.lines`
  are what is printed. `ConfigError.ofNames` makes an error with its code given by name.
-/
import ShaderBindings.Dump.Fault
import ShaderBindings.FileTree.PathName
import ShaderBindings.Slang
import ShaderBindings.TypeTag

namespace ShaderBindings

inductive ConfigCode
  | missingSlang
  | invalidSlang
  | duplicateBackend
  | invalidCtype
  | invalidModuleName
  | invalidInput
  | missingOutput
  | pathNotFound
  | conflictGenerateDiscovery
deriving DecidableEq, Repr

namespace ConfigCode

def all : List ConfigCode :=
  [.missingSlang, .invalidSlang, .duplicateBackend, .invalidCtype, .invalidModuleName,
   .invalidInput, .missingOutput, .pathNotFound, .conflictGenerateDiscovery]

def name : ConfigCode → String
  | missingSlang => "MISSING_SLANG"
  | invalidSlang => "INVALID_SLANG"
  | duplicateBackend => "DUPLICATE_BACKEND"
  | invalidCtype => "INVALID_CTYPE"
  | invalidModuleName => "INVALID_MODULE_NAME"
  | invalidInput => "INVALID_INPUT"
  | missingOutput => "MISSING_OUTPUT"
  | pathNotFound => "PATH_NOT_FOUND"
  | conflictGenerateDiscovery => "CONFLICT_GENERATE_DISCOVERY"

def ofName? (name : String) : Option ConfigCode := all.find? (·.name == name)

end ConfigCode

/-- A configuration error as it is shown. -/
structure ConfigError where
  code : ConfigCode
  message : String
  suggestion : Option String := none
deriving DecidableEq, Repr

structure UnknownConfigCode where
  name : String
deriving DecidableEq, Repr

def UnknownConfigCode.message (u : UnknownConfigCode) : String :=
  "Unknown config error code: " ++ u.name

namespace ConfigError

/-- An error with its code given by name. -/
def ofNames (code message : String) (suggestion : Option String) :
    Except UnknownConfigCode ConfigError :=
  match ConfigCode.ofName? code with
  | some c => .ok ⟨c, message, suggestion⟩
  | none => .error ⟨code⟩

/-- The lines for the console. An empty hint is not shown. -/
def lines (e : ConfigError) : List String :=
  ("Config error [" ++ e.code.name ++ "]: " ++ e.message)
    :: match e.suggestion with
      | none => []
      | some hint => if hint = "" then [] else ["Hint: " ++ hint]

end ConfigError

/-- Why there is no configuration, or no dump to go with it. -/
inductive ConfigFault
  | listWithOthers
  | missingSlang
  | unknownSlang (name : String)
  | sharedBackend (first second : Slang)
  | missingInput
  | inputNotFound (path : PathName)
  | missingOutput
  | badModuleName (name : String)
  | badHostMapping (text : String)
  | malformedDump (path : PathName) (f : DumpFault)
deriving DecidableEq, Repr

namespace ConfigFault

def code : ConfigFault → ConfigCode
  | listWithOthers => .conflictGenerateDiscovery
  | missingSlang => .missingSlang
  | unknownSlang _ => .invalidSlang
  | sharedBackend _ _ => .duplicateBackend
  | missingInput => .pathNotFound
  | inputNotFound _ => .pathNotFound
  | missingOutput => .missingOutput
  | badModuleName _ => .invalidModuleName
  | badHostMapping _ => .invalidCtype
  | malformedDump _ _ => .invalidInput

def message : ConfigFault → String
  | listWithOthers => "--list-slangs cannot be combined with generation flags."
  | missingSlang => "No target shading language given."
  | unknownSlang name => "Unknown shading language: " ++ Text.quoted name
  | sharedBackend first second =>
    "Shading languages " ++ first.name ++ " and " ++ second.name ++ " both map to backend "
      ++ second.backend ++ "."
  | missingInput => "--input is required: no path provided."
  | inputNotFound path => "Path for --input does not exist: " ++ path.text
  | missingOutput => "--output is required: no path provided."
  | badModuleName name => "Invalid module name: " ++ Text.quoted name
  | badHostMapping text => "Invalid ctype mapping: " ++ Text.quoted text
  | malformedDump path f => "Malformed reflection dump " ++ path.text ++ ": " ++ f.describe

def suggestion : ConfigFault → String
  | listWithOthers => "Run --list-slangs on its own."
  | missingSlang => "Pass --slang with a colon-separated list, e.g. --slang glsl330:hlsl5."
  | unknownSlang _ => "Use one of: " ++ ", ".intercalate Slang.names ++ "."
  | sharedBackend _ _ => "Generate one file per conflicting shading language."
  | missingInput => "Pass the path explicitly: --input /path/to/resource"
  | inputNotFound _ => "Provide an existing path for this flag."
  | missingOutput => "Pass the destination file: --output shader.odin"
  | badModuleName _ =>
    "Module names are used as identifier prefix and must match [A-Za-z_][A-Za-z0-9_]*."
  | badHostMapping _ =>
    "Use TYPE=NAME where TYPE is one of: "
      ++ ", ".intercalate (UniformType.all.map UniformType.name) ++ "."
  | malformedDump _ _ => "Regenerate the dump with the shader front end."

/-- The error for the console. -/
def error (f : ConfigFault) : ConfigError := ⟨f.code, f.message, some f.suggestion⟩

end ConfigFault

end ShaderBindings
