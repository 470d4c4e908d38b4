/-
  What the options on a command line ask for. `Arguments.ofWords` takes the tokens of a command
  line from left to right (`take`) and fills in `Arguments`; it stops early (`EarlyEnd`) when
  help is asked for or the command line makes no sense. Values are taken as they are given here:
  languages, module names and host type mappings are looked at in `Config.Basic`. The text that
  is printed about usage and misuse is not modelled.
-/
import ShaderBindings.CommandLine.Token
import ShaderBindings.Diagnostic
import ShaderBindings.FileTree.PathName
import ShaderBindings.Setting
import ShaderBindings.Text.Numeral

namespace ShaderBindings.CommandLine

/-- Why nothing is done after the command line was read: help was asked for, or the command line
makes no sense. -/
inductive EarlyEnd
  | help
  | misuse
deriving DecidableEq, Repr

def EarlyEnd.exitCode : EarlyEnd → Nat
  | help => 0
  | misuse => 2

/-- The settings on a command line, none for one that is left out. Host type mappings are not read
yet. -/
structure Arguments where
  input : Option (Setting PathName) := none
  output : Option (Setting PathName) := none
  slang : Option (Setting String) := none
  module : Option (Setting String) := none
  ctypes : List (Setting String) := []
  version : Setting Int := .value 1
  errorFormat : Setting ErrorFormat := .value .gcc
  listSlangs : Bool := false
deriving DecidableEq, Repr

namespace Arguments

/-- Takes an option without a value. There is no result for one that needs a value. -/
def withFlag? (args : Arguments) : OptionName → Option (Except EarlyEnd Arguments)
  | .help => some (.error .help)
  | .listSlangs => some (.ok { args with listSlangs := true })
  | _ => none

/-- Reads a value. A double dash, which can only be attached to an option, is no value at all. -/
def readValue (read : String → Except EarlyEnd α) (value : String) :
    Except EarlyEnd (Setting α) :=
  if value = "--" then .ok .blank else (read value).map .value

def readVersion (value : String) : Except EarlyEnd Int :=
  (Text.readInt value).mapError fun _ => .misuse

def readErrorFormat (value : String) : Except EarlyEnd ErrorFormat :=
  match ErrorFormat.ofName? value with
  | some format => .ok format
  | none => .error .misuse

/-- Takes an option with its value. The last value counts; host type mappings add up. -/
def withValue (args : Arguments) (value : String) : OptionName → Except EarlyEnd Arguments
  | .input => do return { args with input := ← readValue (.ok ∘ PathName.ofText) value }
  | .output => do return { args with output := ← readValue (.ok ∘ PathName.ofText) value }
  | .slang => do return { args with slang := ← readValue .ok value }
  | .module => do return { args with module := ← readValue .ok value }
  | .ctype => do return { args with ctypes := args.ctypes ++ [← readValue .ok value] }
  | .genver => do return { args with version := ← readValue readVersion value }
  | .errfmt => do return { args with errorFormat := ← readValue readErrorFormat value }
  | .help | .listSlangs => .error .misuse

/-- Takes the options from left to right. Words left over are a misuse, but only at the end. -/
def take (args : Arguments) (leftOver : Bool) : List Token → Except EarlyEnd Arguments
  | [] => if leftOver then .error .misuse else .ok args
  | .value _ :: rest => take args true rest
  | .stray :: rest => take args true rest
  | .option o (some value) :: rest => do take (← args.withValue value o) leftOver rest
  | .option o none :: rest =>
    match args.withFlag? o with
    | some taken => do take (← taken) leftOver rest
    | none =>
      match rest with
      | .value value :: rest => do take (← args.withValue value o) leftOver rest
      | _ => .error .misuse

/-- Reads a command line. -/
def ofWords (words : List String) : Except EarlyEnd Arguments :=
  match tokens words with
  | some ts => take {} false ts
  | none => .error .misuse

end Arguments

end ShaderBindings.CommandLine
