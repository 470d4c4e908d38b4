/-
  The words of a command line: options, possibly with a value attached, and values
  (`Token.ofWord`, `tokens`). A word that starts with a dash is an option unless it reads as a
  negative number (`isNegativeNumber`) or has a blank in it. Long options may be shortened as
  far as they stay apart from each other (`OptionName.shortened`).
-/
import ShaderBindings.Text.Digit

namespace ShaderBindings.CommandLine

inductive OptionName
  | help
  | input
  | output
  | slang
  | module
  | ctype
  | genver
  | errfmt
  | listSlangs
deriving DecidableEq, Repr

namespace OptionName

def all : List OptionName :=
  [.help, .input, .output, .slang, .module, .ctype, .genver, .errfmt, .listSlangs]

/-- The short form of help, the only one there is. -/
def shortHelp : String := "-h"

/-- The option as it is written in full. -/
def flag : OptionName → String
  | help => "--help"
  | input => "--input"
  | output => "--output"
  | slang => "--slang"
  | module => "--module"
  | ctype => "--ctype"
  | genver => "--genver"
  | errfmt => "--errfmt"
  | listSlangs => "--list-slangs"

/-- The option written like this, in full. -/
def ofFlag? (s : String) : Option OptionName :=
  if s = shortHelp then some .help else all.find? (·.flag == s)

/-- The options that a shortened form may stand for. -/
def shortened (cs : List Char) : List OptionName :=
  all.filter fun o => cs.isPrefixOf o.flag.toList

end OptionName

/-- A word of the command line. A stray one is of no use where it stands. -/
inductive Token
  | value (text : String)
  | option (name : OptionName) (attached : Option String)
  | stray
deriving DecidableEq, Repr

/-- Whether a word reads as a negative number: a minus sign and digits, with a point in front of
the last of them or not. A line feed may follow. -/
def isNegativeNumber (cs : List Char) : Bool :=
  let isDigit (c : Char) : Bool := (Text.digitValue? c).isSome
  let isNumber (cs : List Char) : Bool :=
    let behind := cs.dropWhile isDigit
    match behind with
    | [] => !cs.isEmpty
    | '.' :: decimals => !decimals.isEmpty && decimals.all isDigit
    | _ => false
  match cs with
  | '-' :: rest => isNumber rest || (rest.getLast? == some '\n' && isNumber rest.dropLast)
  | _ => false

/-- A word split at its first equals sign. -/
def splitAtEquals (cs : List Char) : String × Option String :=
  let name := cs.takeWhile (· ≠ '=')
  match cs.dropWhile (· ≠ '=') with
  | [] => (String.ofList name, none)
  | _ :: value => (String.ofList name, some (String.ofList value))

/-- The short form of help with something attached to it: more letters that each ask for help, or
a value that help has no use for. -/
def helpCluster (attached : List Char) : Token :=
  if attached ≠ [] ∧ attached.all (· == 'h') then .option .help none
  else .option .help (some (String.ofList attached))

/-- A word that starts with a dash and is no option. -/
def dashed (cs : List Char) : Token :=
  if isNegativeNumber cs || cs.contains ' ' then .value (String.ofList cs) else .stray

/-- Takes one word. There is no result for a shortened option that may stand for several. -/
def Token.ofWord (s : String) : Option Token :=
  let cs := s.toList
  match cs with
  | '-' :: second :: rest =>
    match OptionName.ofFlag? s with
    | some o => some (.option o none)
    | none =>
      let (name, attached) := splitAtEquals cs
      match attached, OptionName.ofFlag? name with
      | some given, some o =>
        if name = OptionName.shortHelp then some (helpCluster given.toList)
        else some (.option o (some given))
      | _, _ =>
        if second = '-' then
          match OptionName.shortened name.toList with
          | [] => some (dashed cs)
          | [o] => some (.option o attached)
          | _ => none
        else if second = 'h' then some (helpCluster rest)
        else some (dashed cs)
  | _ => some (.value s)

/-- Takes all words. Nothing behind a double dash is an option, and it is of no use itself. -/
def tokens : List String → Option (List Token)
  | [] => some []
  | s :: rest =>
    if s = "--" then some [.stray]
    else
      match Token.ofWord s, tokens rest with
      | some token, some more => some (token :: more)
      | _, _ => none

end ShaderBindings.CommandLine
