/-
  The report about a generated module (`Summary.ofGenerated`). The counts are taken from the
  input and the output for each language once more, not from the module
  (`BackendCount.ofBackend`); that they agree with it is in `Proofs.Summary`. `Summary.text` is
  the report in words, which `Summary.report` refuses for numbers that have no numeral.
-/
import ShaderBindings.Generation
import ShaderBindings.Text.Column

namespace ShaderBindings

/-- How many payloads of either sort one language has, and their bytes. -/
structure BackendCount where
  slang : String
  backend : String
  bytecode : Int
  source : Int
  payloadBytes : Int
deriving DecidableEq, Repr

structure Summary where
  module : Json
  output : String
  programs : List String
  uniformBlocks : Int
  backends : List BackendCount
  lineCount : Int
  warningCount : Int
deriving Repr

namespace BackendCount

/-- The bytes of payloads together. -/
def totalBytes : List Payload → Nat
  | [] => 0
  | p :: rest => p.data.length + totalBytes rest

def ofPayloads (slang : Slang) (payloads : List Payload) : BackendCount :=
  ⟨slang.name, slang.backend,
   (payloads.filter (·.isBytecode)).length,
   (payloads.filter (!·.isBytecode)).length,
   totalBytes payloads⟩

/-- The counts over the shaders that are embedded. -/
def ofBackend (inp : ShaderInput) (b : BackendOutput) : Except MissingPayload BackendCount := do
  let payloads ← inp.shaders.mapM fun s => Payload.ofSnippet inp.namePrefix s.name b
  return ofPayloads b.slang payloads

def line (c : BackendCount) : String :=
  "    " ++ Text.padRight 13 c.slang ++ Text.padRight 18 c.backend
    ++ Text.numeral c.source ++ " source, " ++ Text.numeral c.bytecode ++ " bytecode"
    ++ Text.padLeft 10 (Text.grouped c.payloadBytes) ++ " bytes"

def numbers (c : BackendCount) : List Int := [c.source, c.bytecode, c.payloadBytes]

end BackendCount

/-- A number of a report that has no numeral. -/
structure UnwritableNumber where
  number : Int
deriving DecidableEq, Repr

def UnwritableNumber.message (_ : UnwritableNumber) : String := Text.tooManyDigits none

namespace Summary

/-- The output for a language that the report counts. -/
def outputFor (backends : Backends) (slang : Slang) : Except SectionFault BackendOutput :=
  match backends.get? slang.name with
  | some b => .ok b
  | none => .error (.missingBackend slang.name)

/-- The report about a module written to a file of so many lines. -/
def ofOutput (inp : ShaderInput) (backends : Backends) (slangs : List Slang) (output : String)
    (lineCount warningCount : Nat) : Except SectionFault Summary := do
  let found ← slangs.mapM (outputFor backends)
  let counts ← (found.mapM (BackendCount.ofBackend inp)).mapError .missingPayload
  return {
    module := inp.module
    output
    programs := inp.sortedPrograms.map Program.name
    uniformBlocks := ((found.head?.map (sharedResources UniformBlock inp)).getD []).length
    backends := counts
    lineCount
    warningCount }

/-- The report about a generated module, with the languages of the request in the order of the
table. -/
def ofGenerated (inp : ShaderInput) (backends : Backends) (settings : Settings)
    (done : Generated) : Except SectionFault Summary :=
  ofOutput inp backends (Slang.inOrder settings.slangs) done.file.path.text done.file.lineCount
    done.warnings.length

def heading (s : Summary) : String :=
  if s.module.truthy then "Shader module '" ++ s.module.display ++ "' generated:"
  else "Shader module generated:"

/-- The names of the programs, or a dash. -/
def programList (s : Summary) : String :=
  let names := ", ".intercalate s.programs
  if names = "" then "-" else names

/-- The text of a report whose numbers can all be written. -/
def text (s : Summary) : String :=
  "\n".intercalate
    ([s.heading, "",
      "  Output:     " ++ s.output,
      "  Programs:   " ++ s.programList,
      "  Uniforms:   " ++ Text.numeral s.uniformBlocks ++ " block structs",
      "",
      "  Backends:"]
      ++ s.backends.map BackendCount.line
      ++ ["",
          "  Total: " ++ Text.grouped s.lineCount ++ " lines, " ++ Text.numeral s.warningCount
            ++ " warnings",
          ""])

/-- The numbers of a report, in the order in which they are written. -/
def numbers (s : Summary) : List Int :=
  s.uniformBlocks :: s.backends.flatMap BackendCount.numbers ++ [s.lineCount, s.warningCount]

/-- The report in words, for counts of any size. A run counts what it has at hand and writes the
text itself. -/
def report (s : Summary) : Except UnwritableNumber String :=
  match s.numbers.find? (!Text.hasNumeral ·) with
  | some n => .error ⟨n⟩
  | none => .ok s.text

end Summary

end ShaderBindings
