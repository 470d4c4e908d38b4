/-
  Errors and warnings about an input (`Diagnostic`), with the place they refer to, and the two
  formats in which they are shown (`Diagnostic.text`). `Diagnostic.ofNames` makes one with its
  code and its severity given by name, and refuses names that it does not know.
-/
import ShaderBindings.Text.Decimal

namespace ShaderBindings

inductive DiagnosticCode
  | reflectionInconsistency
  | unresolvedReference
  | unsupportedType
  | destinationWriteFailure
deriving DecidableEq, Repr

namespace DiagnosticCode

def all : List DiagnosticCode :=
  [.reflectionInconsistency, .unresolvedReference, .unsupportedType, .destinationWriteFailure]

def name : DiagnosticCode → String
  | reflectionInconsistency => "REFLECTION_INCONSISTENCY"
  | unresolvedReference => "UNRESOLVED_REFERENCE"
  | unsupportedType => "UNSUPPORTED_TYPE"
  | destinationWriteFailure => "DESTINATION_WRITE_FAILURE"

def ofName? (name : String) : Option DiagnosticCode := all.find? (·.name == name)

end DiagnosticCode

inductive Severity
  | error
  | warning
deriving DecidableEq, Repr

namespace Severity

def name : Severity → String
  | error => "error"
  | warning => "warning"

def ofName? (name : String) : Option Severity := [error, warning].find? (·.name == name)

end Severity

/-- How a diagnostic is shown. -/
inductive ErrorFormat
  | gcc
  | msvc
deriving DecidableEq, Repr

namespace ErrorFormat

def name : ErrorFormat → String
  | gcc => "gcc"
  | msvc => "msvc"

def ofName? (name : String) : Option ErrorFormat := [gcc, msvc].find? (·.name == name)

end ErrorFormat

/-- One error or warning. Line zero means that the line is not known. -/
structure Diagnostic where
  code : DiagnosticCode
  message : String
  file : String
  line : Int := 0
  severity : Severity := .error
deriving DecidableEq, Repr

/-- Why there is no such diagnostic. -/
inductive DiagnosticFault
  | unknownCode (name : String)
  | unknownSeverity (name : String)
deriving DecidableEq, Repr

def DiagnosticFault.message : DiagnosticFault → String
  | unknownCode name => "Unknown generate error code: " ++ name
  | unknownSeverity name => "Unknown diagnostic severity: " ++ name

namespace Diagnostic

/-- A diagnostic with its code and severity given by name. -/
def ofNames (code message file : String) (line : Int) (severity : String) :
    Except DiagnosticFault Diagnostic :=
  match DiagnosticCode.ofName? code, Severity.ofName? severity with
  | none, _ => .error (.unknownCode code)
  | some _, none => .error (.unknownSeverity severity)
  | some c, some s => .ok ⟨c, message, file, line, s⟩

/-- The diagnostic on one line. -/
def text (d : Diagnostic) : ErrorFormat → String
  | .gcc => d.file ++ ":" ++ Text.numeral d.line ++ ":0: " ++ d.severity.name ++ ": " ++ d.message
  | .msvc => d.file ++ "(" ++ Text.numeral d.line ++ "): " ++ d.severity.name ++ ": " ++ d.message

end Diagnostic

end ShaderBindings
