/-
  Taking JSON values apart: fields (`Json.field`, `Json.fieldOr`), items (`Json.items`), entries
  by name (`Json.asNamed`), and the conversions to integers and bytes (`Json.asInt`,
  `Json.asBytes`) that dumps rely on. How texts are read is left to a `TextReader`:
  `Json.asText` takes texts only, `Json.asShown` does not look at what stands there and takes it
  as it is shown. The program does the second; the first tells the dumps that it is meant for.
  Read in the second way, entries whose keys are shown alike stay apart.
-/
import ShaderBindings.Bytes.Hex
import ShaderBindings.Dump.Fault
import ShaderBindings.Json.Display
import ShaderBindings.Json.Key

namespace ShaderBindings

/-- How a value is read where a text is due. -/
abbrev TextReader := Json → Except DumpFault String

namespace Json

/-- A field that must be there. -/
def field (name : String) : Json → Except DumpFault Json
  | object fields =>
    match fields.lookup name with
    | some v => .ok v
    | none => .error (.missingField name)
  | _ => .error .wrongShape

/-- A field, or else a default. -/
def fieldOr (name : String) (v default : Json) : Except DumpFault Json :=
  match v with
  | object fields => .ok ((fields.lookup name).getD default)
  | _ => .error .noFields

/-- The items of an array, the characters of a text, or the names of an object's fields. -/
def items : Json → Except DumpFault (List Json)
  | array vs => .ok vs
  | text s => .ok (s.toList.map fun c => text (String.ofList [c]))
  | object fields => .ok (fields.map fun f => text f.1)
  | _ => .error .wrongShape

/-- The fields of an object by name. -/
def namedFields : Json → Except DumpFault (Named Json)
  | object fields => .ok fields
  | _ => .error .noFields

/-- Takes nothing but texts. -/
def asText : TextReader
  | text s => .ok s
  | _ => .error .wrongShape

/-- Takes anything as it is shown, a text as it is. -/
def asShown : TextReader := fun v => .ok v.display

/-- An integer: as given, cut off toward zero, read from a text, or one for true. -/
def asInt : Json → Except DumpFault Int
  | int n => .ok n
  | bool b => .ok (if b then 1 else 0)
  | float x =>
    match x with
    | .nan => .error .undefinedNumber
    | .infinite _ => .error .infiniteNumber
    | x => match x.truncate? with
      | some n => .ok n
      | none => .error .undefinedNumber
  | text s =>
    match Text.readInt s with
    | .ok n => .ok n
    | .error f => .error (.badNumeral s f)
  | _ => .error .wrongShape

def asBytes : Json → Except DumpFault Bytes
  | text s =>
    match Bytes.ofHex s with
    | .ok bytes => .ok bytes
    | .error position => .error (.badHex position)
  | _ => .error .wrongShape

/-- The texts, integers and items in fields of an object. -/
def textField (read : TextReader) (name : String) (v : Json) : Except DumpFault String := do
  read (← v.field name)

def textFieldOr (read : TextReader) (name default : String) (v : Json) :
    Except DumpFault String := do
  read (← v.fieldOr name (.text default))

def intField (name : String) (v : Json) : Except DumpFault Int := do (← v.field name).asInt

def intFieldOr (name : String) (default : Int) (v : Json) : Except DumpFault Int := do
  (← v.fieldOr name (.int default)).asInt

/-- A field's items, each decoded; a missing field has none. -/
def listField {α : Type} (name : String) (decode : Json → Except DumpFault α) (v : Json) :
    Except DumpFault (List α) := do
  (← (← v.fieldOr name (.array [])).items).mapM decode

/-- The pairs of a list, the first of them at the given index, added to what is there. -/
def addPairs (found : List (Json × Json)) (index : Nat) :
    List Json → Except DumpFault (List (Json × Json))
  | [] => .ok found
  | v :: rest => do
    match ← v.items with
    | [key, entry] =>
      if key.isKey then addPairs (putKey found key entry) (index + 1) rest else .error .wrongShape
    | parts => .error (.badPair index parts.length)

/-- A pair of a key and an entry, the key read as a text. -/
def namedEntry (read : TextReader) (e : Json × Json) : Except DumpFault (String × Json) := do
  return (← read e.1, e.2)

/-- Entries by name, from an object or a list of pairs. -/
def asNamed (read : TextReader) : Json → Except DumpFault (Named Json)
  | object fields => .ok fields
  | v => do (← addPairs [] 0 (← v.items)).mapM (namedEntry read)

end Json

end ShaderBindings
