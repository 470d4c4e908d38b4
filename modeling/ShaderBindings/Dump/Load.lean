/-
  Loading a dump from a file. `Dump.load` is what the program does: what stands where a text is
  due is not looked at and comes back as it is shown (`Json.asShown`). `Dump.loadTyped` refuses
  a dump that can be loaded but has something else than texts there; what the program makes of
  such a dump is not told (`LoadFault.isUntold`).
-/
import ShaderBindings.Config.Fault
import ShaderBindings.Dump.Model
import ShaderBindings.FileTree.Lookup

namespace ShaderBindings

inductive LoadFault
  | unreadable (path : PathName) (f : FileFault)
  /-- The bytes of the file are not text. -/
  | notText
  | unusable (path : PathName) (f : DumpFault)
  /-- The dump has something else than a text where one is due. -/
  | untyped (path : PathName)
deriving DecidableEq, Repr

/-- The configuration error that a fault amounts to, if the dump is malformed. -/
def LoadFault.malformed? : LoadFault → Option ConfigFault
  | unusable path f => if f.isMalformed then some (.malformedDump path f) else none
  | _ => none

/-- Whether a fault leaves open what the program makes of the dump. -/
def LoadFault.isUntold : LoadFault → Bool
  | unusable _ (.unread .unpaired) => true
  | untyped _ => true
  | _ => false

namespace Dump

/-- How deep arrays and objects in a dump may be nested, and how long its integers may be. -/
def limits : Json.Limits := ⟨990, some Text.longestNumeral⟩

/-- The value that is written in a file. -/
def readValue (t : FileTree) (path : PathName) : Except LoadFault Json := do
  let bytes ← (t.read path).mapError (.unreadable path)
  match Bytes.text? bytes with
  | none => .error .notText
  | some s => (Json.read limits s).mapError fun f => .unusable path (.unread f)

/-- Loads the dump in a file. -/
def load (t : FileTree) (path : PathName) : Except LoadFault Dump := do
  (ofJsonBy Json.asShown path.text (← readValue t path)).mapError (.unusable path)

/-- Loads the dump in a file if it has texts where they are due. -/
def loadTyped (t : FileTree) (path : PathName) : Except LoadFault Dump := do
  let v ← readValue t path
  let dump ← (ofJsonBy Json.asShown path.text v).mapError (.unusable path)
  if (ofJson path.text v).toBool then return dump else .error (.untyped path)

end Dump

end ShaderBindings
