/-
  Generating a module into a file (`generate`): it is assembled first, then written. Either the
  whole module is there afterwards or nothing has changed, with one exception: a file whose path
  leads in a circle once it is written is there, but not told of (`GenerateFault.after`). Which
  faults are reported is `GenerateFault.diagnostic?`.
-/
import ShaderBindings.FileTree.Replace
import ShaderBindings.Module.Assembly

namespace ShaderBindings

/-- A module as it was generated. -/
structure Generated where
  file : WrittenFile
  source : String
  warnings : List Diagnostic
deriving DecidableEq, Repr

inductive GenerateFault
  | assembly (f : AssemblyFault)
  | write (path : PathName) (f : WriteFault)
deriving DecidableEq, Repr

/-- The error about an output that cannot be written. -/
def FileFault.writeFailure (path : PathName) (f : FileFault) : Diagnostic :=
  { code := .destinationWriteFailure
    message := "failed to write output file '" ++ path.text ++ "': " ++ f.text
    file := path.text }

/-- The error that a fault is reported by. A zero in a name, a path that leads in a circle and a
request that makes no sense are not reported. -/
def GenerateFault.diagnostic? : GenerateFault → Option Diagnostic
  | assembly (.inconsistent d) => some d
  | assembly _ => none
  | write _ (.refused .zeroInName) => none
  | write path (.refused f) => some (f.writeFailure path)
  | write _ (.circle ..) => none

/-- The tree that a fault leaves behind. -/
def GenerateFault.after (before : FileTree) : GenerateFault → FileTree
  | write _ (.circle _ after) => after
  | _ => before

/-- Generates a module into a file. -/
def generate (t : FileTree) (inp : ShaderInput) (backends : Backends) (settings : Settings)
    (output : PathName) : Except GenerateFault (Generated × FileTree) := do
  let m ← (Module.assemble inp backends settings).mapError .assembly
  let (file, after) ← (t.writeText output m.source).mapError (.write output)
  return (⟨file, m.source, m.warnings⟩, after)

end ShaderBindings
