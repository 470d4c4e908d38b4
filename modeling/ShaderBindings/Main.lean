/-
  The command line program. What a run does is worked out by `Run.ofWords` on a picture of the
  files that its command line names (`pictureFor`); then the files that have changed are stored.
  Nothing is proved about this outer layer, which cannot see permissions and follows links on
  the way.
-/
import ShaderBindings.Run

namespace ShaderBindings.Console

/-- What is on disk under a path, links followed. The disk does not tell permissions. -/
def entryOnDisk (t : FileTree) (path : String) : IO (Option Entry) := do
  match ← (IO.FS.realPath path).toBaseIO with
  | .error _ => return none
  | .ok found =>
    if ← found.isDir then return some (.directory t.newDirectoryMode)
    else if ← found.pathExists then
      return some (.file (← IO.FS.readBinFile found).toList t.newFileMode)
    else return none

/-- Adds what is on disk along a path. -/
def addPath (t : FileTree) (p : PathName) : IO FileTree :=
  (List.range (p.parts.length + 1)).foldlM (fun t n => do
    let part : PathName := { p with parts := p.parts.take n }
    match ← entryOnDisk t part.text with
    | none => return t
    | some e => return t.put (Location.advance (t.start p) part.parts) e) t

/-- The files that a command line names, and the directories on the way to them. -/
def pictureFor (words : List String) : IO FileTree := do
  let home := PathName.ofText (← IO.currentDir).toString
  let t ← addPath { home := home.parts, entries := [] } home
  match CommandLine.Arguments.ofWords words with
  | .error _ => return t
  | .ok args =>
    (args.input.toList ++ args.output.toList).filterMap Setting.value? |>.foldlM addPath t

/-- Stores a file: first under another name, then under its own. -/
def store (l : Location) (bytes : Bytes) : IO Unit := do
  let aside := Location.text (l.dropLast ++ ["." ++ l.getLast?.getD "" ++ ".tmp"])
  IO.FS.writeBinFile aside ⟨bytes.toArray⟩
  try IO.FS.rename aside (Location.text l)
  catch e =>
    IO.FS.removeFile aside
    throw e

/-- Stores the files in which a tree differs from another. -/
def storeChanges (before after : FileTree) : IO Unit :=
  after.entries.forM fun (l, e) =>
    match e with
    | .file bytes _ => if before.find? l = some e then pure () else store l bytes
    | _ => pure ()

def usage : String :=
  "usage: [-h] [--input PATH] [--output PATH] [--slang NAMES] [--module NAME] [--ctype TYPE=NAME]"
    ++ " [--genver NUMBER] [--errfmt gcc|msvc] [--list-slangs]"

/-- Ends the program after a run. -/
def finish (o : Outcome) : IO UInt32 := do
  IO.print o.printed
  match o.ending with
  | .finished => return 0
  | .exited code =>
    if code = CommandLine.EarlyEnd.misuse.exitCode then IO.eprintln usage
    return code.toUInt32
  | .crashed c =>
    IO.eprintln (reprStr c)
    return 1
  | .untold =>
    IO.eprintln "the dump has something else than a text where one is due"
    return 1

def run (words : List String) : IO UInt32 := do
  match CommandLine.Arguments.ofWords words with
  | .error .help =>
    IO.println usage
    return 0
  | _ =>
    let t ← pictureFor words
    let o := Run.ofWords t words
    storeChanges t o.tree
    finish o

end ShaderBindings.Console

def main (words : List String) : IO UInt32 := ShaderBindings.Console.run words
