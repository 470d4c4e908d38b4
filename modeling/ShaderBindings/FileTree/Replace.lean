/-
  Replacing a file as a whole. In `FileTree.attempt` the new content goes to a temporary file in
  the directory of the path, which takes over the permissions and then the name (`takeOver`);
  when a step fails, the temporary file goes away and the tree is as before.
  `FileTree.writeText` resolves the path only after that, and so can break down with the file
  written (`WriteFault.circle`).
-/
import ShaderBindings.FileTree.Resolve

namespace ShaderBindings

/-- A file as it was written. The path is the one that it was written to, as far as it leads
afterwards. -/
structure WrittenFile where
  filename : String
  path : PathName
  lineCount : Nat
  byteCount : Nat
deriving DecidableEq, Repr

/-- Why a write tells about no file. -/
inductive WriteFault
  /-- Nothing is written. -/
  | refused (f : FileFault)
  /-- The file is written, but its path leads in a circle afterwards. -/
  | circle (path : PathName) (after : FileTree)
deriving DecidableEq, Repr

/-- The message about a path that leads in a circle. -/
def WriteFault.circleMessage (path : PathName) : String :=
  "Symlink loop from " ++ Text.quoted path.text

namespace FileTree

/-- Makes a new file in a directory. -/
def create (t : FileTree) (p : PathName) (bytes : Bytes) (mode : Nat) :
    Except FileFault (Location × FileTree) := do
  let l ← t.place .alreadyThere p
  match t.find? l with
  | some _ => .error .alreadyThere
  | none =>
    t.demand .write l.dropLast
    return (l, t.put l (.file bytes mode))

/-- Moves an entry to another place, over the file or link that is there. A directory on the way
to the entry cannot give way to it. -/
def move (t : FileTree) (source target : Location) : Except FileFault FileTree := do
  match t.find? source with
  | none => .error .notFound
  | some e =>
    if target.isPrefixOf source.dropLast then .error .notEmpty
    else
      t.demand .write source.dropLast
      t.demand .write target.dropLast
      match t.find? target with
      | some (.directory _) => .error .isDirectory
      | _ => return (t.erase source).put target e

/-- The permissions for a path: those of what is there, links followed. -/
def modeFor (t : FileTree) (p : PathName) : Except FileFault Nat :=
  match t.stat p with
  | .ok (.file _ mode) => .ok mode
  | .ok (.directory mode) => .ok mode
  | .ok (.link _) => .ok t.newFileMode
  | .error .notFound => .ok t.newFileMode
  | .error f => .error f

/-- Eight characters for the name of a temporary file. -/
def stamp (n : Nat) : String :=
  let ds := Nat.toDigits 16 n
  String.ofList (List.replicate (8 - ds.length) '0' ++ ds)

/-- The name of a temporary file for a path: hidden, and not in use. Its directory is that of the
path, links and missing names left aside. -/
def temporaryName (t : FileTree) (p : PathName) : PathName :=
  let directory := t.absolute p.parent
  let candidate (n : Nat) : PathName :=
    ⟨directory.root, directory.parts ++ ["." ++ p.name ++ "." ++ stamp n ++ ".tmp"]⟩
  let free (q : PathName) : Bool :=
    match t.place .alreadyThere q with
    | .ok l => (t.find? l).isNone
    | .error _ => true
  (((List.range (t.entries.length + 1)).map candidate).find? free).getD (candidate 0)

/-- The temporary file takes over the permissions for a path and then its name. What the path
leads to is looked up as if the temporary file were not there. -/
def takeOver (t : FileTree) (p : PathName) (temporary : Location) (staged : FileTree) :
    Except FileFault (Location × FileTree) := do
  let mode ← t.modeFor p
  let l ← t.place .busy p
  return (l, ← (staged.setMode temporary mode).move temporary l)

/-- Replaces the file at a path: where it is and the tree that is left. When a step after the
first one fails, the temporary file is taken away. -/
def attempt (t : FileTree) (p : PathName) (bytes : Bytes) :
    Except FileFault Location × FileTree :=
  match t.create (t.temporaryName p) bytes 0o600 with
  | .error f => (.error f, t)
  | .ok (temporary, staged) =>
    match t.takeOver p temporary staged with
    | .error f => (.error f, staged.erase temporary)
    | .ok (l, after) => (.ok l, after)

/-- Replaces the file at a path. A failed attempt leaves the tree as it was. -/
def replace (t : FileTree) (p : PathName) (bytes : Bytes) :
    Except FileFault (Location × FileTree) :=
  match t.attempt p bytes with
  | (.error f, _) => .error f
  | (.ok l, after) => .ok (l, after)

/-- Replaces the file at a path by a text. -/
def writeText (t : FileTree) (p : PathName) (content : String) :
    Except WriteFault (WrittenFile × FileTree) := do
  let bytes := Bytes.ofText content
  let (_, after) ← (t.replace p bytes).mapError .refused
  let path := after.resolve p
  if after.isCircle path then .error (.circle path after)
  else return (⟨p.name, path, content.toList.count '\n', bytes.length⟩, after)

end FileTree

end ShaderBindings
