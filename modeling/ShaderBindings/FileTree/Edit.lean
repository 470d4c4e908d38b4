/-
  Plain changes of a tree by path: filling a file (`FileTree.fill`), making directories and
  links, setting permissions, taking entries away. And what a look at the whole tree shows
  (`FileTree.listing`). Replacing a file as a whole is in `FileTree.Replace`.
-/
import ShaderBindings.FileTree.Lookup

namespace ShaderBindings.FileTree

/-- The permissions of a file after its content has changed: it no longer runs under another
identity. -/
def changedMode (mode : Nat) : Nat :=
  let kept := mode - (mode &&& 0o4000)
  if mode &&& 0o0010 = 0 then kept else kept - (kept &&& 0o2000)

/-- Gives a file new content, links followed; a file that is not there is made. -/
def fill (t : FileTree) (p : PathName) (bytes : Bytes) : Except FileFault FileTree := do
  let l ← t.locate .file p
  match t.find? l with
  | none =>
    t.demand .write l.dropLast
    return t.put l (.file bytes t.newFileMode)
  | some (.file _ mode) =>
    t.demand .write l
    return t.put l (.file bytes (changedMode mode))
  | some (.directory _) => .error .isDirectory
  | some (.link _) => .error .linkLoop

/-- The permissions of a new directory at a location: a directory passes its group on. -/
def directoryModeAt (t : FileTree) (l : Location) : Nat :=
  match t.find? l.dropLast with
  | some (.directory mode) => t.newDirectoryMode + (mode &&& 0o2000)
  | _ => t.newDirectoryMode

/-- Makes a directory. -/
def makeDirectory (t : FileTree) (p : PathName) : Except FileFault FileTree := do
  let l ← t.place .alreadyThere p
  match t.find? l with
  | none =>
    t.demand .write l.dropLast
    return t.put l (.directory (t.directoryModeAt l))
  | some _ => .error .alreadyThere

/-- Makes a directory unless there is one. -/
def ensureDirectory (t : FileTree) (p : PathName) : Except FileFault FileTree :=
  match t.stat p with
  | .ok (.directory _) => .ok t
  | _ => t.makeDirectory p

/-- The path and those that lead to it, the shortest first. -/
def stations (p : PathName) : List PathName :=
  (List.range p.parts.length).map fun n => { p with parts := p.parts.take (n + 1) }

/-- Makes a directory and all those on the way to it that are not there. A fault comes with the
path of the directory that cannot be made. -/
def makeDirectories (t : FileTree) (p : PathName) : Except (PathName × FileFault) FileTree :=
  (stations p).foldlM (fun t q =>
    if q ≠ p ∧ (t.stat q).isOk then .ok t else (t.ensureDirectory q).mapError (q, ·)) t

/-- A target that a link can have: something, without a zero in it and not too long. -/
def checkTarget (target : String) : Except FileFault Unit :=
  if target.toList.contains '\x00' then .error .zeroInName
  else if target = "" then .error .notFound
  else if longestPath < target.utf8ByteSize then .error .nameTooLong
  else .ok ()

/-- Makes a link. -/
def makeLink (t : FileTree) (p : PathName) (target : String) : Except FileFault FileTree := do
  if p.text.toList.contains '\x00' then .error .zeroInName
  checkTarget target
  let l ← t.place .alreadyThere p
  match t.find? l with
  | none =>
    t.demand .write l.dropLast
    return t.put l (.link target)
  | some _ => .error .alreadyThere

/-- Gives what is at a path, links followed, other permissions. -/
def setModeAt (t : FileTree) (p : PathName) (mode : Nat) : Except FileFault FileTree := do
  let l ← t.locate .target p
  match t.find? l with
  | none => .error .notFound
  | some _ => if t.foreign.contains l then .error .notPermitted else return t.setMode l mode

/-- Takes a file or a link away. -/
def remove (t : FileTree) (p : PathName) : Except FileFault FileTree := do
  let l ← t.place .isDirectory p
  match t.find? l with
  | none => .error .notFound
  | some e =>
    t.demand .write l.dropLast
    match e with
    | .directory _ => .error .isDirectory
    | _ => return t.erase l

/-! ## Looking at a whole tree -/

/-- The directories from one location down to the one that holds another. -/
def directoriesBetween (l there : Location) : List Location :=
  (List.range (there.length - l.length)).map fun n => there.take (l.length + n)

/-- What is below a location, by the names from there on, in the order of their text. A directory
that may not be read shows nothing. -/
def listing (t : FileTree) (l : Location) : List (String × Entry) :=
  let below := t.entries.filterMap fun (there, e) =>
    if l.isPrefixOf there && there != l && (directoriesBetween l there).all (t.allows .read) then
      some ("/".intercalate (there.drop l.length), e)
    else none
  below.mergeSort fun a b => a.1 ≤ b.1

/-- Whether an entry that is listed cannot be looked at: a file that may not be read, or an entry
of a directory that may not be searched. -/
def isClosed (t : FileTree) (l : Location) : Bool :=
  !t.allows .search l.dropLast ||
    match t.find? l with
    | some (.file ..) => !t.allows .read l
    | _ => false

end ShaderBindings.FileTree
