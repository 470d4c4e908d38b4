/-
  Finding entries by path. `FileTree.leg` looks up names one after another until a link is met,
  `FileTree.walk` follows links up to `mostLinks`, and `FileTree.locate` starts where a path
  starts; what cannot be found is said to be so with its reason. `FileTree.absolute` is the path
  from the root by its text alone.
-/
import ShaderBindings.FileTree.Basic

namespace ShaderBindings.FileTree

/-- The longest name of an entry, in bytes. -/
def longestName : Nat := 255

/-- The longest path, in bytes. -/
def longestPath : Nat := 4095

/-- The most links that are followed along one path. -/
def mostLinks : Nat := 40

/-- The names in the target of a link. A dot or a slash at the end asks for a directory, and is
kept as a dot or an empty name. -/
def targetNames (target : String) : List String :=
  let cs := target.toList
  PathName.names cs ++
    if ((cs.splitOn '/').filter (· ≠ [])).getLast? = some ['.'] then ["."]
    else if cs.getLast? = some '/' then [""]
    else []

/-- The directory in which the target of a link starts. -/
def targetStart (here : Location) (target : String) : Location :=
  if target.startsWith "/" then [] else here

/-- What a path is looked up for: the entry under its last name, what that entry leads to, or a
file to be filled, which need not be there yet. -/
inductive Aim
  | entry
  | target
  | file
deriving DecidableEq, Repr

/-- A walk that has come to its end, or to a link that it has to follow. -/
inductive Leg
  | arrived (l : Location)
  | onto (start : Location) (names : List String)
deriving DecidableEq, Repr

/-- Walks from a directory until the names are used up or a link is met. A name that nothing has
may only be the last one, and the name of a file that may have to be made has no slash behind
it. -/
def leg (t : FileTree) (aim : Aim) (here : Location) :
    List String → Except FileFault Leg
  | [] => .ok (.arrived here)
  | name :: rest =>
    match t.find? here with
    | none => .error .notFound
    | some (.directory _) =>
      if name = "" then leg t aim here rest
      else if !t.allows .search here then .error .permissionDenied
      else if name = "." then leg t aim here rest
      else if name = ".." then leg t aim here.dropLast rest
      else if aim = .file ∧ rest = [""] then .error .isDirectory
      else if longestName < name.utf8ByteSize then .error .nameTooLong
      else
        let there := here ++ [name]
        match t.find? there with
        | none => if rest.isEmpty then .ok (.arrived there) else .error .notFound
        | some (.link target) =>
          if rest = [] ∧ aim = .entry then .ok (.arrived there)
          else .ok (.onto (targetStart here target) (targetNames target ++ rest))
        | some _ => leg t aim there rest
    | some _ => .error .notDirectory

/-- Walks on, following so many links at most. -/
def walk (t : FileTree) (aim : Aim) :
    Nat → Location → List String → Except FileFault Location
  | links, here, names => do
    match ← leg t aim here names with
    | .arrived l => return l
    | .onto start names =>
      match links with
      | 0 => .error .linkLoop
      | links + 1 => walk t aim links start names

/-- The directory in which a path starts. -/
def start (t : FileTree) (p : PathName) : Location := if p.isAbsolute then [] else t.home

/-- The path from the root without double dots. No link is followed. -/
def absolute (t : FileTree) (p : PathName) : PathName :=
  ⟨if p.isAbsolute then p.root else "/", Location.advance (t.start p) p.parts⟩

/-- A path that can be looked up: without a zero in it and not too long. -/
def checkPath (p : PathName) : Except FileFault Unit :=
  if p.text.toList.contains '\x00' then .error .zeroInName
  else if longestPath < p.text.utf8ByteSize then .error .nameTooLong
  else .ok ()

/-- Where a path leads. There need not be an entry under the last name, unless the path goes on
from there. -/
def locate (t : FileTree) (aim : Aim) (p : PathName) : Except FileFault Location := do
  checkPath p
  walk t aim mostLinks (t.start p) p.parts

/-- The entry to which a path leads, all links followed. -/
def stat (t : FileTree) (p : PathName) : Except FileFault Entry := do
  match t.find? (← t.locate .target p) with
  | some e => return e
  | none => .error .notFound

/-- The bytes of a file. -/
def read (t : FileTree) (p : PathName) : Except FileFault Bytes := do
  let l ← t.locate .target p
  match t.find? l with
  | none => .error .notFound
  | some e =>
    t.demand .read l
    match e with
    | .file bytes _ => return bytes
    | .directory _ => .error .isDirectory
    | .link _ => .error .linkLoop

/-- Whether a path leads to an entry. A name that is too long and a directory that may not be
searched leave that open. -/
def exists? (t : FileTree) (p : PathName) : Except FileFault Bool :=
  match t.stat p with
  | .ok _ => .ok true
  | .error .nameTooLong => .error .nameTooLong
  | .error .permissionDenied => .error .permissionDenied
  | .error _ => .ok false

/-- Where the last name of a path would stand: in a directory that is there and may be searched.
A path that ends in no name of its own is refused with the given fault. -/
def place (t : FileTree) (nameless : FileFault) (p : PathName) : Except FileFault Location := do
  checkPath p
  let parent ← t.locate .target p.parent
  match t.find? parent with
  | none => .error .notFound
  | some (.directory _) =>
    t.demand .search parent
    if p.name = "" ∨ p.name = ".." then .error nameless
    else if longestName < p.name.utf8ByteSize then .error .nameTooLong
    else return parent ++ [p.name]
  | some _ => .error .notDirectory

end ShaderBindings.FileTree
