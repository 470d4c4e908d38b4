/-
  A tree of files, directories and symbolic links as a value (`FileTree`), and who may do what
  in it (`FileTree.allows`). An entry stands at a `Location`, the names from the root down to
  it. Owners are only told apart as oneself and somebody else; times and hard links are not
  modelled.
-/
import ShaderBindings.Bytes.Utf8
import ShaderBindings.FileTree.Fault
import ShaderBindings.Keyed

namespace ShaderBindings

/-- The names from the root down to an entry. -/
abbrev Location := List String

inductive Entry
  | file (bytes : Bytes) (mode : Nat)
  | directory (mode : Nat)
  | link (target : String)
deriving DecidableEq, Repr

/-- The permissions of an entry. A link has none of its own. -/
def Entry.mode? : Entry → Option Nat
  | file _ mode => some mode
  | directory mode => some mode
  | link _ => none

/-- The entries, the directory in which relative paths start, the permissions that new entries do
not get, and the entries that belong to somebody else. -/
structure FileTree where
  home : Location
  mask : Nat := 0o022
  foreign : List Location := []
  entries : Keyed Location Entry
deriving DecidableEq, Repr

namespace Location

def text (l : Location) : String := "/" ++ "/".intercalate l

/-- Where names lead from a location if there are no links: a double dot takes back the name
before it. -/
def advance (here : Location) (names : List String) : Location :=
  names.foldl (fun l name =>
    if name = "" ∨ name = "." then l else if name = ".." then l.dropLast else l ++ [name]) here

end Location

namespace FileTree

def find? (t : FileTree) (l : Location) : Option Entry := t.entries.get? l

def put (t : FileTree) (l : Location) (e : Entry) : FileTree :=
  { t with entries := t.entries.put l e }

def erase (t : FileTree) (l : Location) : FileTree := { t with entries := t.entries.erase l }

theorem find?_put (t : FileTree) (l other : Location) (e : Entry) :
    (t.put l e).find? other = if l = other then some e else t.find? other :=
  Keyed.get?_put t.entries l other e

end FileTree

/-! ## Permissions -/

/-- What is done with a file or a directory. To search a directory is to look a name up in it, to
write it is to add or remove one. -/
inductive Access
  | read
  | write
  | search
deriving DecidableEq, Repr

/-- The weight of an access in a digit of the permissions. -/
def Access.weight : Access → Nat
  | read => 4
  | write => 2
  | search => 1

namespace FileTree

/-- The digit of the permissions that counts: the owner's, or the last one where the owner is
somebody else. -/
def rights (t : FileTree) (l : Location) (mode : Nat) : Nat :=
  if t.foreign.contains l then mode % 8 else mode / 0o100 % 8

/-- Whether an access is permitted. -/
def allows (t : FileTree) (a : Access) (l : Location) : Bool :=
  match (t.find? l).bind Entry.mode? with
  | none => true
  | some mode => t.rights l mode / a.weight % 2 = 1

/-- Refuses an access that is not permitted. -/
def demand (t : FileTree) (a : Access) (l : Location) : Except FileFault Unit :=
  if t.allows a l then .ok () else .error .permissionDenied

/-- The given permissions less those that new entries do not get. -/
def masked (t : FileTree) (mode : Nat) : Nat := mode - (mode &&& t.mask)

/-- The permissions of a new file. -/
def newFileMode (t : FileTree) : Nat := t.masked 0o666

/-- The permissions of a new directory. -/
def newDirectoryMode (t : FileTree) : Nat := t.masked 0o777

/-- Gives a file or a directory other permissions. -/
def setMode (t : FileTree) (l : Location) (mode : Nat) : FileTree :=
  match t.find? l with
  | some (.file bytes _) => t.put l (.file bytes mode)
  | some (.directory _) => t.put l (.directory mode)
  | _ => t

end FileTree

end ShaderBindings
