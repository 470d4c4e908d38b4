/-
  Names of files as they are given (`PathName`): names between slashes, from the root or from
  wherever one is. Empty names and single dots say nothing and are dropped (`PathName.ofText`);
  double dots are kept.
-/

namespace ShaderBindings

/-- The root is empty, a slash, or two slashes, which are kept apart from one. -/
structure PathName where
  root : String
  parts : List String
deriving DecidableEq, Repr, Inhabited

namespace PathName

/-- What stands between the slashes of a text. -/
def pieces (cs : List Char) : List String := (cs.splitOn '/').map String.ofList

/-- The names between the slashes of a text that say something. -/
def names (cs : List Char) : List String := (pieces cs).filter fun n => n ≠ "" ∧ n ≠ "."

def ofText (s : String) : PathName :=
  let cs := s.toList
  let slashes := (cs.takeWhile (· == '/')).length
  ⟨if slashes = 0 then "" else if slashes = 2 then "//" else "/", names cs⟩

/-- The text of a path; the path that says nothing is a dot. -/
def text (p : PathName) : String :=
  if p.root = "" ∧ p.parts = [] then "." else p.root ++ "/".intercalate p.parts

/-- A path said from another one. One from the root stands for itself. -/
def followedBy (p : PathName) (s : String) : PathName :=
  let q := ofText s
  if q.root = "" then ⟨p.root, p.parts ++ q.parts⟩ else q

def isAbsolute (p : PathName) : Bool := p.root != ""

/-- The last name. -/
def name (p : PathName) : String := p.parts.getLast?.getD ""

/-- The path of the directory above, if the names are those of directories. There is none above
the root. -/
def up (p : PathName) : PathName :=
  match p.parts.getLast? with
  | none => if p.isAbsolute then p else ⟨p.root, [".."]⟩
  | some last => ⟨p.root, if last = ".." then p.parts ++ [".."] else p.parts.dropLast⟩

/-- The path without its last name. -/
def parent (p : PathName) : PathName := ⟨p.root, p.parts.dropLast⟩

end PathName

end ShaderBindings
