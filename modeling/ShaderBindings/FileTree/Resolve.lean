/-
  The path behind a path (`FileTree.resolve`): where it leads once its links are followed. A
  name that nothing has stands for itself, and so do the names after a link that leads back to
  itself (`Trail.circle`). `FileTree.isCircle` says whether a path cannot be looked up for that
  reason.
-/
import ShaderBindings.FileTree.Lookup

namespace ShaderBindings.FileTree

/-- How far names lead: to a path without links, or to a link that leads back to itself and has
names left behind it. -/
inductive Trail
  | reached (path : PathName)
  | circle (path : PathName) (left : List String)
deriving DecidableEq, Repr

/-- The path at the end of a trail. The names left behind a circle are a path from there, and one
from the root when two slashes come before them. -/
def Trail.path : Trail → PathName
  | reached path => path
  | circle path left => path.followedBy ("/".intercalate left)

/-- A trail whose names are used up. -/
def Trail.closed : Trail → Trail
  | reached path => reached path
  | circle path left => circle (circle path left).path []

/-- Where the links lead that have been followed to their end. -/
abbrev KnownLinks := Keyed PathName PathName

/-- The target of the link at a path, if a link can be seen there. -/
def linkAt? (t : FileTree) (p : PathName) : Option String :=
  match (t.locate .entry p).toOption.bind t.find? with
  | some (.link target) => some target
  | _ => none

/-- Follows names and the links among them, so many links within links at most. The links that
are being followed are pending; to meet one of them again is a circle. -/
def trail (t : FileTree) :
    Nat → List PathName → KnownLinks → PathName → List String → Trail × KnownLinks
  | 0, _, known, here, names => (.circle here names, known)
  | depth + 1, pending, known, here, names =>
    let follow : Trail × KnownLinks → String → Trail × KnownLinks
      | (.circle path left, known), name => (.circle path (left ++ [name]), known)
      | (.reached here, known), name =>
        if name = "" ∨ name = "." then (.reached here, known)
        else if name = ".." then (.reached here.up, known)
        else
          let there : PathName := { here with parts := here.parts ++ [name] }
          match t.linkAt? there, known.get? there with
          | none, _ => (.reached there, known)
          | some _, some path => (.reached path, known)
          | some target, none =>
            if pending.contains there then (.circle there [], known)
            else
              let start := if target.startsWith "/" then ⟨"/", []⟩ else here
              match trail t depth (there :: pending) known start
                  (PathName.pieces target.toList) with
              | (.reached path, known) => (.reached path, known.put there path)
              | found => found
    let found := names.foldl follow (.reached here, known)
    (found.1.closed, found.2)

/-- The most links that are pending. A link is met under its path from the root, and under paths
from home that go up so and so often. -/
def mostPending (t : FileTree) : Nat := (t.home.length + 2) * t.entries.length

/-- The path from the root to which a path leads, as far as its links can be followed. -/
def resolve (t : FileTree) (p : PathName) : PathName :=
  let start : PathName := ⟨if p.isAbsolute then "/" else "", []⟩
  t.absolute (t.trail (t.mostPending + 1) [] [] start p.parts).1.path

/-- Whether a path leads in a circle. -/
def isCircle (t : FileTree) (p : PathName) : Bool :=
  match t.stat p with
  | .error .linkLoop => true
  | _ => false

end ShaderBindings.FileTree
