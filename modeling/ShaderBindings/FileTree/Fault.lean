/-
  What stands in the way of operations on files (`FileFault`), with its number where it has one,
  and the messages about it.
-/
import ShaderBindings.FileTree.PathName
import ShaderBindings.Text.Decimal
import ShaderBindings.Text.Quoted

namespace ShaderBindings

/-- What stands in the way of an operation on files. -/
inductive FileFault
  | notPermitted
  | notFound
  | permissionDenied
  | alreadyThere
  | busy
  | notDirectory
  | isDirectory
  | nameTooLong
  | notEmpty
  | linkLoop
  | zeroInName
deriving DecidableEq, Repr

namespace FileFault

/-- The number of a fault; a zero in a name has none. -/
def number? : FileFault → Option Nat
  | notPermitted => some 1
  | notFound => some 2
  | permissionDenied => some 13
  | alreadyThere => some 17
  | busy => some 16
  | notDirectory => some 20
  | isDirectory => some 21
  | nameTooLong => some 36
  | notEmpty => some 39
  | linkLoop => some 40
  | zeroInName => none

def text : FileFault → String
  | notPermitted => "Operation not permitted"
  | notFound => "No such file or directory"
  | permissionDenied => "Permission denied"
  | alreadyThere => "File exists"
  | busy => "Device or resource busy"
  | notDirectory => "Not a directory"
  | isDirectory => "Is a directory"
  | nameTooLong => "File name too long"
  | notEmpty => "Directory not empty"
  | linkLoop => "Too many levels of symbolic links"
  | zeroInName => "embedded null byte"

/-- The message about something that is named in it. -/
def describe (f : FileFault) (named : String) : String :=
  match f.number? with
  | some n => "[Errno " ++ Text.digits n ++ "] " ++ f.text ++ ": " ++ named
  | none => f.text

/-- The message about a path. -/
def message (p : PathName) (f : FileFault) : String := f.describe (Text.quoted p.text)

/-- The message about a link that cannot be made. -/
def linkMessage (target : String) (p : PathName) (f : FileFault) : String :=
  f.describe (Text.quoted target ++ " -> " ++ Text.quoted p.text)

end FileFault

end ShaderBindings
