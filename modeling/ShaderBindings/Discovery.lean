/-
  Questions about the program itself (`Discovery`): so far, which languages it supports
  (`Slang.tableText`).
-/
import ShaderBindings.Slang

namespace ShaderBindings

inductive Discovery
  | listSlangs
deriving DecidableEq, Repr

structure UnknownDiscovery where
  command : String
deriving DecidableEq, Repr

def UnknownDiscovery.message (u : UnknownDiscovery) : String :=
  "Unknown discovery command: " ++ u.command

namespace Discovery

def command : Discovery → String
  | listSlangs => "list-slangs"

def ofCommand (command : String) : Except UnknownDiscovery Discovery :=
  if command = listSlangs.command then .ok listSlangs else .error ⟨command⟩

/-- What is printed. -/
def text : Discovery → String
  | listSlangs => Slang.tableText

end Discovery

end ShaderBindings
