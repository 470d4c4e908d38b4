/-
  Resources that several shaders share. They are declared once, by name: the first one found
  counts (`firstOfEachName`), and the declarations are in order of their slots
  (`sharedResources`). Two resources of one name are not compared with each other.
-/
import ShaderBindings.Input
import ShaderBindings.Reflection.Slots

namespace ShaderBindings

section

variable (α : Type) [Resource α]

/-- The first of the resources of each name, in order. -/
def firstOfEachName : List α → List α
  | [] => []
  | a :: rest =>
    a :: (firstOfEachName rest).filter fun b => Resource.name b != Resource.name a

/-- All resources of a kind in the shaders that are embedded. -/
def declaredIn (inp : ShaderInput) (b : BackendOutput) : List α :=
  inp.shaders.flatMap fun s =>
    match b.source? s.name with
    | none => []
    | some source => Resource.declared source.reflection

/-- The resources of a kind that a module declares. -/
def sharedResources (inp : ShaderInput) (b : BackendOutput) : List α :=
  (firstOfEachName α (declaredIn α inp b)).mergeSort fun a c => Resource.slot a ≤ Resource.slot c

end

end ShaderBindings
