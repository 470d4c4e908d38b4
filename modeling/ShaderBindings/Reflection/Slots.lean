/-
  Resources by slot and by name. Each kind has a fixed number of slots (`ResourceKind.bound`); a
  resource with a slot outside of them is never bound, and of two in one slot the first counts
  (`StageReflection.atSlot?`). `StageReflection.occupied` lists the occupied slots of a kind in
  ascending order, `StageReflection.named?` finds a resource whatever its slot.
-/
import ShaderBindings.Reflection.Basic

namespace ShaderBindings

inductive ResourceKind
  | attr
  | uniformBlock
  | image
  | sampler
  | imageSampler
deriving DecidableEq, Repr

namespace ResourceKind

def all : List ResourceKind := [.attr, .uniformBlock, .image, .sampler, .imageSampler]

def name : ResourceKind → String
  | attr => "attr"
  | uniformBlock => "uniform_block"
  | image => "image"
  | sampler => "sampler"
  | imageSampler => "image_sampler"

/-- The kind in running text. -/
def label : ResourceKind → String
  | attr => "attr"
  | uniformBlock => "uniform block"
  | image => "image"
  | sampler => "sampler"
  | imageSampler => "image sampler"

def ofName? (name : String) : Option ResourceKind := all.find? (·.name == name)

/-- The number of slots. -/
def bound : ResourceKind → Nat
  | attr => 16
  | uniformBlock => 4
  | image => 12
  | sampler => 8
  | imageSampler => 12

end ResourceKind

/-- A type of resource: where a reflection lists it, and the slot and the name of each. -/
class Resource (α : Type) where
  kind : ResourceKind
  slot : α → Int
  name : α → String
  declared : StageReflection → List α

instance : Resource Attr := ⟨.attr, Attr.slot, Attr.name, StageReflection.inputs⟩

instance : Resource UniformBlock :=
  ⟨.uniformBlock, UniformBlock.slot, UniformBlock.structName, StageReflection.uniformBlocks⟩

instance : Resource Image := ⟨.image, Image.slot, Image.name, StageReflection.images⟩

instance : Resource Sampler := ⟨.sampler, Sampler.slot, Sampler.name, StageReflection.samplers⟩

instance : Resource ImageSampler :=
  ⟨.imageSampler, ImageSampler.slot, ImageSampler.name, StageReflection.imageSamplers⟩

/-- A name that no resource of the kind has. -/
structure UnknownResource where
  kind : ResourceKind
  name : String
deriving DecidableEq, Repr

def UnknownResource.message (u : UnknownResource) : String :=
  "no " ++ u.kind.label ++ " named '" ++ u.name ++ "'"

namespace StageReflection

variable (α : Type) [Resource α]

/-- The first resource in a slot. A negative slot means unused and holds none. -/
def atSlot? (r : StageReflection) (slot : Int) : Option α :=
  if slot < 0 then none else (Resource.declared r : List α).find? (Resource.slot · == slot)

/-- The first resource of a name. -/
def named? (r : StageReflection) (name : String) : Except UnknownResource α :=
  match (Resource.declared r : List α).find? (Resource.name · == name) with
  | some a => .ok a
  | none => .error ⟨Resource.kind α, name⟩

/-- The occupied slots of a kind in ascending order, each with its resource. -/
def occupied (r : StageReflection) : List (Nat × α) :=
  (List.range (Resource.kind α).bound).filterMap fun (slot : Nat) =>
    (r.atSlot? α slot).map fun a => (slot, a)

end StageReflection

end ShaderBindings
