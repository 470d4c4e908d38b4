/-
  Questions about the resources of a reflection (`Query`), with the kind given by name, and
  their answers. They come down to `StageReflection.atSlot?`, `StageReflection.named?` and
  `StageReflection.occupied`; only what is wrong with a kind or a name is said here.
-/
import ShaderBindings.Reflection.Slots
import ShaderBindings.Text.Quoted

namespace ShaderBindings

/-- A resource of any kind. -/
inductive AnyResource
  | attr (a : Attr)
  | uniformBlock (b : UniformBlock)
  | image (i : Image)
  | sampler (s : Sampler)
  | imageSampler (p : ImageSampler)
deriving DecidableEq, Repr

inductive Query
  | atSlot (kind : String) (slot : Int)
  | named (kind : String) (name : String)
  | occupied (kind : String)
deriving DecidableEq, Repr

inductive Answer
  | nothing
  | found (r : AnyResource)
  | slots (entries : List (Nat × AnyResource))
deriving DecidableEq, Repr

inductive QueryFault
  | unknownKind (name : String)
  | noSuchKind (name : String)
  | unknownResource (u : UnknownResource)
deriving DecidableEq, Repr

def QueryFault.message : QueryFault → String
  | unknownKind name => "Unknown resource kind: " ++ name
  | noSuchKind name => Text.quoted name
  | unknownResource u => u.message

namespace StageReflection

variable (r : StageReflection)

def anyAtSlot? (kind : ResourceKind) (slot : Int) : Option AnyResource :=
  match kind with
  | .attr => (r.atSlot? Attr slot).map .attr
  | .uniformBlock => (r.atSlot? UniformBlock slot).map .uniformBlock
  | .image => (r.atSlot? Image slot).map .image
  | .sampler => (r.atSlot? Sampler slot).map .sampler
  | .imageSampler => (r.atSlot? ImageSampler slot).map .imageSampler

def anyNamed (kind : ResourceKind) (name : String) : Except UnknownResource AnyResource :=
  match kind with
  | .attr => (r.named? Attr name).map .attr
  | .uniformBlock => (r.named? UniformBlock name).map .uniformBlock
  | .image => (r.named? Image name).map .image
  | .sampler => (r.named? Sampler name).map .sampler
  | .imageSampler => (r.named? ImageSampler name).map .imageSampler

def anyOccupied (kind : ResourceKind) : List (Nat × AnyResource) :=
  match kind with
  | .attr => (r.occupied Attr).map fun e => (e.1, .attr e.2)
  | .uniformBlock => (r.occupied UniformBlock).map fun e => (e.1, .uniformBlock e.2)
  | .image => (r.occupied Image).map fun e => (e.1, .image e.2)
  | .sampler => (r.occupied Sampler).map fun e => (e.1, .sampler e.2)
  | .imageSampler => (r.occupied ImageSampler).map fun e => (e.1, .imageSampler e.2)

/-- Answers a question. A negative slot is unused whatever the kind, so its kind is not looked
at. -/
def answer : Query → Except QueryFault Answer
  | .atSlot kind slot =>
    if slot < 0 then .ok .nothing
    else
      match ResourceKind.ofName? kind with
      | none => .error (.unknownKind kind)
      | some k => .ok (match r.anyAtSlot? k slot with | some a => .found a | none => .nothing)
  | .named kind name =>
    match ResourceKind.ofName? kind with
    | none => .error (.unknownKind kind)
    | some k =>
      match r.anyNamed k name with
      | .ok a => .ok (.found a)
      | .error u => .error (.unknownResource u)
  | .occupied kind =>
    match ResourceKind.ofName? kind with
    | none => .error (.noSuchKind kind)
    | some k => .ok (.slots (r.anyOccupied k))

end StageReflection

end ShaderBindings
