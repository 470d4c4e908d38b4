/-
  The comment at the head of a module (`Header`): how it was made, and for each program the
  names to which its resources are bound (`ProgramEntry`). The command line stands in it as it
  is.
-/
import ShaderBindings.Desc.Assignment
import ShaderBindings.Input
import ShaderBindings.Layout.Record
import ShaderBindings.Reflection.Slots
import ShaderBindings.Setting

namespace ShaderBindings

/-- The constant of a vertex attribute of a shader. -/
def Attr.constant (namePrefix snippet : String) (slot : Nat) (a : Attr) : Constant :=
  ⟨"ATTR_" ++ namePrefix ++ snippet ++ "_" ++ a.name, slot⟩

namespace Overview

/-- What is said about a shader. -/
inductive Entry
  | attributes (slots : List Constant)
  | block (name recordName : String) (slot : Constant)
  | image (name : String) (type sampleType : Tag) (multisampled : Bool) (slot : Constant)
  | sampler (name : String) (type : Tag) (slot : Constant)
  | pair (name imageName samplerName : String)
deriving DecidableEq, Repr

namespace Entry

def indent : String := String.ofList (List.replicate 16 ' ')

/-- A heading and the lines below it. -/
def headed (heading : String) (below : List String) : List String :=
  (indent ++ heading) :: below.map fun line => indent ++ "    " ++ line

def lines : Entry → List String
  | attributes slots => headed "Attribute slots:" (slots.map Constant.mention)
  | block name recordName slot =>
    headed ("Uniform block '" ++ name ++ "':")
      ["Odin struct: " ++ recordName, "Bind slot: " ++ slot.mention]
  | image name type sampleType multisampled slot =>
    headed ("Image '" ++ name ++ "':")
      ["Image Type: " ++ type.text, "Sample Type: " ++ sampleType.text,
       "Multisampled: " ++ Desc.flagText multisampled, "Bind slot: " ++ slot.mention]
  | sampler name type slot =>
    headed ("Sampler '" ++ name ++ "':") ["Type: " ++ type.text, "Bind slot: " ++ slot.mention]
  | pair name imageName samplerName =>
    headed ("Image Sampler Pair '" ++ name ++ "':")
      ["Image: " ++ imageName, "Sampler: " ++ samplerName]

end Entry

/-- The vertex attributes of a shader. -/
def attributes (namePrefix snippet : String) (r : StageReflection) : Entry :=
  .attributes ((r.occupied Attr).map fun (slot, a) => a.constant namePrefix snippet slot)

/-- The bound resources of a stage. -/
def resources (namePrefix : String) (r : StageReflection) : List Entry :=
  (r.occupied UniformBlock).map (fun (_, b) =>
      .block b.structName (b.recordName namePrefix) (b.slotConstant namePrefix))
    ++ (r.occupied Image).map (fun (_, i) =>
      .image i.name (imageTag i.type) (imageSampleTag i.sampleType) i.multisampled
        (.slot namePrefix i.name i.slot))
    ++ (r.occupied Sampler).map (fun (_, s) =>
      .sampler s.name (samplerTag s.type) (.slot namePrefix s.name s.slot))
    ++ (r.occupied ImageSampler).map (fun (_, p) => .pair p.name p.imageName p.samplerName)

/-- What is said about a program. -/
structure ProgramEntry where
  program : Program
  vertex : List Entry
  fragment : List Entry
deriving DecidableEq, Repr

/-- A snippet whose reflection is needed and missing. -/
structure MissingSource where
  snippet : String
deriving DecidableEq, Repr

/-- The entry of a program, from the output for one language. -/
def ofProgram (namePrefix : String) (b : BackendOutput) (p : Program) :
    Except MissingSource ProgramEntry :=
  match b.source? p.vsName, b.source? p.fsName with
  | some vs, some fs =>
    .ok ⟨p,
      attributes namePrefix p.vsName vs.reflection :: resources namePrefix vs.reflection,
      resources namePrefix fs.reflection⟩
  | none, _ => .error ⟨p.vsName⟩
  | some _, none => .error ⟨p.fsName⟩

/-- The name of the procedure that returns the description of a program. -/
def procedureName (namePrefix : String) (p : Program) : String :=
  namePrefix ++ p.name ++ "_shader_desc"

def ProgramEntry.lines (namePrefix : String) (e : ProgramEntry) : List String :=
  ["        Shader program '" ++ e.program.name ++ "':",
   "            Get shader desc: shd." ++ procedureName namePrefix e.program
     ++ "(sg.query_backend())",
   "            Vertex shader: " ++ e.program.vsName]
    ++ e.vertex.flatMap Entry.lines
    ++ ["            Fragment shader: " ++ e.program.fsName]
    ++ e.fragment.flatMap Entry.lines
    ++ [""]

end Overview

/-- The name under which generated modules say they were made. -/
def generatorName : String := "shdc-odin-gen"

/-- The comment at the head of a module. -/
structure Header where
  version : Setting Int
  cmdline : String
  namePrefix : String
  programs : List Overview.ProgramEntry
deriving DecidableEq, Repr

def Header.lines (h : Header) : List String :=
  ["/*",
   "    #version:" ++ h.version.text Text.numeral ++ "# (machine generated, don't edit!)",
   "",
   "    Generated by " ++ generatorName,
   "",
   "    Cmdline: " ++ h.cmdline,
   "",
   "    Overview:",
   ""]
    ++ h.programs.flatMap (Overview.ProgramEntry.lines h.namePrefix) ++ ["*/"]

/-- The header of a module, from the output for one language. -/
def Header.ofInput (inp : ShaderInput) (b : BackendOutput) (version : Setting Int)
    (cmdline : String) : Except Overview.MissingSource Header := do
  let programs ← inp.sortedPrograms.mapM (Overview.ofProgram inp.namePrefix b)
  return ⟨version, cmdline, inp.namePrefix, programs⟩

end ShaderBindings
