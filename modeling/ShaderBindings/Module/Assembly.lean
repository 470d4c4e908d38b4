/-
  A whole module for a request of target languages (`Module.assemble`). The header, the
  constants and the records come from the first language in order, the payloads and the cases of
  the procedures from all of them. The output for every language is checked before anything is
  assembled (`Module.ofSlangs`); an `AssemblyFault` says why there is no module. A `Module` is
  kept in parts, and `Module.source` is its text.
-/
import ShaderBindings.Consistency
import ShaderBindings.Module.Sections
import ShaderBindings.Unsupported

namespace ShaderBindings

/-- How a module is to be generated. The lines of the verbatim part follow the header comment. -/
structure Settings where
  slangs : List Slang
  hosts : HostTypes := []
  verbatim : List Json := []
  version : Setting Int := .value 1
  cmdline : String := ""

/-- Why no module is assembled. -/
inductive AssemblyFault
  | emptyRequest
  | unlistedSlang
  | sharedBackend (first second : Slang)
  | inconsistent (d : Diagnostic)
  | incomplete (f : SectionFault)
  | verbatimNotText
deriving DecidableEq, Repr

/-- The message of a fault, where it has one. -/
def AssemblyFault.message? : AssemblyFault → Option String
  | emptyRequest => some "at least one shading language must be requested"
  | unlistedSlang => none
  | sharedBackend first second =>
    some ("shading languages " ++ first.name ++ " and " ++ second.name ++ " both map to backend "
      ++ second.backend)
  | inconsistent d => some d.message
  | incomplete f => f.message?
  | verbatimNotText => none

/-- The payloads for one language. -/
structure PayloadSection where
  slang : Slang
  embedded : List Embedded
deriving DecidableEq, Repr

structure Module where
  header : Header
  verbatim : List String
  attrs : List Constant
  images : List Constant
  samplers : List Constant
  blocks : List (Constant × Record)
  payloads : List PayloadSection
  procedures : List DescProcedure
  warnings : List Diagnostic

namespace Module

/-- The lines that all languages share: the header, the verbatim part and the declarations of
constants and records. -/
def sharedLines (m : Module) : List String :=
  m.header.lines ++ m.verbatim
    ++ m.attrs.map Constant.line ++ m.images.map Constant.line ++ m.samplers.map Constant.line
    ++ m.blocks.flatMap (fun (slot, record) => slot.line :: record.lines)

/-- The lines of a module. -/
def lines (m : Module) : List String :=
  m.sharedLines
    ++ m.payloads.flatMap (fun p => p.embedded.flatMap Embedded.lines)
    ++ m.procedures.flatMap DescProcedure.lines

/-- The text of a module: its lines, each with a line feed. -/
def source (m : Module) : String := "\n".intercalate m.lines ++ "\n"

/-- The output for a language that has passed the checks. -/
def backend (backends : Backends) (slang : Slang) : Except AssemblyFault BackendOutput :=
  match backends.get? slang.name with
  | some b => .ok b
  | none => .error (.incomplete (.missingBackend slang.name))

/-- The uniform blocks of a module, each as the constant of its slot and its record. -/
def blocksOf (inp : ShaderInput) (hosts : HostTypes) (b : BackendOutput) :
    List (Constant × Record) :=
  (sharedResources UniformBlock inp b).map fun u =>
    (u.slotConstant inp.namePrefix, u.record inp.namePrefix hosts)

/-- The payloads of a language and the warnings about it. -/
def payloadSection (inp : ShaderInput) (backends : Backends) (slang : Slang) :
    Except AssemblyFault (PayloadSection × List Diagnostic) := do
  let b ← backend backends slang
  let embedded ← (Embedded.ofBackend inp b).mapError .incomplete
  return (⟨slang, embedded⟩, unsupportedTypes inp b)

/-- The lines of the verbatim part. -/
def verbatimLines (settings : Settings) : Except AssemblyFault (List String) :=
  match settings.verbatim.mapM Json.text? with
  | some lines => .ok lines
  | none => .error .verbatimNotText

/-- Assembles a module for languages in order, the first of them apart. -/
def ofSlangs (inp : ShaderInput) (backends : Backends) (settings : Settings)
    (first : Slang) (rest : List Slang) : Except AssemblyFault Module := do
  let slangs := first :: rest
  slangs.forM fun s =>
    (checkConsistency inp s (backends.get? s.name)).mapError .inconsistent
  let b ← backend backends first
  let header ← (Header.ofInput inp b settings.version settings.cmdline).mapError
    (.incomplete ∘ .missingSource)
  let attrs ← (attrConstants inp b).mapError (.incomplete ∘ .missingSource)
  let payloads ← slangs.mapM (payloadSection inp backends)
  let procedures ← (inp.sortedPrograms.mapM
    (DescProcedure.ofProgram inp backends slangs)).mapError .incomplete
  let verbatim ← verbatimLines settings
  return {
    header, verbatim, attrs, procedures
    images := imageConstants inp b
    samplers := samplerConstants inp b
    blocks := blocksOf inp settings.hosts b
    payloads := payloads.map Prod.fst
    warnings := payloads.flatMap Prod.snd }

/-- Assembles a module for a request. -/
def assemble (inp : ShaderInput) (backends : Backends) (settings : Settings) :
    Except AssemblyFault Module :=
  if settings.slangs.isEmpty then .error .emptyRequest
  else
    match Slang.ordered? settings.slangs with
    | none => .error .unlistedSlang
    | some slangs =>
      match Slang.sharedBackend? settings.slangs with
      | some (first, second) => .error (.sharedBackend first second)
      | none =>
        match slangs with
        | [] => .error .emptyRequest
        | first :: rest => ofSlangs inp backends settings first rest

end Module

end ShaderBindings
