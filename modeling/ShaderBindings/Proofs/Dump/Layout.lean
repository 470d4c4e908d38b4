/-
  The layout of a dump: how each part of it is written as a JSON value, all fields given
  (`toJson`), and that it is read back as it was (`ofJson_toJson`, with one lemma for each
  part). Bytecode is written as hexadecimal text. Output is written under the name of its
  language and without the language itself, so that it comes back only if it stands under the
  name of one that is supported (`Listed`).
-/
import ShaderBindings.Dump.Model
import ShaderBindings.Proofs.Bytes
import ShaderBindings.Proofs.Fallible

namespace ShaderBindings

open Fallible

/-! ## Writing -/

def Attr.toJson (a : Attr) : Json :=
  .object [("slot", .int a.slot), ("name", .text a.name), ("sem_name", .text a.semName),
    ("sem_index", .int a.semIndex)]

def Uniform.toJson (u : Uniform) : Json :=
  .object [("name", .text u.name), ("type", .text u.type), ("offset", .int u.offset),
    ("array_count", .int u.arrayCount)]

def UniformBlock.toJson (b : UniformBlock) : Json :=
  .object [("slot", .int b.slot), ("size", .int b.size), ("struct_name", .text b.structName),
    ("inst_name", .text b.instName), ("flattened", .bool b.flattened),
    ("uniforms", .array (b.uniforms.map Uniform.toJson))]

def Image.toJson (i : Image) : Json :=
  .object [("slot", .int i.slot), ("name", .text i.name), ("type", .text i.type),
    ("sample_type", .text i.sampleType), ("multisampled", .bool i.multisampled)]

def Sampler.toJson (s : Sampler) : Json :=
  .object [("slot", .int s.slot), ("name", .text s.name), ("type", .text s.type)]

def ImageSampler.toJson (p : ImageSampler) : Json :=
  .object [("slot", .int p.slot), ("name", .text p.name), ("image_name", .text p.imageName),
    ("sampler_name", .text p.samplerName)]

def StageReflection.toJson (r : StageReflection) : Json :=
  .object [("stage", .text r.stage), ("entry_point", .text r.entryPoint),
    ("inputs", .array (r.inputs.map Attr.toJson)),
    ("uniform_blocks", .array (r.uniformBlocks.map UniformBlock.toJson)),
    ("images", .array (r.images.map Image.toJson)),
    ("samplers", .array (r.samplers.map Sampler.toJson)),
    ("image_samplers", .array (r.imageSamplers.map ImageSampler.toJson))]

def StageSource.toJson (s : StageSource) : Json :=
  .object [("snippet", .text s.snippetName), ("source", .text s.sourceCode),
    ("reflection", s.reflection.toJson)]

/-- Bytecode under the name of its snippet. -/
def Blob.entry (b : Blob) : String × Json := (b.snippetName, .text (Bytes.toHex b.data))

def BackendOutput.toJson (b : BackendOutput) : Json :=
  .object [("sources", .array (b.sources.map StageSource.toJson)),
    ("bytecode", .object (b.blobs.map Blob.entry))]

def Snippet.toJson (s : Snippet) : Json :=
  .object [("name", .text s.name), ("stage", .text s.stage)]

def Program.toJson (p : Program) : Json :=
  .object [("name", .text p.name), ("vs", .text p.vsName), ("fs", .text p.fsName),
    ("line", .int p.line)]

namespace Dump

def toJson (d : Dump) : Json :=
  .object [("base_path", .text d.input.basePath), ("module", d.input.module),
    ("headers", .array d.verbatim), ("ctypes", .object d.hosts),
    ("snippets", .array (d.input.snippets.map Snippet.toJson)),
    ("programs", .array (d.input.programs.map Program.toJson)),
    ("backends", .object (d.backends.map fun e => (e.1, e.2.toJson)))]

/-- Output stands under the names of supported languages. -/
def Listed (d : Dump) : Prop := ∀ e ∈ d.backends, Slang.ofName? e.1 = some e.2.slang

/-! ## Reading back -/

theorem attr_toJson (a : Attr) : attr Json.asText a.toJson = .ok a := rfl

theorem uniform_toJson (u : Uniform) : uniform Json.asText u.toJson = .ok u := rfl

theorem uniformBlock_toJson (b : UniformBlock) : uniformBlock Json.asText b.toJson = .ok b := by
  have huniforms : b.toJson.listField "uniforms" (uniform Json.asText) = .ok b.uniforms :=
    mapM_map_eq_ok fun u _ => uniform_toJson u
  unfold uniformBlock
  rw [huniforms]
  rfl

theorem image_toJson (i : Image) : image Json.asText i.toJson = .ok i := rfl

theorem sampler_toJson (s : Sampler) : sampler Json.asText s.toJson = .ok s := rfl

theorem imageSampler_toJson (p : ImageSampler) : imageSampler Json.asText p.toJson = .ok p := rfl

theorem reflection_toJson (r : StageReflection) : reflection Json.asText r.toJson = .ok r := by
  have hinputs : r.toJson.listField "inputs" (attr Json.asText) = .ok r.inputs :=
    mapM_map_eq_ok fun a _ => attr_toJson a
  have hblocks :
      r.toJson.listField "uniform_blocks" (uniformBlock Json.asText) = .ok r.uniformBlocks :=
    mapM_map_eq_ok fun b _ => uniformBlock_toJson b
  have himages : r.toJson.listField "images" (image Json.asText) = .ok r.images :=
    mapM_map_eq_ok fun i _ => image_toJson i
  have hsamplers : r.toJson.listField "samplers" (sampler Json.asText) = .ok r.samplers :=
    mapM_map_eq_ok fun s _ => sampler_toJson s
  have hpairs :
      r.toJson.listField "image_samplers" (imageSampler Json.asText) = .ok r.imageSamplers :=
    mapM_map_eq_ok fun p _ => imageSampler_toJson p
  unfold reflection
  rw [hinputs, hblocks, himages, hsamplers, hpairs]
  rfl

theorem stageSource_toJson (s : StageSource) : stageSource Json.asText s.toJson = .ok s := by
  have hfield : s.toJson.field "reflection" = .ok s.reflection.toJson := rfl
  unfold stageSource
  simp only [hfield, ok_bind, reflection_toJson]
  rfl

theorem blob_entry (b : Blob) : blob b.entry = .ok b := by
  have hdata : (Json.text (Bytes.toHex b.data)).asBytes = .ok b.data := by
    unfold Json.asBytes
    simp only [Bytes.ofHex_toHex]
  unfold blob Blob.entry
  rw [hdata]
  rfl

theorem backend_toJson (b : BackendOutput) : backend Json.asText b.slang b.toJson = .ok b := by
  have hsources : b.toJson.listField "sources" (stageSource Json.asText) = .ok b.sources :=
    mapM_map_eq_ok fun s _ => stageSource_toJson s
  have hblobs : (b.blobs.map Blob.entry).mapM blob = .ok b.blobs :=
    mapM_map_eq_ok fun blob _ => blob_entry blob
  have hbytecode : b.toJson.fieldOr "bytecode" (.object []) =
      .ok (.object (b.blobs.map Blob.entry)) := rfl
  unfold backend
  rw [hsources, ok_bind, hbytecode, ok_bind, Json.namedFields, ok_bind, hblobs]
  rfl

theorem namedBackend_toJson {e : String × BackendOutput} (h : Slang.ofName? e.1 = some e.2.slang) :
    namedBackend Json.asText (e.1, e.2.toJson) = .ok e := by
  unfold namedBackend
  simp only [h, backend_toJson, ok_bind]
  rfl

theorem snippet_toJson (s : Snippet) : snippet Json.asText s.toJson = .ok s := rfl

theorem program_toJson (p : Program) : program Json.asText p.toJson = .ok p := rfl

/-- A dump is read back as it was written. -/
theorem ofJson_toJson {d : Dump} (h : d.Listed) (basePath : String) :
    ofJson basePath d.toJson = .ok d := by
  have hsnippets : d.toJson.listField "snippets" (snippet Json.asText) = .ok d.input.snippets :=
    mapM_map_eq_ok fun s _ => snippet_toJson s
  have hprograms : d.toJson.listField "programs" (program Json.asText) = .ok d.input.programs :=
    mapM_map_eq_ok fun p _ => program_toJson p
  have hbackends : (d.backends.map fun e => (e.1, e.2.toJson)).mapM (namedBackend Json.asText) =
      .ok d.backends := mapM_map_eq_ok fun e he => namedBackend_toJson (h e he)
  have hpath : d.toJson.textFieldOr Json.asText "base_path" basePath = .ok d.input.basePath := rfl
  have hmodule : d.toJson.fieldOr "module" (.text "") = .ok d.input.module := rfl
  have hfield : d.toJson.fieldOr "backends" (.object []) =
      .ok (.object (d.backends.map fun e => (e.1, e.2.toJson))) := rfl
  unfold ofJson ofJsonBy
  rw [hpath, ok_bind, hmodule, ok_bind, hsnippets, ok_bind, hprograms, ok_bind, hfield,
    ok_bind, Json.namedFields, ok_bind, hbackends]
  rfl

end Dump

end ShaderBindings
