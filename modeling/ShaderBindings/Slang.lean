/-
  Target shading languages (`Slang`), their order (`Slang.table`, `Slang.inOrder`), and which of
  them may not be requested together (`Slang.sharedBackend?`). Languages may be made by hand;
  only those of the table are supported.
-/
import ShaderBindings.Text.Column

namespace ShaderBindings

/-- What the languages of one family have in common is how a shader description is filled in. -/
inductive Family
  | glsl
  | hlsl
  | metal
  | wgsl
deriving DecidableEq, Repr

namespace Family

def all : List Family := [.glsl, .hlsl, .metal, .wgsl]

def name : Family → String
  | glsl => "glsl"
  | hlsl => "hlsl"
  | metal => "metal"
  | wgsl => "wgsl"

def ofName? (name : String) : Option Family := all.find? (·.name == name)

end Family

/-- One target language. The backend is the case label of generated switches; the version is the
major version of the shader model, zero where there is none. -/
structure Slang where
  name : String
  family : String
  backend : String
  version : Int := 0
deriving DecidableEq, Repr, Inhabited

namespace Slang

/-- The supported languages. Whatever runs over several languages runs in this order. -/
def table : List Slang :=
  [⟨"glsl330", "glsl", ".GLCORE33", 0⟩,
   ⟨"glsl100", "glsl", ".GLES3", 0⟩,
   ⟨"glsl300es", "glsl", ".GLES3", 0⟩,
   ⟨"hlsl4", "hlsl", ".D3D11", 4⟩,
   ⟨"hlsl5", "hlsl", ".D3D11", 5⟩,
   ⟨"metal_macos", "metal", ".METAL_MACOS", 0⟩,
   ⟨"metal_ios", "metal", ".METAL_IOS", 0⟩,
   ⟨"metal_sim", "metal", ".METAL_SIMULATOR", 0⟩,
   ⟨"wgsl", "wgsl", ".WGPU", 0⟩]

def ofName? (name : String) : Option Slang := table.find? (·.name == name)

def names : List String := table.map Slang.name

/-- The supported languages of a request, each once, in the order of the table. -/
def inOrder (request : List Slang) : List Slang := table.filter (· ∈ request)

/-- The request in the order of the table, if all of it is supported. -/
def ordered? (request : List Slang) : Option (List Slang) :=
  if request.all (· ∈ table) then some (inOrder request) else none

/-- The first language that shares its backend with an earlier one, behind that earlier one.
The languages seen so far have different backends. -/
def sharedFrom (seen : List Slang) : List Slang → Option (Slang × Slang)
  | [] => none
  | s :: rest =>
    match seen.find? (·.backend == s.backend) with
    | some other => some (other, s)
    | none => sharedFrom (seen ++ [s]) rest

/-- The first two languages of a request, in the order of the table, that share a backend. -/
def sharedBackend? (request : List Slang) : Option (Slang × Slang) :=
  sharedFrom [] (inOrder request)

theorem mem_inOrder {request : List Slang} {s : Slang} :
    s ∈ inOrder request ↔ s ∈ table ∧ s ∈ request := by
  simp [inOrder]

theorem inOrder_inOrder (request : List Slang) : inOrder (inOrder request) = inOrder request := by
  unfold inOrder
  apply List.filter_congr
  intro s hs
  simp [hs]

end Slang

/-- One line of the table of languages. -/
def Slang.row (name family backend : String) : String :=
  "  " ++ Text.padRight 13 name ++ Text.padRight 8 family ++ backend

/-- The table of the supported languages, for the console. -/
def Slang.tableText : String :=
  "\n".intercalate
    (["Supported shading languages:", "", row "Slang" "Family" "Backend"]
      ++ table.map (fun s => row s.name s.family s.backend) ++ [""])

end ShaderBindings
