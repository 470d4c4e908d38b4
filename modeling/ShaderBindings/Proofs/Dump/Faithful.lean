/-
  A dump is read faithfully: as it was written (`ofJson_toJson`), in whatever way it was written
  (`ofJson_changes`, from `ofJson_change` for one `Change`). Output, bytecode and host types are
  compared as maps (`Dump.mapped`), since their order follows that of the entries. This is about
  dumps with texts where they are due, read from a JSON value; the text of the file is not
  written here.
-/
import ShaderBindings.Proofs.Dump
import ShaderBindings.Proofs.Dump.Variant

namespace ShaderBindings

open Fallible

/-! ## Maps -/

/-- Output with its bytecode as a map. -/
structure MappedOutput where
  slang : Slang
  sources : List StageSource
  bytecode : String → Option Bytes

def BackendOutput.mapped (b : BackendOutput) : MappedOutput where
  slang := b.slang
  sources := b.sources
  bytecode snippet := (b.blob? snippet).map Blob.data

/-- A dump with its output and its host types as maps. -/
structure MappedDump where
  input : ShaderInput
  backends : String → Option MappedOutput
  verbatim : List Json
  hosts : String → Option Json

/-- Output by name as a map. -/
def Backends.mapped (backends : Backends) (name : String) : Option MappedOutput :=
  (backends.get? name).map BackendOutput.mapped

def Dump.mapped (d : Dump) : MappedDump where
  input := d.input
  backends := d.backends.mapped
  verbatim := d.verbatim
  hosts := Keyed.get? d.hosts

namespace Dump

variable {read : TextReader} {v w : Json}

/-! ## Entries -/

theorem blob_name {entry : String × Json} {found : Blob} (h : blob entry = .ok found) :
    found.snippetName = entry.1 := by
  unfold blob at h
  obtain ⟨data, -, h⟩ := bind_eq_ok.mp h
  obtain rfl := pure_eq_ok.mp h
  rfl

/-- Bytecode is the same map whatever the order of its entries. -/
theorem blobs_change (h : Relation.ReflGen (Change (.entries .value)) v w) {fs : Named Json}
    (hv : v.namedFields = .ok fs) {blobs : List Blob} (hblobs : fs.mapM blob = .ok blobs) :
    ∃ gs others, w.namedFields = .ok gs ∧ gs.mapM blob = .ok others ∧ ∀ snippet : String,
      others.find? (·.snippetName == snippet) = blobs.find? (·.snippetName == snippet) := by
  rcases h with _ | h
  · exact ⟨fs, blobs, hv, hblobs, fun _ => rfl⟩
  cases h with
  | @reorderEntries _ fs' gs hperm hnames =>
    obtain rfl : fs' = fs := Except.ok.inj hv
    obtain ⟨others, hothers, hsame⟩ := exists_mapM_of_perm hperm hblobs
    have hkeys : (blobs.map Blob.snippetName).Nodup := by
      rw [← map_eq_map_of_forall₂ (mapM_eq_ok.mp hblobs) fun _ _ h => (blob_name h).symm]
      exact hnames
    exact ⟨gs, others, rfl, hothers, fun snippet => (find?_of_perm hsame hkeys snippet).symm⟩
  | inEntry hvw => exact absurd hvw Change.not_value

theorem backend_change {slang : Slang} (h : Change (.record backendFields) v w) {b : BackendOutput}
    (hv : backend read slang v = .ok b) :
    ∃ c, backend read slang w = .ok c ∧ c.mapped = b.mapped := by
  have hsources := h.listField "sources" rfl fun _ _ =>
    @stageSource_change read _ _
  unfold backend at hv ⊢
  rw [hsources]
  obtain ⟨sources, hlist, hv⟩ := bind_eq_ok.mp hv
  obtain ⟨field, hfield, hv⟩ := bind_eq_ok.mp hv
  obtain ⟨fs, hfs, hv⟩ := bind_eq_ok.mp hv
  obtain ⟨blobs, hblobs, hv⟩ := bind_eq_ok.mp hv
  obtain rfl := pure_eq_ok.mp hv
  obtain ⟨changed, hchanged, hchange⟩ := h.exists_fieldOr "bytecode" rfl hfield
  obtain ⟨gs, others, hgs, hothers, hfind⟩ := blobs_change hchange hfs hblobs
  refine ⟨⟨slang, sources, others⟩, ?_, ?_⟩
  · rw [hlist, ok_bind, hchanged, ok_bind, hgs, ok_bind, hothers]
    rfl
  · unfold BackendOutput.mapped BackendOutput.blob?
    simp only [hfind]

/-- Output is the same map whatever the order of its entries and the way each is written. -/
theorem backends_change (h : Relation.ReflGen (Change (.entries (.record backendFields))) v w)
    {fs : Named Json} (hv : v.namedFields = .ok fs) {backends : Backends}
    (hfs : fs.mapM (namedBackend read) = .ok backends) :
    ∃ gs others, w.namedFields = .ok gs ∧ gs.mapM (namedBackend read) = .ok others ∧
      Backends.mapped others = backends.mapped := by
  rcases h with _ | h
  · exact ⟨fs, backends, hv, hfs, rfl⟩
  cases h with
  | @reorderEntries _ fs' gs hperm hnames =>
    obtain rfl : fs' = fs := Except.ok.inj hv
    obtain ⟨others, hothers, hsame⟩ := exists_mapM_of_perm hperm hfs
    have hkeys : (backends.map Prod.fst).Nodup := by
      rw [← map_eq_map_of_forall₂ (mapM_eq_ok.mp hfs) fun _ _ h => ?_]
      · exact hnames
      · obtain ⟨slang, b, -, -, rfl⟩ := namedBackend_eq_ok.mp h
        rfl
    refine ⟨gs, others, rfl, hothers, funext fun name => ?_⟩
    unfold Backends.mapped
    rw [Keyed.get?_of_perm hsame hkeys]
  | @inEntry _ before after name a c hac =>
    obtain rfl : before ++ (name, a) :: after = fs := Except.ok.inj hv
    obtain ⟨first, found, rest, hbefore, hfound, hafter, rfl⟩ := mapM_between_eq_ok.mp hfs
    obtain ⟨slang, b, hslang, hb, rfl⟩ := namedBackend_eq_ok.mp hfound
    obtain ⟨b', hb', hsame⟩ := backend_change hac hb
    have hfound' : namedBackend read (name, c) = .ok (name, b') :=
      namedBackend_eq_ok.mpr ⟨slang, b', hslang, hb', rfl⟩
    refine ⟨before ++ (name, c) :: after, first ++ (name, b') :: rest, rfl,
      mapM_between_eq_ok.mpr ⟨first, (name, b'), rest, hbefore, hfound', hafter, rfl⟩,
      funext fun other => ?_⟩
    unfold Backends.mapped
    by_cases hname : name = other
    · subst hname
      rw [Keyed.get?_between_self, Keyed.get?_between_self]
      cases Keyed.get? first name with
      | none => exact congrArg some hsame
      | some _ => rfl
    · rw [Keyed.get?_between_ne hname, Keyed.get?_between_ne hname]

/-- Host types are the same map whatever their order. -/
theorem hosts_change (h : Relation.ReflGen (Change (.entries .value)) v w) {fs : Named Json}
    (hv : v.asNamed read = .ok fs) :
    ∃ gs, w.asNamed read = .ok gs ∧ Keyed.get? gs = Keyed.get? fs := by
  rcases h with _ | h
  · exact ⟨fs, hv, rfl⟩
  cases h with
  | @reorderEntries _ fs' gs hperm hnames =>
    obtain rfl : fs' = fs := Except.ok.inj hv
    exact ⟨gs, rfl, funext fun name => (Keyed.get?_of_perm hperm hnames name).symm⟩
  | inEntry hvw => exact absurd hvw Change.not_value

/-! ## Whole dumps -/

theorem ofJson_change {basePath : String} (h : Change (.record (fields basePath)) v w) {d : Dump}
    (hv : ofJson basePath v = .ok d) : ∃ c, ofJson basePath w = .ok c ∧ c.mapped = d.mapped := by
  have hsnippets := h.listField "snippets" rfl fun _ _ => @snippet_change Json.asText _ _
  have hprograms := h.listField "programs" rfl fun _ _ => @program_change Json.asText _ _
  unfold ofJson ofJsonBy at hv ⊢
  rw [h.textFieldOr "base_path" rfl, h.fieldOr "module" rfl, hsnippets, hprograms,
    h.fieldOr "headers" rfl]
  obtain ⟨path, hpath, hv⟩ := bind_eq_ok.mp hv
  obtain ⟨name, hname, hv⟩ := bind_eq_ok.mp hv
  obtain ⟨snippets, hsnippets, hv⟩ := bind_eq_ok.mp hv
  obtain ⟨programs, hprograms, hv⟩ := bind_eq_ok.mp hv
  obtain ⟨output, houtput, hv⟩ := bind_eq_ok.mp hv
  obtain ⟨fs, hfs, hv⟩ := bind_eq_ok.mp hv
  obtain ⟨backends, hbackends, hv⟩ := bind_eq_ok.mp hv
  obtain ⟨headers, hheaders, hv⟩ := bind_eq_ok.mp hv
  obtain ⟨verbatim, hverbatim, hv⟩ := bind_eq_ok.mp hv
  obtain ⟨ctypes, hctypes, hv⟩ := bind_eq_ok.mp hv
  obtain ⟨hosts, hhosts, hv⟩ := bind_eq_ok.mp hv
  obtain rfl := pure_eq_ok.mp hv
  -- what stands under these two names may have changed inside, and matters as a map only
  obtain ⟨output', houtput', hchange⟩ := h.exists_fieldOr "backends" rfl houtput
  obtain ⟨gs, backends', hgs, hbackends', hsameBackends⟩ := backends_change hchange hfs hbackends
  obtain ⟨ctypes', hctypes', hchange⟩ := h.exists_fieldOr "ctypes" rfl hctypes
  obtain ⟨hosts', hhosts', hsameHosts⟩ := hosts_change hchange hhosts
  refine ⟨⟨⟨path, name, snippets, programs⟩, backends', verbatim, hosts'⟩, ?_, ?_⟩
  · rw [hpath, ok_bind, hname, ok_bind, hsnippets, ok_bind, hprograms, ok_bind, houtput', ok_bind,
      hgs, ok_bind, hbackends', ok_bind, hheaders, ok_bind, hverbatim, ok_bind, hctypes', ok_bind,
      hhosts']
    rfl
  · unfold mapped
    rw [hsameBackends, hsameHosts]

/-- Any number of changes leaves a dump what it was, as maps. -/
theorem ofJson_changes {basePath : String}
    (h : Relation.ReflTransGen (Change (.record (fields basePath))) v w) {d : Dump}
    (hv : ofJson basePath v = .ok d) : ∃ c, ofJson basePath w = .ok c ∧ c.mapped = d.mapped := by
  induction h with
  | refl => exact ⟨d, hv, rfl⟩
  | tail _ hstep ih =>
    obtain ⟨b, hb, hsame⟩ := ih
    obtain ⟨c, hc, hstepSame⟩ := ofJson_change hstep hb
    exact ⟨c, hc, hstepSame.trans hsame⟩

/-- A dump whose output stands under the names of supported languages is read as it was written.
It stays that, as maps, if fields and entries are reordered, unknown fields are added, and fields
that hold their defaults are left out, at any depth and any number of times. -/
theorem ofJson_faithful {d : Dump} (h : d.Listed) (basePath : String) :
    ofJson basePath d.toJson = .ok d ∧
    ∀ v, Relation.ReflTransGen (Change (.record (fields basePath))) d.toJson v →
      ∃ c, ofJson basePath v = .ok c ∧ c.mapped = d.mapped :=
  ⟨ofJson_toJson h basePath, fun _ hv => ofJson_changes hv (ofJson_toJson h basePath)⟩

/-! ## A terse dump -/

/-- The bytecode of one shader for one language. -/
def bytecodeDump : Dump where
  input := { basePath := "a.glsl" }
  backends := [("wgsl", ⟨⟨"wgsl", "wgsl", ".WGPU", 0⟩, [], [⟨"v", [0xff]⟩]⟩)]

/-- The dump without what goes without saying, and with the name of what wrote it. -/
def terseJson : Json :=
  .object
    [("backends", .object [("wgsl", .object [("bytecode", .object [("v", .text "ff")])])]),
     ("programs", .array []), ("snippets", .array []), ("ctypes", .object []),
     ("headers", .array []), ("generator", .text "front end"), ("base_path", .text "a.glsl")]

theorem terseJson_changes :
    Relation.ReflTransGen (Change (.record (fields ""))) bytecodeDump.toJson terseJson := by
  have hmodule : Change (.record (fields "")) bytecodeDump.toJson _ :=
    @Change.omitDefault (fields "") [("base_path", .text "a.glsl")] _ "module" (.text "") .value rfl
      (by decide)
  have hsources : Change (.record backendFields)
      (.object [("sources", .array []), ("bytecode", .object [("v", .text "ff")])])
      (.object [("bytecode", .object [("v", .text "ff")])]) :=
    @Change.omitDefault backendFields [] _ "sources" _ _ rfl (by decide)
  have houtput := @Change.inField (fields "") [("base_path", .text "a.glsl"),
    ("headers", .array []), ("ctypes", .object []), ("snippets", .array []),
    ("programs", .array [])] [] "backends" _ _ _ _ rfl
    (@Change.inEntry _ [] [] "wgsl" _ _ hsources)
  have hgenerator := @Change.addUnknown (fields "") [("base_path", .text "a.glsl")]
    [("headers", .array []), ("ctypes", .object []), ("snippets", .array []),
     ("programs", .array []),
     ("backends", .object [("wgsl", .object [("bytecode", .object [("v", .text "ff")])])])]
    "generator" (.text "front end") rfl
  have hreverse := @Change.reorderFields (fields "") _ _ (List.reverse_perm
    [("base_path", .text "a.glsl"), ("generator", .text "front end"),
     ("headers", .array []), ("ctypes", .object []), ("snippets", .array []),
     ("programs", .array []),
     ("backends", .object [("wgsl", .object [("bytecode", .object [("v", .text "ff")])])])]).symm
    (by decide)
  exact (((Relation.ReflTransGen.single hmodule).tail houtput).tail hgenerator).tail hreverse

theorem terseJson_read : bytecodeDump.Listed ∧
    ofJson "" bytecodeDump.toJson = .ok bytecodeDump ∧
    ∃ c, ofJson "" terseJson = .ok c ∧ c.mapped = bytecodeDump.mapped := by
  have hlisted : bytecodeDump.Listed := by
    intro e he
    obtain rfl := List.mem_singleton.mp he
    rfl
  obtain ⟨hread, hchanges⟩ := ofJson_faithful hlisted ""
  exact ⟨hlisted, hread, hchanges terseJson terseJson_changes⟩

end Dump

end ShaderBindings
