/-
  Changes to what a module is assembled from that make no difference (`Job.Variant`): another
  order of the request, or of programs with different names; output for languages that are not
  requested; snippets that are not embedded; sources and bytecode that no snippet asks for, or
  that come too late. The outcome, module or fault, is the same after one of them
  (`outcome_eq_of_variant`) and so after any number of them, forth and back.
-/
import ShaderBindings.Proofs.Module.Closure
import ShaderBindings.Proofs.Module.Independence
import ShaderBindings.Proofs.StableOrder

namespace ShaderBindings

/-- What a module is assembled from. -/
structure Job where
  inp : ShaderInput
  backends : Backends
  settings : Settings

def Job.outcome (j : Job) : Except AssemblyFault Module :=
  Module.assemble j.inp j.backends j.settings

/-- One change that makes no difference. -/
inductive Job.Variant : Job → Job → Prop
  /-- The same languages in another order, or repeated. -/
  | request {inp : ShaderInput} {backends : Backends} {settings : Settings} {slangs : List Slang}
      (same : ∀ s, s ∈ slangs ↔ s ∈ settings.slangs) :
      Variant ⟨inp, backends, settings⟩ ⟨inp, backends, { settings with slangs }⟩
  /-- The programs in another order. -/
  | programs {inp : ShaderInput} {backends : Backends} {settings : Settings}
      {programs : List Program} (same : inp.programs.Perm programs)
      (names : (inp.programs.map Program.name).Nodup) :
      Variant ⟨inp, backends, settings⟩ ⟨{ inp with programs }, backends, settings⟩
  /-- Other output, or none, for languages that are not requested. -/
  | unrequested {inp : ShaderInput} {backends others : Backends} {settings : Settings}
      (same : ∀ s ∈ settings.slangs, others.get? s.name = backends.get? s.name) :
      Variant ⟨inp, backends, settings⟩ ⟨inp, others, settings⟩
  /-- A snippet more that is neither a vertex nor a fragment shader. -/
  | snippet {inp : ShaderInput} {backends : Backends} {settings : Settings}
      {before after : List Snippet} {added : Snippet} (split : inp.snippets = before ++ after)
      (other : ∀ stage : ProgramStage, added.stage ≠ stage.tag) :
      Variant ⟨inp, backends, settings⟩
        ⟨{ inp with snippets := before ++ added :: after }, backends, settings⟩
  /-- A source more, of a snippet that is not looked up or behind another source of it. -/
  | source {inp : ShaderInput} {backends : Backends} {settings : Settings} {slang : String}
      {b : BackendOutput} {before after : List StageSource} {added : StageSource}
      (output : backends.get? slang = some b) (split : b.sources = before ++ after)
      (unread : ¬ inp.Uses added.snippetName ∨
        added.snippetName ∈ before.map StageSource.snippetName) :
      Variant ⟨inp, backends, settings⟩
        ⟨inp, backends.put slang { b with sources := before ++ added :: after }, settings⟩
  /-- Bytecode more, of a snippet that is not looked up or behind other bytecode of it. -/
  | blob {inp : ShaderInput} {backends : Backends} {settings : Settings} {slang : String}
      {b : BackendOutput} {before after : List Blob} {added : Blob}
      (output : backends.get? slang = some b) (split : b.blobs = before ++ after)
      (unread : ¬ inp.Uses added.snippetName ∨ added.snippetName ∈ before.map Blob.snippetName) :
      Variant ⟨inp, backends, settings⟩
        ⟨inp, backends.put slang { b with blobs := before ++ added :: after }, settings⟩

/-! ## Lists in another order or with more in them -/

/-- Programs whose names differ are in the same order once they are sorted. -/
theorem ShaderInput.sortedPrograms_of_perm {inp : ShaderInput} {programs : List Program}
    (h : inp.programs.Perm programs) (hnames : (inp.programs.map Program.name).Nodup) :
    inp.sortedPrograms = { inp with programs }.sortedPrograms := by
  have hsorted (ps : List Program) :
      (ps.mergeSort fun a b => decide (a.name ≤ b.name)).Pairwise fun a b => a.name ≤ b.name :=
    (StablySorted.mergeSort Program.name ps).ascending
  have hperm : inp.sortedPrograms.Perm { inp with programs }.sortedPrograms :=
    ((List.mergeSort_perm _ _).trans h).trans (List.mergeSort_perm _ _).symm
  refine List.Perm.eq_of_pairwise (fun p q hp hq hpq hqp => ?_) (hsorted _) (hsorted _) hperm
  have hp := (List.mergeSort_perm _ _).mem_iff.mp hp
  have hq := h.mem_iff.mpr ((List.mergeSort_perm _ _).mem_iff.mp hq)
  exact List.inj_on_of_nodup_map hnames hp hq (String.le_antisymm hpq hqp)

/-- An element that is not looked for, or that comes behind one that is found, changes nothing. -/
theorem find?_append_cons {α : Type} {p : α → Bool} {before after : List α} {a : α}
    (h : p a = false ∨ ∃ x ∈ before, p x = true) :
    (before ++ a :: after).find? p = (before ++ after).find? p := by
  rw [List.find?_append, List.find?_append]
  rcases h with ha | ⟨x, hx, hpx⟩
  · rw [List.find?_cons_of_neg (by simp [ha])]
  · obtain ⟨y, hy⟩ := Option.isSome_iff_exists.mp (List.find?_isSome.mpr ⟨x, hx, hpx⟩)
    rw [hy, Option.some_or, Option.some_or]

/-- The same for elements found by a name, when the name is one that is used. -/
theorem find?_name_append_cons {α : Type} {name : α → String} {used : String → Prop}
    {before after : List α} {a : α} (h : ¬ used (name a) ∨ name a ∈ before.map name)
    {wanted : String} (hwanted : used wanted) :
    (before ++ a :: after).find? (name · == wanted) =
      (before ++ after).find? (name · == wanted) := by
  refine find?_append_cons ?_
  by_cases ha : name a = wanted
  · right
    rcases h with h | h
    · exact absurd (ha ▸ hwanted) h
    · obtain ⟨x, hx, hxa⟩ := List.mem_map.mp h
      exact ⟨x, hx, by simpa [ha] using hxa⟩
  · left
    simpa using ha

/-- Output for one language in place of output that is alike. -/
theorem Backends.alikeFor_put {inp : ShaderInput} {backends : Backends} {slang : String}
    {b c : BackendOutput} (hb : backends.get? slang = some b) (h : b.Alike inp c) (s : Slang) :
    backends.AlikeFor inp (backends.put slang c) s := by
  unfold Backends.AlikeFor
  rw [Keyed.get?_put]
  by_cases hs : slang = s.name
  · rw [if_pos hs, ← hs, hb]
    exact .some h
  · rw [if_neg hs]
    exact AlikeFor.of_eq rfl

namespace Job

/-! ## One change -/

theorem outcome_request {inp : ShaderInput} {backends : Backends} {settings : Settings}
    {slangs : List Slang} (h : ∀ s, s ∈ slangs ↔ s ∈ settings.slangs) :
    outcome ⟨inp, backends, settings⟩ = outcome ⟨inp, backends, { settings with slangs }⟩ := by
  have hempty : slangs.isEmpty = settings.slangs.isEmpty := by
    rw [Bool.eq_iff_iff, List.isEmpty_iff, List.isEmpty_iff, List.eq_nil_iff_forall_not_mem,
      List.eq_nil_iff_forall_not_mem]
    simp only [h]
  have hshared : Slang.sharedBackend? slangs = Slang.sharedBackend? settings.slangs := by
    unfold Slang.sharedBackend?
    rw [Slang.inOrder_congr h]
  unfold outcome Module.assemble
  simp only [hempty, hshared, Slang.ordered?_congr h]
  rfl

theorem outcome_eq_of_variant {j k : Job} (h : Variant j k) : j.outcome = k.outcome := by
  cases h with
  | request same => exact outcome_request same
  | @programs inp backends settings programs same names =>
    have halike : inp.Alike { inp with programs } :=
      ⟨rfl, rfl, ShaderInput.sortedPrograms_of_perm same names, rfl⟩
    exact Module.assemble_congr halike fun s _ => .of_eq rfl
  | unrequested same =>
    exact Module.assemble_congr (.refl _) fun s hs => .of_eq (same s hs)
  | @snippet inp backends settings before after added split other =>
    have hadded : added.isShader = false := by
      have hvertex := other .vertex
      have hfragment := other .fragment
      simp [Snippet.isShader, hvertex, hfragment]
    have halike : inp.Alike { inp with snippets := before ++ added :: after } := by
      refine ⟨rfl, rfl, rfl, ?_⟩
      unfold ShaderInput.shaders
      rw [split, List.filter_append, List.filter_append, List.filter_cons_of_neg (by simp [hadded])]
    exact Module.assemble_congr halike fun s _ => .of_eq rfl
  | source output split unread =>
    refine Module.assemble_congr (.refl _) fun s _ => Backends.alikeFor_put output ?_ s
    refine ⟨rfl, fun snippet hsnippet => ?_, fun _ _ => rfl⟩
    unfold BackendOutput.source?
    rw [split]
    exact (find?_name_append_cons unread hsnippet).symm
  | blob output split unread =>
    refine Module.assemble_congr (.refl _) fun s _ => Backends.alikeFor_put output ?_ s
    refine ⟨rfl, fun _ _ => rfl, fun snippet hsnippet => ?_⟩
    unfold BackendOutput.blob?
    rw [split]
    exact (find?_name_append_cons unread hsnippet).symm

/-! ## Any number of changes -/

/-- Jobs that come from each other by changes that make no difference have the same outcome. -/
theorem outcome_eq_of_variants {j k : Job} (h : Relation.EqvGen Variant j k) :
    j.outcome = k.outcome := by
  induction h with
  | rel j k hjk => exact outcome_eq_of_variant hjk
  | refl j => rfl
  | symm j k _ ih => exact ih.symm
  | trans j k l _ _ hjk hkl => exact hjk.trans hkl

/-! ## Two programs of two shaders -/

/-- Programs of one vertex and one fragment shader, and the sources there are besides theirs. -/
def sharing (snippets : List Snippet) (programs : List Program) (more : List StageSource)
    (slangs : List Slang) : Job where
  inp := { basePath := "", snippets, programs }
  backends := [("wgsl", {
    slang := Module.wgsl
    sources := [⟨"v", "v", { stage := "vs" }⟩, ⟨"f", "f", { stage := "fs" }⟩] ++ more })]
  settings := { slangs }

/-- The programs are swapped, the language is requested twice, and there are a snippet that is no
shader and a second source of the vertex shader. -/
theorem sharing_varied :
    Relation.EqvGen Variant
      (sharing [⟨"v", "vs"⟩, ⟨"f", "fs"⟩] [⟨"p", "v", "f", 1⟩, ⟨"q", "v", "f", 2⟩] []
        [Module.wgsl])
      (sharing [⟨"v", "vs"⟩, ⟨"b", "block"⟩, ⟨"f", "fs"⟩]
        [⟨"q", "v", "f", 2⟩, ⟨"p", "v", "f", 1⟩] [⟨"v", "other", { stage := "fs" }⟩]
        [Module.wgsl, Module.wgsl]) ∧
    (sharing [⟨"v", "vs"⟩, ⟨"f", "fs"⟩] [⟨"p", "v", "f", 1⟩, ⟨"q", "v", "f", 2⟩] []
        [Module.wgsl]).outcome =
      (sharing [⟨"v", "vs"⟩, ⟨"b", "block"⟩, ⟨"f", "fs"⟩]
        [⟨"q", "v", "f", 2⟩, ⟨"p", "v", "f", 1⟩] [⟨"v", "other", { stage := "fs" }⟩]
        [Module.wgsl, Module.wgsl]).outcome := by
  have hprograms (ss : List Snippet) : Variant
      (sharing ss [⟨"p", "v", "f", 1⟩, ⟨"q", "v", "f", 2⟩] [] [Module.wgsl])
      (sharing ss [⟨"q", "v", "f", 2⟩, ⟨"p", "v", "f", 1⟩] [] [Module.wgsl]) :=
    .programs (.swap _ _ _) (show ["p", "q"].Nodup by decide)
  have hrequest (ss : List Snippet) (ps : List Program) : Variant
      (sharing ss ps [] [Module.wgsl]) (sharing ss ps [] [Module.wgsl, Module.wgsl]) :=
    .request fun s => by simp
  have hsnippet (ps : List Program) (slangs : List Slang) : Variant
      (sharing [⟨"v", "vs"⟩, ⟨"f", "fs"⟩] ps [] slangs)
      (sharing [⟨"v", "vs"⟩, ⟨"b", "block"⟩, ⟨"f", "fs"⟩] ps [] slangs) :=
    @Variant.snippet _ _ _ [⟨"v", "vs"⟩] [⟨"f", "fs"⟩] ⟨"b", "block"⟩ rfl fun stage => by
      cases stage <;> decide
  have hsource (ss : List Snippet) (ps : List Program) (slangs : List Slang) : Variant
      (sharing ss ps [] slangs)
      (sharing ss ps [⟨"v", "other", { stage := "fs" }⟩] slangs) :=
    @Variant.source (sharing ss ps [] slangs).inp (sharing ss ps [] slangs).backends
      (sharing ss ps [] slangs).settings "wgsl" _
      [⟨"v", "v", { stage := "vs" }⟩, ⟨"f", "f", { stage := "fs" }⟩] []
      ⟨"v", "other", { stage := "fs" }⟩ rfl rfl (.inr (by decide))
  have h := ((Relation.EqvGen.rel _ _ (hprograms _)).trans _ _ _ (.rel _ _ (hrequest _ _))).trans
    _ _ _ ((Relation.EqvGen.rel _ _ (hsnippet _ _)).trans _ _ _ (.rel _ _ (hsource _ _ _)))
  exact ⟨h, outcome_eq_of_variants h⟩

end Job

end ShaderBindings
