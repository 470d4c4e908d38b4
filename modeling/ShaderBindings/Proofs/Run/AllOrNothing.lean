/-
  A run either writes the whole module or changes nothing (`AllOrNothing`), with one exception:
  when the path of the output leads in a circle once the file is there (`LeadsInCircle`), the
  run breaks down with the file written.

  * `ofWords_cases` says what a run can come to; everything else follows from it.
  * `allOrNothing_iff` is about one run. For runs one after another it follows by induction on
    them (`eachRun_congr`), as it does that a location which no output names keeps its entry
    (`find?_treeAfter`).

  Runs that come to a dump with an unpaired surrogate, or with something else than a text where
  one is due, are left out (`MeetsUntold`): how those end is not told (`ending_eq_untold_iff`).
  Nothing else is assumed of the tree or of the command line.
-/
import ShaderBindings.Proofs.Dump.Typed
import ShaderBindings.Proofs.FileTree.Replacing
import ShaderBindings.Proofs.Module.Assembly
import ShaderBindings.Proofs.Run.Configured

namespace ShaderBindings

open Fallible

namespace Run

/-- A run that has an output and a module to write to it. -/
structure Generates (t : FileTree) (words : List String) (c : GenerateConfig) (dump : Dump)
    (output : PathName) (m : Module) : Prop where
  config : Config.ofWords t words = .ok (.generate c)
  output : c.output = .value output
  loaded : ∃ v, Dump.readValue t c.input = .ok v ∧ Dump.ofJson c.input.text v = .ok dump
  assembled : Module.assemble (shaderInput c dump) dump.backends (settings c dump) = .ok m

/-- A run comes to a dump that has an unpaired surrogate, or something else than a text where one is
due. -/
def MeetsUntold (t : FileTree) (words : List String) : Prop :=
  ∃ c, Config.ofWords t words = .ok (.generate c) ∧ Dump.Untold t c.input

/-- How the run ends is told: normally with the whole module in the entry that the output names, or
with nothing changed. -/
structure AllOrNothing (t : FileTree) (words : List String) : Prop where
  told : (ofWords t words).ending ≠ .untold
  nothing : (ofWords t words).ending ≠ .finished → (ofWords t words).tree = t
  all : (ofWords t words).ending = .finished →
    (∃ d, Config.ofWords t words = .ok (.discover d) ∧ (ofWords t words).tree = t) ∨
    ∃ c dump output m l mode, Generates t words c dump output m ∧
      t.place .busy output = .ok l ∧
      (ofWords t words).tree = t.put l (.file (Bytes.ofText m.source) mode)
  /-- A write that fails leaves no temporary file. -/
  swept : ∀ c dump output m f left, Generates t words c dump output m →
    t.attempt output (Bytes.ofText m.source) = (.error f, left) → left = t

/-- The written file changes the tree so that the path of the output leads in a circle. -/
def LeadsInCircle (t : FileTree) (words : List String) : Prop :=
  ∃ c dump output m l after, Generates t words c dump output m ∧
    t.replace output (Bytes.ofText m.source) = .ok (l, after) ∧ after ≠ t ∧
    after.isCircle (after.resolve output) = true

/-! ## What a run can come to -/

theorem endLoading_spec (t : FileTree) (before : List String) (f : LoadFault) :
    (endLoading t before f).ending ≠ .finished ∧ (endLoading t before f).tree = t := by
  unfold endLoading
  split
  · simp
  · split <;> simp [refuse]

theorem endLoading_untold_iff {t : FileTree} {before : List String} {f : LoadFault} :
    (endLoading t before f).ending = .untold ↔ f.isUntold = true := by
  unfold endLoading
  split
  · next h => simp [h]
  · next h => split <;> simp_all [refuse]

theorem endGenerating_ending (t : FileTree) (before : List String) (format : ErrorFormat)
    (f : GenerateFault) : (endGenerating t before format f).ending ≠ .finished := by
  unfold endGenerating
  split <;> simp

theorem endGenerating_told (t : FileTree) (before : List String) (format : ErrorFormat)
    (f : GenerateFault) : (endGenerating t before format f).ending ≠ .untold := by
  unfold endGenerating
  split <;> simp

/-- Only a circle is found after the file is written. -/
theorem endGenerating_tree {t : FileTree} {before : List String} {format : ErrorFormat}
    {f : GenerateFault} (h : ∀ path p after, f ≠ .write path (.circle p after)) :
    (endGenerating t before format f).tree = t := by
  unfold endGenerating
  split
  · rfl
  · unfold GenerateFault.after
    split
    · next path p after => exact absurd rfl (h _ _ _)
    · rfl

/-- The report about complete output does not fail. -/
theorem exists_summary_eq_ok {inp : ShaderInput} {backends : Backends} {slangs : List Slang}
    (h : backends.Complete inp slangs) (output : String) (lineCount warningCount : Nat) :
    ∃ summary, Summary.ofOutput inp backends slangs output lineCount warningCount =
      .ok summary := by
  obtain ⟨found, hfound⟩ : ∃ found, slangs.mapM (Summary.outputFor backends) = .ok found := by
    refine exists_mapM_eq_ok.mpr fun s hs => ?_
    obtain ⟨b, hb, -⟩ := h s hs
    exact ⟨b, by rw [Summary.outputFor, hb]⟩
  obtain ⟨counts, hcounts⟩ :
      ∃ counts, found.mapM (BackendCount.ofBackend inp) = .ok counts := by
    refine exists_mapM_eq_ok.mpr fun b hb => ?_
    obtain ⟨s, hs, hbs⟩ := exists_of_forall₂_right (mapM_eq_ok.mp hfound) hb
    obtain ⟨b', hb', hcomplete⟩ := h s hs
    rw [Summary.outputFor, hb'] at hbs
    obtain rfl := Except.ok.inj hbs
    obtain ⟨payloads, hpayloads⟩ : ∃ payloads, (inp.shaders.mapM fun s =>
        Payload.ofSnippet inp.namePrefix s.name b') = .ok payloads :=
      exists_mapM_eq_ok.mpr fun s hs => hcomplete.exists_payload inp.namePrefix hs
    unfold BackendCount.ofBackend
    rw [hpayloads]
    exact ⟨_, rfl⟩
  unfold Summary.ofOutput
  simp only [bind_eq_ok, mapError_eq_ok, pure_eq_ok]
  exact ⟨_, found, hfound, counts, hcounts, rfl⟩

section

variable {t : FileTree} {words : List String} {c : GenerateConfig} {dump : Dump}
  {output : PathName} {m : Module}

theorem Generates.ofWords_eq (h : Generates t words c dump output m) :
    ∃ before, ofWords t words = writeModule t c dump before output := by
  rw [ofWords_of_generate h.config]
  unfold generateModule
  rw [Dump.loadTyped_eq_ok.mpr h.loaded]
  simp only [h.output]
  exact ⟨_, rfl⟩

/-- After a write that is refused the tree is as before. -/
theorem Generates.refused (h : Generates t words c dump output m) {f : FileFault}
    (hreplace : t.replace output (Bytes.ofText m.source) = .error f) :
    (ofWords t words).ending ≠ .finished ∧ (ofWords t words).tree = t := by
  obtain ⟨before, hrun⟩ := h.ofWords_eq
  have hgenerate : generate t (shaderInput c dump) dump.backends (settings c dump) output =
      .error (.write output (.refused f)) := by
    unfold generate
    rw [h.assembled, mapError_ok, ok_bind, FileTree.writeText_eq_refused hreplace]
    rfl
  rw [hrun]
  unfold writeModule
  simp only [hgenerate]
  exact ⟨endGenerating_ending _ _ _ _, endGenerating_tree (by simp)⟩

/-- After a write the tree is the written one, and only a circle keeps the run from finishing. -/
theorem Generates.written (h : Generates t words c dump output m) {l : Location}
    {after : FileTree} (hreplace : t.replace output (Bytes.ofText m.source) = .ok (l, after)) :
    (ofWords t words).tree = after ∧
      ((ofWords t words).ending = .finished ↔ after.isCircle (after.resolve output) = false) := by
  obtain ⟨before, hrun⟩ := h.ofWords_eq
  rw [hrun]
  unfold writeModule
  cases hcircle : after.isCircle (after.resolve output) with
  | true =>
    have hgenerate : generate t (shaderInput c dump) dump.backends (settings c dump) output =
        .error (.write output (.circle (after.resolve output) after)) := by
      unfold generate
      rw [h.assembled, mapError_ok, ok_bind, FileTree.writeText_eq_circle hreplace hcircle]
      rfl
    simp only [hgenerate]
    exact ⟨rfl, by simp [endGenerating, GenerateFault.diagnostic?]⟩
  | false =>
    obtain ⟨file, hwrite⟩ : ∃ file, t.writeText output m.source = .ok (file, after) :=
      ⟨_, FileTree.writeText_of_replace hreplace hcircle⟩
    have hgenerate : generate t (shaderInput c dump) dump.backends (settings c dump) output =
        .ok (⟨file, m.source, m.warnings⟩, after) := by
      unfold generate
      rw [h.assembled, mapError_ok, ok_bind, hwrite]
      rfl
    obtain ⟨summary, hsummary⟩ : ∃ summary, Summary.ofGenerated (shaderInput c dump) dump.backends
        (settings c dump) ⟨file, m.source, m.warnings⟩ = .ok summary :=
      exists_summary_eq_ok (Module.assembledFrom_of_assemble h.assembled).1 _ _ _
    simp [hgenerate, hsummary]

end

/-- What is asked for is loaded, assembled and given an output, or nothing happens. -/
theorem generateModule_cases (t : FileTree) (c : GenerateConfig) :
    (∃ dump output m, c.output = .value output ∧ Dump.loadTyped t c.input = .ok dump ∧
      Module.assemble (shaderInput c dump) dump.backends (settings c dump) = .ok m) ∨
    ((generateModule t c).ending ≠ .finished ∧ (generateModule t c).tree = t) := by
  unfold generateModule
  cases hload : Dump.loadTyped t c.input with
  | error f => exact .inr (endLoading_spec t _ f)
  | ok dump =>
    cases hassemble : Module.assemble (shaderInput c dump) dump.backends (settings c dump) with
    | error f =>
      right
      cases c.output with
      | blank =>
        simp only [endUnwritten, hassemble]
        exact ⟨endGenerating_ending _ _ _ _, endGenerating_tree (by simp)⟩
      | value output =>
        have hgenerate : generate t (shaderInput c dump) dump.backends (settings c dump) output =
            .error (.assembly f) := by
          unfold generate
          rw [hassemble]
          rfl
        simp only [writeModule, hgenerate]
        exact ⟨endGenerating_ending _ _ _ _, endGenerating_tree (by simp)⟩
    | ok m =>
      cases houtput : c.output with
      | blank => exact .inr (by simp [endUnwritten, hassemble])
      | value output => exact .inl ⟨dump, output, m, rfl, rfl, hassemble⟩

/-- A run has a module to write, prints a listing, or stops before. -/
theorem ofWords_cases (t : FileTree) (words : List String) :
    (∃ c dump output m, Generates t words c dump output m) ∨
    (∃ d, Config.ofWords t words = .ok (.discover d) ∧ (ofWords t words).tree = t) ∨
    ((ofWords t words).ending ≠ .finished ∧ (ofWords t words).tree = t) := by
  by_cases hgenerate : ∃ c, Config.ofWords t words = .ok (.generate c)
  · obtain ⟨c, hconfig⟩ := hgenerate
    rw [ofWords_of_generate hconfig]
    rcases generateModule_cases t c with h | h
    · obtain ⟨dump, output, m, houtput, hload, hassemble⟩ := h
      have hloaded := Dump.loadTyped_eq_ok.mp hload
      exact .inl ⟨c, dump, output, m, hconfig, houtput, hloaded, hassemble⟩
    · exact .inr (.inr h)
  · obtain ⟨htree, -, -, hlisting⟩ := ofWords_of_not_generate (not_exists.mp hgenerate)
    by_cases hend : (ofWords t words).ending = .finished
    · obtain ⟨d, hd⟩ := hlisting hend
      exact .inr (.inl ⟨d, hd, htree⟩)
    · exact .inr (.inr ⟨hend, htree⟩)

/-! ## Dumps about which nothing is told -/

/-- With a dump at hand it is told how a run ends. -/
theorem generateModule_told {t : FileTree} {c : GenerateConfig} {dump : Dump}
    (hload : Dump.loadTyped t c.input = .ok dump) : (generateModule t c).ending ≠ .untold := by
  unfold generateModule
  rw [hload]
  dsimp only
  split
  · unfold writeModule
    dsimp only
    split
    · exact endGenerating_told _ _ _ _
    · split <;> simp
  · unfold endUnwritten
    split
    · exact endGenerating_told _ _ _ _
    · simp

theorem ending_eq_untold_iff {t : FileTree} {words : List String} :
    (ofWords t words).ending = .untold ↔ MeetsUntold t words := by
  constructor
  · intro h
    by_cases hgenerate : ∃ c, Config.ofWords t words = .ok (.generate c)
    · obtain ⟨c, hconfig⟩ := hgenerate
      rw [ofWords_of_generate hconfig] at h
      cases hload : Dump.loadTyped t c.input with
      | ok dump => exact absurd h (generateModule_told hload)
      | error f =>
        unfold generateModule at h
        rw [hload] at h
        exact ⟨c, hconfig, Dump.untold_iff.mpr ⟨f, hload, endLoading_untold_iff.mp h⟩⟩
    · obtain ⟨-, htold, -⟩ := ofWords_of_not_generate (not_exists.mp hgenerate)
      exact absurd h htold
  · rintro ⟨c, hconfig, huntold⟩
    obtain ⟨f, hload, hf⟩ := Dump.untold_iff.mp huntold
    rw [ofWords_of_generate hconfig]
    unfold generateModule
    rw [hload]
    exact endLoading_untold_iff.mpr hf

/-! ## One run -/

theorem not_meetsUntold_of_finished {t : FileTree} {words : List String}
    (h : (ofWords t words).ending = .finished) : ¬ MeetsUntold t words := by
  intro hmeets
  rw [ending_eq_untold_iff.mpr hmeets] at h
  cases h

theorem not_leadsInCircle_of_finished {t : FileTree} {words : List String}
    (h : (ofWords t words).ending = .finished) : ¬ LeadsInCircle t words := by
  rintro ⟨c, dump, output, m, l, after, hgen, hreplace, -, hcircle⟩
  rw [(hgen.written hreplace).2.mp h] at hcircle
  cases hcircle

theorem allOrNothing_iff {t : FileTree} {words : List String} (h : ¬ MeetsUntold t words) :
    AllOrNothing t words ↔ ¬ LeadsInCircle t words := by
  have htold : (ofWords t words).ending ≠ .untold := mt ending_eq_untold_iff.mp h
  constructor
  · -- the circle is found after the write: the run has not finished and yet changed the tree
    intro h hcircle
    obtain ⟨c, dump, output, m, l, after, hgen, hreplace, hne, hcircle⟩ := hcircle
    obtain ⟨htree, hending⟩ := hgen.written hreplace
    have hnot : (ofWords t words).ending ≠ .finished := fun hf => by
      rw [hending.mp hf] at hcircle
      simp at hcircle
    exact hne (htree.symm.trans (h.nothing hnot))
  · intro hno
    have hswept : ∀ c dump output m f left, Generates t words c dump output m →
        t.attempt output (Bytes.ofText m.source) = (.error f, left) → left = t :=
      fun _ _ _ _ _ _ _ h => FileTree.attempt_eq_error h
    rcases ofWords_cases t words with ⟨c, dump, output, m, hgen⟩ | ⟨d, hd, htree⟩ | ⟨hend, htree⟩
    · cases hreplace : t.replace output (Bytes.ofText m.source) with
      | error f =>
        obtain ⟨hend, htree⟩ := hgen.refused hreplace
        exact ⟨htold, fun _ => htree, fun hf => absurd hf hend, hswept⟩
      | ok found =>
        obtain ⟨l, after⟩ := found
        obtain ⟨htree, hending⟩ := hgen.written hreplace
        refine ⟨htold, fun hend => ?_, fun hf => ?_, hswept⟩
        · rw [htree]
          by_contra hne
          have hcircle : after.isCircle (after.resolve output) = true := by
            simpa using mt hending.mpr hend
          exact hno ⟨c, dump, output, m, l, after, hgen, hreplace, hne, hcircle⟩
        · obtain ⟨mode, hafter⟩ := FileTree.replace_eq_ok hreplace
          exact .inr ⟨c, dump, output, m, l, mode, hgen, hafter.place, htree.trans hafter.after_eq⟩
    · exact ⟨htold, fun _ => htree, fun _ => .inl ⟨d, hd, htree⟩, hswept⟩
    · exact ⟨htold, fun _ => htree, fun hf => absurd hf hend, hswept⟩

/-! ## Runs one after another -/

/-- The tree after runs of command lines. -/
def treeAfter (t : FileTree) : List (List String) → FileTree
  | [] => t
  | words :: rest => treeAfter (ofWords t words).tree rest

/-- Something holds of each run, with the tree that it finds. -/
def EachRun (P : FileTree → List String → Prop) (t : FileTree) : List (List String) → Prop
  | [] => True
  | words :: rest => P t words ∧ EachRun P (ofWords t words).tree rest

/-- The output of a run names the entry at a location. -/
def WritesAt (l : Location) (t : FileTree) (words : List String) : Prop :=
  ∃ c dump output m, Generates t words c dump output m ∧ t.place .busy output = .ok l

theorem eachRun_congr {P Q R : FileTree → List String → Prop}
    (h : ∀ t words, R t words → (P t words ↔ Q t words)) {t : FileTree}
    {session : List (List String)} (hR : EachRun R t session) :
    EachRun P t session ↔ EachRun Q t session := by
  induction session generalizing t with
  | nil => exact Iff.rfl
  | cons words rest ih => exact and_congr (h t words hR.1) (ih hR.2)

theorem not_writesAt {t : FileTree} {words : List String} {c : GenerateConfig} {output : PathName}
    {l : Location} (hconfig : Config.ofWords t words = .ok (.generate c))
    (houtput : c.output = .value output) (hplace : t.place .busy output ≠ .ok l) :
    ¬ WritesAt l t words := by
  rintro ⟨c', dump, output', m, hgen, hplace'⟩
  obtain rfl := Config.generate.inj (Except.ok.inj (hconfig.symm.trans hgen.config))
  obtain rfl := Setting.value.inj (houtput.symm.trans hgen.output)
  exact hplace hplace'

/-- A run leaves alone what its output does not name. -/
theorem find?_of_not_writesAt {l : Location} {t : FileTree} {words : List String}
    (h : ¬ WritesAt l t words) : (ofWords t words).tree.find? l = t.find? l := by
  rcases ofWords_cases t words with ⟨c, dump, output, m, hgen⟩ | ⟨d, -, htree⟩ | ⟨-, htree⟩
  · cases hreplace : t.replace output (Bytes.ofText m.source) with
    | error f => rw [(hgen.refused hreplace).2]
    | ok found =>
      obtain ⟨l', after⟩ := found
      obtain ⟨mode, hafter⟩ := FileTree.replace_eq_ok hreplace
      rw [(hgen.written hreplace).1, hafter.after_eq, FileTree.find?_put]
      refine if_neg fun hl => h ?_
      exact ⟨c, dump, output, m, hgen, hl ▸ hafter.place⟩
  · rw [htree]
  · rw [htree]

theorem find?_treeAfter {l : Location} (t : FileTree) (session : List (List String))
    (h : EachRun (fun t words => ¬ WritesAt l t words) t session) :
    (treeAfter t session).find? l = t.find? l := by
  induction session generalizing t with
  | nil => rfl
  | cons words rest ih => exact (ih _ h.2).trans (find?_of_not_writesAt h.1)

/-- If every dump that the runs come to has texts where they are due, all runs one after another are
all or nothing exactly when none of them leads in a circle; and in any case they leave alone what no
output names. -/
theorem session_allOrNothing_iff (t : FileTree) (session : List (List String))
    (htold : EachRun (fun t words => ¬ MeetsUntold t words) t session) :
    (EachRun AllOrNothing t session ↔
      EachRun (fun t words => ¬ LeadsInCircle t words) t session) ∧
    ∀ l, EachRun (fun t words => ¬ WritesAt l t words) t session →
      (treeAfter t session).find? l = t.find? l := by
  refine ⟨eachRun_congr (fun _ _ => allOrNothing_iff) htold, ?_⟩
  intro l h
  exact find?_treeAfter t session h

/-! ## A circle -/

/-- A tree with links in which the output's path leads to a link to the directory it is in. -/
def knot : FileTree where
  home := []
  entries :=
    [([], .directory 0o755),
     (["in.json"], .file (Bytes.ofText "\x7b\"backends\":\x7b\"wgsl\":\x7b\x7d\x7d\x7d") 0o644),
     (["a"], .directory 0o755), (["a", "b"], .directory 0o755), (["k"], .link "a/b"),
     (["a", "l"], .link "."), (["s"], .link "a"), (["a", "s"], .link "s")]

def knotWords : List String :=
  ["--input", "in.json", "--output", "k/../l/../s/l", "--slang", "wgsl"]

/-- A command line for the same tree whose output is in no circle. -/
def straightWords : List String :=
  ["--input", "in.json", "--output", "o.odin", "--slang", "wgsl"]

/-- What it asks for. -/
def straightConfig : GenerateConfig where
  input := PathName.ofText "in.json"
  output := .value (PathName.ofText "o.odin")
  slangs := [⟨"wgsl", "wgsl", ".WGPU", 0⟩]
  module := none
  hosts := []
  version := .value 1
  errorFormat := .value .gcc
  cmdline := " ".intercalate straightWords

/-- Two runs, the second of which replaces what the first has written. -/
theorem straight_allOrNothing :
    EachRun (fun t words => ¬ MeetsUntold t words) knot [straightWords, straightWords] ∧
    EachRun (fun t words => ¬ LeadsInCircle t words) knot [straightWords, straightWords] ∧
    EachRun AllOrNothing knot [straightWords, straightWords] ∧
    EachRun (fun t words => ¬ WritesAt ["k"] t words) knot [straightWords, straightWords] ∧
    (treeAfter knot [straightWords, straightWords]).find? ["k"] = some (.link "a/b") := by
  have hfirst : (ofWords knot straightWords).ending = .finished := by decide +kernel
  have hsecond : (ofWords (ofWords knot straightWords).tree straightWords).ending = .finished := by
    decide +kernel
  have htold : EachRun (fun t words => ¬ MeetsUntold t words) knot
      [straightWords, straightWords] :=
    ⟨not_meetsUntold_of_finished hfirst, not_meetsUntold_of_finished hsecond, trivial⟩
  have hstraight : EachRun (fun t words => ¬ LeadsInCircle t words) knot
      [straightWords, straightWords] :=
    ⟨not_leadsInCircle_of_finished hfirst, not_leadsInCircle_of_finished hsecond, trivial⟩
  have haside : EachRun (fun t words => ¬ WritesAt ["k"] t words) knot
      [straightWords, straightWords] := by
    refine ⟨?_, ?_, trivial⟩
    · have hconfig : Config.ofWords knot straightWords = .ok (.generate straightConfig) := by
        decide +kernel
      exact not_writesAt hconfig rfl (by decide +kernel)
    · have hconfig : Config.ofWords (ofWords knot straightWords).tree straightWords =
          .ok (.generate straightConfig) := by decide +kernel
      exact not_writesAt hconfig rfl (by decide +kernel)
  obtain ⟨hall, hfind⟩ := session_allOrNothing_iff knot _ htold
  exact ⟨htold, hstraight, hall.mpr hstraight, haside, hfind ["k"] haside⟩

/-- The run breaks down, and the link has become a file. -/
theorem knot_not_allOrNothing : ¬ EachRun AllOrNothing knot [knotWords] := by
  intro h
  obtain ⟨h, -⟩ := h
  have hend : (ofWords knot knotWords).ending ≠ .finished := by decide +kernel
  have htree : (ofWords knot knotWords).tree.find? ["a", "l"] ≠ knot.find? ["a", "l"] := by
    decide +kernel
  exact htree (by rw [h.nothing hend])

end Run

end ShaderBindings
