/-
  What loading a file ends with (`Dump.load`), for files whose text has no unpaired surrogate. A
  dump that cannot be decoded is reported as malformed (`Reported`), with three exceptions:
  bytes that are no text, a text that is nested too deep, and an infinite number where an
  integer is due (`Overflows`). The loader keeps the name of the module, verbatim lines and host
  types as they are given, whatever they are; so a dump that can be decoded has texts there
  (`Textual`) if texts were written there (`SaysTexts`), and else need not have them.

  * `textual_of_ofJsonBy`: what is taken out of a value that has texts has them too, host types
    given as a list of pairs included (`addPairs_texts`).
  * `load_eq`: loading is decoding once the file is read.

  The names, types and sources in a dump are not looked at either; nothing is claimed about what
  they are.
-/
import Mathlib
import ShaderBindings.Dump.Load
import ShaderBindings.Proofs.Dump.Fault

namespace ShaderBindings

open Fallible

namespace Dump

/-! ## Texts -/

/-- What a dump has for the name of the module, its verbatim lines and its host types are texts.
Host types may be given as a list of pairs. -/
structure SaysTexts (v : Json) : Prop where
  module : ∀ name, v.field "module" = .ok name → (Json.text? name).isSome = true
  verbatim : ∀ lines, v.field "headers" = .ok (.array lines) →
    ∀ line ∈ lines, (Json.text? line).isSome = true
  hosts : ∀ hosts, v.field "ctypes" = .ok (.object hosts) →
    ∀ host ∈ hosts, (Json.text? host.2).isSome = true
  hostPairs : ∀ pairs, v.field "ctypes" = .ok (.array pairs) →
    ∀ pair, .array pair ∈ pairs → ∀ host ∈ pair.tail, (Json.text? host).isSome = true

/-- The name of the module, the verbatim lines and the host types are texts. -/
structure Textual (d : Dump) : Prop where
  module : (Json.text? d.input.module).isSome = true
  verbatim : ∀ line ∈ d.verbatim, (Json.text? line).isSome = true
  hosts : ∀ host ∈ d.hosts, (Json.text? host.2).isSome = true

section

variable {v : Json}

theorem field_of_fieldOr {name : String} {default a : Json} (h : v.fieldOr name default = .ok a) :
    v.field name = .ok a ∨ default = a := by
  obtain ⟨fs, rfl, hget | ⟨-, hdefault⟩⟩ := Json.fieldOr_eq_ok.mp h
  · exact .inl (Json.field_eq_ok.mpr ⟨fs, rfl, hget⟩)
  · exact .inr hdefault

theorem module_text (h : SaysTexts v) {name : Json}
    (hname : v.fieldOr "module" (.text "") = .ok name) : (Json.text? name).isSome = true := by
  rcases field_of_fieldOr hname with hfield | rfl
  · exact h.module name hfield
  · rfl

theorem verbatim_texts (h : SaysTexts v) {a : Json} (ha : v.fieldOr "headers" (.array []) = .ok a)
    {lines : List Json} (hlines : a.items = .ok lines) :
    ∀ line ∈ lines, (Json.text? line).isSome = true := by
  intro line hline
  rcases Json.items_cases hlines with rfl | htexts
  · rcases field_of_fieldOr ha with hfield | hdefault
    · exact h.verbatim lines hfield line hline
    · obtain rfl := Json.array.inj hdefault
      cases hline
  · obtain ⟨s, rfl⟩ := htexts line hline
    rfl

theorem mem_of_mem_putKey {found : List (Json × Json)} {key entry : Json} {e : Json × Json}
    (h : e ∈ Json.putKey found key entry) : e.2 = entry ∨ e ∈ found := by
  induction found with
  | nil =>
    obtain rfl := List.mem_singleton.mp h
    exact .inl rfl
  | cons first rest ih =>
    unfold Json.putKey at h
    split at h
    · rcases List.mem_cons.mp h with rfl | h
      · exact .inl rfl
      · exact .inr (List.mem_cons_of_mem first h)
    · rcases List.mem_cons.mp h with rfl | h
      · exact .inr List.mem_cons_self
      · exact (ih h).imp_right (List.mem_cons_of_mem first)

/-- The second parts of pairs are what is found in the end. -/
theorem addPairs_texts {pairs : List Json}
    (hpairs : ∀ pair ∈ pairs, ∀ parts, pair.items = .ok parts →
      ∀ host ∈ parts.tail, (Json.text? host).isSome = true) {found hosts : List (Json × Json)}
    {index : Nat} (hfound : ∀ host ∈ found, (Json.text? host.2).isSome = true)
    (h : Json.addPairs found index pairs = .ok hosts) :
    ∀ host ∈ hosts, (Json.text? host.2).isSome = true := by
  induction pairs generalizing found index with
  | nil =>
    obtain rfl := Except.ok.inj h
    exact hfound
  | cons pair rest ih =>
    obtain ⟨parts, hparts, h⟩ := bind_eq_ok.mp h
    split at h
    · next key entry =>
      split at h
      · refine ih (fun p hp => hpairs p (List.mem_cons_of_mem pair hp)) (fun host hhost => ?_) h
        rcases mem_of_mem_putKey hhost with hentry | hhost
        · rw [hentry]
          exact hpairs pair List.mem_cons_self _ hparts entry List.mem_cons_self
        · exact hfound host hhost
      · cases h
    · cases h

/-- An entry is what it was under its key. -/
theorem entry_of_mem_names {read : TextReader} {entries : List (Json × Json)} {hosts : Named Json}
    (h : entries.mapM (Json.namedEntry read) = .ok hosts) {host : String × Json}
    (hhost : host ∈ hosts) : ∃ e ∈ entries, e.2 = host.2 := by
  obtain ⟨e, he, hentry⟩ := exists_of_forall₂_right (mapM_eq_ok.mp h) hhost
  obtain ⟨name, -, hname⟩ := bind_eq_ok.mp hentry
  obtain rfl := pure_eq_ok.mp hname
  exact ⟨e, he, rfl⟩

theorem hosts_texts (h : SaysTexts v) {a : Json} (ha : v.fieldOr "ctypes" (.object []) = .ok a)
    {read : TextReader} {hosts : Named Json} (hhosts : a.asNamed read = .ok hosts) :
    ∀ host ∈ hosts, (Json.text? host.2).isSome = true := by
  unfold Json.asNamed at hhosts
  split at hhosts
  · next fs =>
    obtain rfl := Except.ok.inj hhosts
    rcases field_of_fieldOr ha with hfield | hdefault
    · exact h.hosts fs hfield
    · obtain rfl := Json.object.inj hdefault
      exact fun host hhost => absurd hhost List.not_mem_nil
  · next a _ =>
    obtain ⟨pairs, hpairs, hhosts⟩ := bind_eq_ok.mp hhosts
    obtain ⟨entries, hentries, hhosts⟩ := bind_eq_ok.mp hhosts
    intro host hhost
    obtain ⟨e, he, hhost⟩ := entry_of_mem_names hhosts hhost
    rw [← hhost]
    refine addPairs_texts (fun pair hpair parts hparts host hhost => ?_)
      (fun host hhost => absurd hhost List.not_mem_nil) hentries e he
    -- only a pair that is an array can have something else than texts in it
    rcases Json.items_cases hparts with rfl | htexts
    · rcases Json.items_cases hpairs with rfl | hchars
      · rcases field_of_fieldOr ha with hfield | hdefault
        · exact h.hostPairs pairs hfield parts hpair host hhost
        · cases hdefault
      · obtain ⟨s, hs⟩ := hchars _ hpair
        cases hs
    · obtain ⟨s, rfl⟩ := htexts host (List.mem_of_mem_tail hhost)
      rfl

theorem textual_of_ofJsonBy (h : SaysTexts v) {read : TextReader} {basePath : String} {d : Dump}
    (hd : ofJsonBy read basePath v = .ok d) : d.Textual := by
  obtain ⟨path, -, hd⟩ := bind_eq_ok.mp hd
  obtain ⟨name, hname, hd⟩ := bind_eq_ok.mp hd
  obtain ⟨snippets, -, hd⟩ := bind_eq_ok.mp hd
  obtain ⟨programs, -, hd⟩ := bind_eq_ok.mp hd
  obtain ⟨output, -, hd⟩ := bind_eq_ok.mp hd
  obtain ⟨fs, -, hd⟩ := bind_eq_ok.mp hd
  obtain ⟨backends, -, hd⟩ := bind_eq_ok.mp hd
  obtain ⟨headers, hheaders, hd⟩ := bind_eq_ok.mp hd
  obtain ⟨verbatim, hverbatim, hd⟩ := bind_eq_ok.mp hd
  obtain ⟨ctypes, hctypes, hd⟩ := bind_eq_ok.mp hd
  obtain ⟨hosts, hhosts, hd⟩ := bind_eq_ok.mp hd
  obtain rfl := pure_eq_ok.mp hd
  exact ⟨module_text h hname, verbatim_texts h hheaders hverbatim,
    hosts_texts h hctypes hhosts⟩

end

/-! ## Loading -/

/-- A fault is reported as a configuration error about malformed input. -/
def Reported (fault : LoadFault) : Prop :=
  ∃ c, fault.malformed? = some c ∧ c.code = .invalidInput

theorem readValue_eq {t : FileTree} {path : PathName} {bytes : Bytes} {s : String}
    (hread : t.read path = .ok bytes) (htext : Bytes.text? bytes = some s) :
    readValue t path = (Json.read limits s).mapError fun f => .unusable path (.unread f) := by
  unfold readValue
  rw [hread, mapError_ok, ok_bind, htext]

theorem load_eq {t : FileTree} {path : PathName} {bytes : Bytes} {s : String} {v : Json}
    (hread : t.read path = .ok bytes) (htext : Bytes.text? bytes = some s)
    (hjson : Json.read limits s = .ok v) :
    load t path = (ofJsonBy Json.asShown path.text v).mapError (.unusable path) := by
  unfold load
  rw [readValue_eq hread htext, hjson, mapError_ok, ok_bind]

/-- The dump in a file is malformed and that is reported, or it is loaded and its texts are texts,
if the file is text that is neither nested too deep nor has an unpaired surrogate, and what is
written there has no infinite number for an integer and texts where they are due. -/
theorem load_reported {t : FileTree} {path : PathName} {bytes : Bytes} {s : String}
    (hread : t.read path = .ok bytes) (htext : Bytes.text? bytes = some s)
    (hnesting : ∀ within, Json.read limits s ≠ .error (.tooDeep within))
    (hpaired : Json.read limits s ≠ .error .unpaired)
    (hvalue : ∀ v, Json.read limits s = .ok v → ¬ Overflows v ∧ SaysTexts v) :
    (∃ fault, load t path = .error fault ∧ Reported fault) ∨
      ∃ d, load t path = .ok d ∧ d.Textual := by
  cases hjson : Json.read limits s with
  | error fault =>
    have hload : load t path = .error (.unusable path (.unread fault)) := by
      unfold load
      rw [readValue_eq hread htext, hjson]
      rfl
    refine .inl ⟨_, hload, .malformedDump path (.unread fault), if_pos ?_, rfl⟩
    cases fault with
    | malformed => rfl
    | tooManyDigits digits => rfl
    | tooDeep within => exact absurd hjson (hnesting within)
    | unpaired => exact absurd hjson hpaired
  | ok v =>
    obtain ⟨hfinite, htexts⟩ := hvalue v hjson
    rw [load_eq hread htext hjson]
    cases hdump : ofJsonBy Json.asShown path.text v with
    | ok d => exact .inr ⟨d, rfl, textual_of_ofJsonBy htexts hdump⟩
    | error f =>
      have hmalformed : f.isMalformed = true := by
        rw [← Bool.not_eq_false]
        intro hf
        exact hfinite (blames_ofJsonBy v path.text f hdump hf).2
      exact .inl ⟨.unusable path f, rfl, .malformedDump path f, if_pos hmalformed, rfl⟩

/-! ## Some files -/

/-- A file alone in the directory where one is. -/
def fileTree (bytes : Bytes) : FileTree where
  home := []
  entries := [([], .directory 0o755), (["in.json"], .file bytes 0o644)]

def filePath : PathName := ⟨"", ["in.json"]⟩

/-- A dump with texts where they are due. -/
def plainText : String :=
  "\x7b\"module\":\"m\",\"headers\":[\"package m\"],\"ctypes\":\x7b\"vec4\":\"Vec4\"\x7d\x7d"

def plainJson : Json :=
  .object [("module", .text "m"), ("headers", .array [.text "package m"]),
    ("ctypes", .object [("vec4", .text "Vec4")])]

theorem plainJson_not_overflows : ¬ Overflows plainJson := by
  rintro ⟨fs, name, negative, hwithin, hname, hget⟩
  have hnone : ∀ fs : List (String × Json), (∀ f ∈ fs, f.1 ∉ integerFields) →
      Keyed.get? fs name ≠ some (.float (.infinite negative)) :=
    fun fs hfs hget => hfs _ (Keyed.mem_of_get? hget) hname
  cases hwithin with
  | refl => exact hnone _ (by decide) hget
  | field hw h =>
    simp only [List.mem_cons, Prod.mk.injEq, List.not_mem_nil, or_false] at hw
    rcases hw with ⟨-, rfl⟩ | ⟨-, rfl⟩ | ⟨-, rfl⟩
    · cases h
    · cases h with
      | item hw h =>
        obtain rfl := List.mem_singleton.mp hw
        cases h
    · cases h with
      | refl => exact hnone _ (by decide) hget
      | field hw h =>
        obtain ⟨-, rfl⟩ := Prod.mk.inj (List.mem_singleton.mp hw)
        cases h

theorem plainJson_saysTexts : SaysTexts plainJson where
  module := by
    intro name h
    obtain rfl := Except.ok.inj h
    rfl
  verbatim := by
    intro lines h line hline
    obtain rfl := Json.array.inj (Except.ok.inj h)
    obtain rfl := List.mem_singleton.mp hline
    rfl
  hosts := by
    intro hosts h host hhost
    obtain rfl := Json.object.inj (Except.ok.inj h)
    obtain rfl := List.mem_singleton.mp hhost
    rfl
  hostPairs := by
    intro pairs h
    cases h

theorem plainText_loaded :
    (fileTree (Bytes.ofText plainText)).read filePath = .ok (Bytes.ofText plainText) ∧
    Bytes.text? (Bytes.ofText plainText) = some plainText ∧
    Json.read limits plainText = .ok plainJson ∧
    ∃ d, load (fileTree (Bytes.ofText plainText)) filePath = .ok d ∧ d.Textual := by
  have hread : (fileTree (Bytes.ofText plainText)).read filePath =
      .ok (Bytes.ofText plainText) := by decide +kernel
  have htext : Bytes.text? (Bytes.ofText plainText) = some plainText := by decide +kernel
  have hjson : Json.read limits plainText = .ok plainJson := by cbv
  have hnesting : ∀ within, Json.read limits plainText ≠ .error (.tooDeep within) := by
    simp [hjson]
  have hpaired : Json.read limits plainText ≠ .error .unpaired := by simp [hjson]
  refine ⟨hread, htext, hjson, ?_⟩
  have hvalue : ∀ v, Json.read limits plainText = .ok v → ¬ Overflows v ∧ SaysTexts v := by
    intro v hv
    rw [hjson] at hv
    obtain rfl := Except.ok.inj hv
    exact ⟨plainJson_not_overflows, plainJson_saysTexts⟩
  rcases load_reported hread htext hnesting hpaired hvalue with ⟨fault, hload, -⟩ | hloaded
  · have hok : (load (fileTree (Bytes.ofText plainText)) filePath).toBool = true := by
      decide +kernel
    rw [hload] at hok
    cases hok
  · exact hloaded

/-- A program that is declared at an infinite line. -/
def infiniteText : String :=
  "\x7b\"programs\":[\x7b\"name\":\"p\",\"vs\":\"v\",\"fs\":\"f\",\"line\":Infinity\x7d]\x7d"

/-- A dump without a name for the module. -/
def namelessText : String := "\x7b\"module\":null\x7d"

/-- Three files that can be read: a byte that is no text and an infinite number for an integer are
neither loaded nor reported, and null for the name of the module is loaded. -/
theorem unreported_and_untextual :
    (fileTree [0xff]).read filePath = .ok [0xff] ∧
    load (fileTree [0xff]) filePath = .error .notText ∧ ¬ Reported .notText ∧
    (fileTree (Bytes.ofText infiniteText)).read filePath = .ok (Bytes.ofText infiniteText) ∧
    load (fileTree (Bytes.ofText infiniteText)) filePath =
      .error (.unusable filePath .infiniteNumber) ∧
    ¬ Reported (.unusable filePath .infiniteNumber) ∧
    (fileTree (Bytes.ofText namelessText)).read filePath = .ok (Bytes.ofText namelessText) ∧
    ∃ d, load (fileTree (Bytes.ofText namelessText)) filePath = .ok d ∧ ¬ d.Textual := by
  have hbyte : (fileTree [0xff]).read filePath = .ok [0xff] := by decide +kernel
  have hnoText : Bytes.text? [0xff] = none := by decide +kernel
  have hinfinite : (fileTree (Bytes.ofText infiniteText)).read filePath =
      .ok (Bytes.ofText infiniteText) := by decide +kernel
  have hinfiniteText : Bytes.text? (Bytes.ofText infiniteText) = some infiniteText := by
    decide +kernel
  have hinfiniteJson : Json.read limits infiniteText = .ok (.object [("programs", .array [.object
      [("name", .text "p"), ("vs", .text "v"), ("fs", .text "f"),
       ("line", .float (.infinite false))]])]) := by cbv
  have hnameless : (fileTree (Bytes.ofText namelessText)).read filePath =
      .ok (Bytes.ofText namelessText) := by decide +kernel
  have hnamelessText : Bytes.text? (Bytes.ofText namelessText) = some namelessText := by
    decide +kernel
  have hnamelessJson : Json.read limits namelessText = .ok (.object [("module", .null)]) := by cbv
  refine ⟨hbyte, ?_, ?_, hinfinite, ?_, ?_, hnameless, ⟨⟨"in.json", .null, [], []⟩, [], [], []⟩,
    ?_, ?_⟩
  · unfold load readValue
    rw [hbyte, mapError_ok, ok_bind, hnoText]
    rfl
  · rintro ⟨c, hc, -⟩
    cases hc
  · rw [load_eq hinfinite hinfiniteText hinfiniteJson]
    rfl
  · rintro ⟨c, hc, -⟩
    cases hc
  · rw [load_eq hnameless hnamelessText hnamelessJson]
    rfl
  · intro h
    cases h.module

end Dump

end ShaderBindings
