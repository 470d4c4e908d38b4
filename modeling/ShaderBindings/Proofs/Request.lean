/-
  Reading a request. What asks for languages (`Asks`) is said without the reader: their names
  between colons, at least one. Such a text is read as its languages, each once and in the order
  of the table (`Canonical`), unless two of them share a backend (`FirstShared`); any other text
  is refused for the first part that names no language (`LeftmostUnknown`).

  * `readRequest_eq_ok`, `readRequest_eq_error`: what is read, and what is refused and how.
  * `readRequest_congr`, `readRequest_again`: only the set of the languages counts, and what is
    read can be written and read again.
-/
import ShaderBindings.Proofs.Config
import ShaderBindings.Proofs.StableOrder
import ShaderBindings.Proofs.Text.Lines

namespace ShaderBindings.Slang

open Fallible

variable {s : String} {parts : List String} {request slangs : List Slang} {a b : Slang}

/-! ## Languages that share a backend -/

/-- No two languages of a request share a backend. -/
def Apart (request : List Slang) : Prop :=
  ∀ a ∈ request, ∀ b ∈ request, a.backend = b.backend → a = b

/-- Of the languages that share a backend with one that comes before them in the table, the first,
and the one before it. -/
structure FirstShared (request : List Slang) (a b : Slang) : Prop where
  earlier : a ∈ request
  later : b ∈ request
  ordered : table.idxOf a < table.idxOf b
  shared : a.backend = b.backend
  first : ∀ c ∈ request, ∀ d ∈ request, table.idxOf c < table.idxOf d → c.backend = d.backend →
    table.idxOf b ≤ table.idxOf d

/-- There is at most one such pair. -/
theorem FirstShared.unique {c d : Slang} (h : FirstShared request a b)
    (h' : FirstShared request c d) (hlisted : ∀ s ∈ request, s ∈ table) : a = c ∧ b = d := by
  have hle : table.idxOf b ≤ table.idxOf d := h.first c h'.earlier d h'.later h'.ordered h'.shared
  have hge : table.idxOf d ≤ table.idxOf b := h'.first a h.earlier b h.later h.ordered h.shared
  have hbd : b = d := (List.idxOf_inj (hlisted b h.later)).mp (Nat.le_antisymm hle hge)
  subst hbd
  have hbackend : a.backend = c.backend := h.shared.trans h'.shared.symm
  -- if one of the two came before the other, the later one would be in the place of the second
  have hac : ¬ table.idxOf a < table.idxOf c := fun hlt =>
    absurd (h.first a h.earlier c h'.earlier hlt hbackend) (Nat.not_le.mpr h'.ordered)
  have hca : ¬ table.idxOf c < table.idxOf a := fun hlt =>
    absurd (h.first c h'.earlier a h.earlier hlt hbackend.symm) (Nat.not_le.mpr h.ordered)
  exact ⟨(List.idxOf_inj (hlisted a h.earlier)).mp (by omega), rfl⟩

theorem firstShared_of_sharedBackend? (h : sharedBackend? request = some (a, b))
    (hlisted : ∀ s ∈ request, s ∈ table) : FirstShared request a b := by
  obtain ⟨before, after, hsplit, hbefore, hfind⟩ := sharedFrom_eq_some.mp h
  have hmem {s : Slang} : s ∈ request ↔ s ∈ before ∨ s = b ∨ s ∈ after := by
    have hs : s ∈ inOrder request ↔ s ∈ request :=
      mem_inOrder.trans (and_iff_right_of_imp (hlisted s))
    rw [← hs, hsplit, List.mem_append, List.mem_cons]
  have horder := hsplit ▸ pairwise_inOrder request
  have hnodup : (before.map Slang.backend).Nodup := (sharedFrom_eq_none.mp hbefore).1
  rw [List.nil_append] at hfind
  have ha : a ∈ before := List.mem_of_find?_eq_some hfind
  refine ⟨hmem.mpr (.inl ha), hmem.mpr (.inr (.inl rfl)), ?_, by simpa using List.find?_some hfind,
    fun c hc d hd hcd hbackend => ?_⟩
  · exact horder.rel_of_mem_append ha List.mem_cons_self
  · -- a pair before the second language would have been found before it
    by_contra hlt
    have hfront {s : Slang} (hs : s ∈ request) (hsb : table.idxOf s < table.idxOf b) :
        s ∈ before := by
      rcases hmem.mp hs with hs | rfl | hs
      · exact hs
      · exact absurd hsb (Nat.lt_irrefl _)
      · have hbs := List.rel_of_pairwise_cons (List.pairwise_append.mp horder).2.1 hs
        omega
    have hdb : table.idxOf d < table.idxOf b := Nat.not_le.mp hlt
    have heq : c = d := List.inj_on_of_nodup_map hnodup (hfront hc (hcd.trans hdb))
      (hfront hd hdb) hbackend
    subst heq
    exact absurd hcd (Nat.lt_irrefl _)

theorem sharedBackend?_eq_some (hlisted : ∀ s ∈ request, s ∈ table) :
    sharedBackend? request = some (a, b) ↔ FirstShared request a b := by
  refine ⟨fun h => firstShared_of_sharedBackend? h hlisted, fun h => ?_⟩
  cases hshared : sharedBackend? request with
  | none =>
    have ha : a ∈ inOrder request := mem_inOrder.mpr ⟨hlisted a h.earlier, h.earlier⟩
    have hb : b ∈ inOrder request := mem_inOrder.mpr ⟨hlisted b h.later, h.later⟩
    have hab : a = b := backend_inj hshared ha hb h.shared
    exact absurd h.ordered (by rw [hab]; exact Nat.lt_irrefl _)
  | some pair =>
    obtain ⟨rfl, rfl⟩ := (firstShared_of_sharedBackend? hshared hlisted).unique h hlisted
    rfl

theorem sharedBackend?_eq_none_iff_apart (hlisted : ∀ s ∈ request, s ∈ table) :
    sharedBackend? request = none ↔ Apart request := by
  constructor
  · intro h a ha b hb hbackend
    exact backend_inj h (mem_inOrder.mpr ⟨hlisted a ha, ha⟩) (mem_inOrder.mpr ⟨hlisted b hb, hb⟩)
      hbackend
  · intro h
    cases hshared : sharedBackend? request with
    | none => rfl
    | some pair =>
      have hfirst := firstShared_of_sharedBackend? hshared hlisted
      have heq := h _ hfirst.earlier _ hfirst.later hfirst.shared
      exact absurd hfirst.ordered (by rw [heq]; exact Nat.lt_irrefl _)

/-! ## Order -/

/-- The languages of a request, each once and in the order of the table. -/
structure Canonical (request slangs : List Slang) : Prop where
  same : ∀ s, s ∈ slangs ↔ s ∈ request
  ascending : slangs.Pairwise fun a b => table.idxOf a < table.idxOf b

theorem canonical_iff (hlisted : ∀ s ∈ request, s ∈ table) :
    Canonical request slangs ↔ inOrder request = slangs := by
  have hmem (s : Slang) : s ∈ inOrder request ↔ s ∈ request :=
    mem_inOrder.trans (and_iff_right_of_imp (hlisted s))
  constructor
  · intro h
    exact eq_of_pairwise_asymm (fun a b => Nat.lt_asymm) (pairwise_inOrder request) h.ascending
      fun s => (hmem s).trans (h.same s).symm
  · rintro rfl
    exact ⟨hmem, pairwise_inOrder request⟩

/-! ## Parts of a text -/

/-- A text in parts: joined by colons, of which there is none in any part, they are the text. -/
structure InParts (s : String) (parts : List String) : Prop where
  ne_nil : parts ≠ []
  plain : ∀ p ∈ parts, ':' ∉ p.toList
  joined : ":".intercalate parts = s

/-- There is one way to take a text into parts. -/
theorem inParts_iff : InParts s parts ↔ requestNames s = parts := by
  unfold requestNames
  constructor
  · intro h
    have hplain : ∀ p ∈ parts.map String.toList, ':' ∉ p := List.forall_mem_map.mpr h.plain
    rw [← h.joined, String.toList_intercalate]
    change (([':'].intercalate (parts.map String.toList)).splitOn ':').map String.ofList = parts
    rw [List.splitOn_intercalate ':' hplain (by simpa using h.ne_nil), List.map_map]
    simp
  · rintro rfl
    refine ⟨by simp [List.splitOn_ne_nil], fun p hp => ?_, String.toList_injective ?_⟩
    · obtain ⟨cs, hcs, rfl⟩ := List.mem_map.mp hp
      rw [String.toList_ofList]
      exact Text.notMem_of_mem_splitOn hcs
    · rw [String.toList_intercalate, List.map_map]
      have hid : String.toList ∘ String.ofList = id := by
        funext cs
        exact String.toList_ofList
      rw [hid, List.map_id]
      exact List.intercalate_splitOn ':'

/-- A text asks for languages: it is their names between colons, at least one. -/
structure Asks (s : String) (request : List Slang) : Prop where
  ne_nil : request ≠ []
  listed : ∀ a ∈ request, a ∈ table
  joined : ":".intercalate (request.map Slang.name) = s

theorem asks_iff : Asks s request ↔
    (∀ a ∈ request, a ∈ table) ∧ requestNames s = request.map Slang.name := by
  have hplain : ∀ a ∈ table, ':' ∉ a.name.toList := by decide
  rw [← inParts_iff]
  constructor
  · intro h
    exact ⟨h.listed, by simpa using h.ne_nil,
      List.forall_mem_map.mpr fun a ha => hplain a (h.listed a ha), h.joined⟩
  · rintro ⟨hlisted, hparts⟩
    exact ⟨by simpa using hparts.ne_nil, hlisted, hparts.joined⟩

/-- A part of a text names no language, and all parts to the left of it name one. -/
def LeftmostUnknown (s name : String) : Prop :=
  ∃ before after, InParts s (before ++ name :: after) ∧ (∀ n ∈ before, n ∈ names) ∧ name ∉ names

/-! ## Reading -/

theorem readRequest_empty : readRequest "" = .error .missingSlang := rfl

/-- The leftmost part that names no language is reported, whatever else is wrong. -/
theorem readRequest_of_leftmostUnknown {name : String} (hs : s ≠ "") (h : LeftmostUnknown s name) :
    readRequest s = .error (.unknownSlang name) := by
  obtain ⟨before, after, hparts, hbefore, hname⟩ := h
  have hnone : before.filter (· ∉ names) = [] :=
    List.filter_eq_nil_iff.mpr fun n hn => by simpa using hbefore n hn
  rw [← fault?_eq_some, fault?_readRequest]
  unfold requestFaults
  rw [if_neg hs, inParts_iff.mp hparts, List.filter_append, hnone,
    List.filter_cons_of_pos (by simpa using hname)]
  rfl

theorem namedIn_names (hlisted : ∀ a ∈ request, a ∈ table) :
    namedIn (request.map Slang.name) = .ok request := by
  induction request with
  | nil => rfl
  | cons a rest ih =>
    obtain ⟨ha, hrest⟩ := List.forall_mem_cons.mp hlisted
    rw [List.map_cons, namedIn, ofName?_name ha, ih hrest]
    rfl

theorem readRequest_of_asks (h : Asks s request) :
    readRequest s = match sharedBackend? request with
      | some (first, second) => .error (.sharedBackend first second)
      | none => .ok (inOrder request) := by
  obtain ⟨hlisted, hnames⟩ := asks_iff.mp h
  have hne : s ≠ "" := by
    rintro rfl
    have hunnamed : ∀ a ∈ table, a.name ≠ "" := by decide
    obtain ⟨a, rest, rfl⟩ := List.exists_cons_of_ne_nil h.ne_nil
    exact hunnamed a (hlisted a List.mem_cons_self) (List.cons.inj hnames).1.symm
  unfold readRequest
  rw [if_neg hne]
  change (namedIn (requestNames s) >>= _) = _
  rw [hnames, namedIn_names hlisted]
  rfl

/-- A text has a leftmost part that names no language, or it asks for languages. -/
theorem leftmostUnknown_or_asks (s : String) :
    (∃ name, LeftmostUnknown s name) ∨ ∃ request, Asks s request := by
  cases hread : namedIn (requestNames s) with
  | error f =>
    have hfirst := fault?_eq_some.mpr hread
    rw [fault?_namedIn, List.head?_map, List.head?_filter, Option.map_eq_some_iff] at hfirst
    obtain ⟨name, hfind, -⟩ := hfirst
    obtain ⟨hname, before, after, hsplit, hbefore⟩ := List.find?_eq_some_iff_append.mp hfind
    exact .inl ⟨name, before, after, inParts_iff.mpr hsplit,
      fun n hn => by simpa using hbefore n hn, by simpa using hname⟩
  | ok request =>
    obtain ⟨hnames, hlisted⟩ := namedIn_eq_ok hread
    exact .inr ⟨request, asks_iff.mpr ⟨hlisted, hnames.symm⟩⟩

/-- How a request is refused, if it is given at all: because it is empty, because a part of it names
no language, or because two of its languages share a backend. -/
inductive Refused (raw : Option String) : ConfigError → Prop
  | missing (absent : raw = none ∨ raw = some "") :
    Refused raw ⟨.missingSlang, "No target shading language given.",
      "Pass --slang with a colon-separated list, e.g. --slang glsl330:hlsl5."⟩
  | unknown {s name : String} (given : raw = some s) (filled : s ≠ "")
      (leftmost : LeftmostUnknown s name) :
    Refused raw ⟨.invalidSlang, "Unknown shading language: " ++ Text.quoted name,
      "Use one of: " ++ ", ".intercalate names ++ "."⟩
  | shared {s : String} {request : List Slang} {a b : Slang} (given : raw = some s)
      (asks : Asks s request) (first : FirstShared request a b) :
    Refused raw ⟨.duplicateBackend, "Shading languages " ++ a.name ++ " and " ++ b.name
      ++ " both map to backend " ++ b.backend ++ ".",
      "Generate one file per conflicting shading language."⟩

theorem readRequest_of_shared (h : Asks s request) (hfirst : FirstShared request a b) :
    readRequest s = .error (.sharedBackend a b) := by
  rw [readRequest_of_asks h, (sharedBackend?_eq_some h.listed).mpr hfirst]

theorem readRequest_of_apart (h : Asks s request) (hapart : Apart request) :
    readRequest s = .ok (inOrder request) := by
  rw [readRequest_of_asks h, (sharedBackend?_eq_none_iff_apart h.listed).mpr hapart]

theorem readRequest_eq_ok : readRequest s = .ok slangs ↔
    ∃ request, Asks s request ∧ Apart request ∧ Canonical request slangs := by
  constructor
  · intro h
    rcases leftmostUnknown_or_asks s with ⟨name, hname⟩ | ⟨request, hasks⟩
    · by_cases hs : s = ""
      · rw [hs, readRequest_empty] at h
        cases h
      · rw [readRequest_of_leftmostUnknown hs hname] at h
        cases h
    · rw [readRequest_of_asks hasks] at h
      split at h
      · cases h
      · next hshared =>
        exact ⟨request, hasks, (sharedBackend?_eq_none_iff_apart hasks.listed).mp hshared,
          (canonical_iff hasks.listed).mpr (Except.ok.inj h)⟩
  · rintro ⟨request, hasks, hapart, hcanonical⟩
    rw [readRequest_of_apart hasks hapart, (canonical_iff hasks.listed).mp hcanonical]

theorem refused_of_readRequest {f : ConfigFault} (h : readRequest s = .error f) :
    Refused (some s) f.error := by
  by_cases hs : s = ""
  · subst hs
    obtain rfl := Except.error.inj h
    exact .missing (.inr rfl)
  · rcases leftmostUnknown_or_asks s with ⟨name, hname⟩ | ⟨request, hasks⟩
    · rw [readRequest_of_leftmostUnknown hs hname] at h
      obtain rfl := Except.error.inj h
      exact .unknown rfl hs hname
    · rw [readRequest_of_asks hasks] at h
      split at h
      · next a b hshared =>
        obtain rfl := Except.error.inj h
        exact .shared rfl hasks ((sharedBackend?_eq_some hasks.listed).mp hshared)
      · cases h

theorem readRequest_eq_error {raw : Option String} {e : ConfigError} :
    (readRequest (raw.getD "")).mapError ConfigFault.error = .error e ↔ Refused raw e := by
  rw [mapError_eq_error]
  constructor
  · rintro ⟨f, h, rfl⟩
    cases raw with
    | none =>
      obtain rfl := Except.error.inj h
      exact .missing (.inl rfl)
    | some s => exact refused_of_readRequest h
  · intro h
    cases h with
    | missing absent => rcases absent with rfl | rfl <;> exact ⟨_, readRequest_empty, rfl⟩
    | unknown given filled leftmost =>
      subst given
      exact ⟨_, readRequest_of_leftmostUnknown filled leftmost, rfl⟩
    | shared given asks first =>
      subst given
      exact ⟨_, readRequest_of_shared asks first, rfl⟩

/-- Requests for the same languages are read alike. -/
theorem readRequest_congr {s' : String} {other : List Slang} (h : Asks s request)
    (h' : Asks s' other) (hsame : ∀ a, a ∈ request ↔ a ∈ other) :
    readRequest s = readRequest s' := by
  rw [readRequest_of_asks h, readRequest_of_asks h']
  unfold sharedBackend?
  rw [inOrder_congr hsame]

/-- What is read, written with colons between the names, is read as it is. -/
theorem readRequest_again (h : readRequest s = .ok slangs) :
    readRequest (":".intercalate (slangs.map Slang.name)) = .ok slangs := by
  obtain ⟨request, hasks, -, hcanonical⟩ := readRequest_eq_ok.mp h
  have hne : slangs ≠ [] := by
    obtain ⟨a, rest, rfl⟩ := List.exists_cons_of_ne_nil hasks.ne_nil
    exact List.ne_nil_of_mem ((hcanonical.same a).mpr List.mem_cons_self)
  have hlisted : ∀ a ∈ slangs, a ∈ table := fun a ha =>
    hasks.listed a ((hcanonical.same a).mp ha)
  rw [readRequest_congr ⟨hne, hlisted, rfl⟩ hasks hcanonical.same, h]

/-- Exactly the texts that ask for languages of which no two share a backend are read, as these
languages, each once and in the order of the table. Any other text, or none, is refused for the
first thing that is wrong with it. Only the set of the languages counts, and what is read can be
written and read again. -/
theorem readRequest_canonical :
    (∀ (raw : Option String) (slangs : List Slang), readRequest (raw.getD "") = .ok slangs ↔
      ∃ s request, raw = some s ∧ Asks s request ∧ Apart request ∧ Canonical request slangs) ∧
    (∀ (raw : Option String) (e : ConfigError),
      (readRequest (raw.getD "")).mapError ConfigFault.error = .error e ↔ Refused raw e) ∧
    (∀ s s' request other, Asks s request → Asks s' other → (∀ a, a ∈ request ↔ a ∈ other) →
      readRequest s = readRequest s') ∧
    ∀ s slangs, readRequest s = .ok slangs →
      readRequest (":".intercalate (slangs.map Slang.name)) = .ok slangs := by
  refine ⟨fun raw slangs => ?_, fun _ _ => readRequest_eq_error, fun _ _ _ _ => readRequest_congr,
    fun _ _ => readRequest_again⟩
  cases raw with
  | none => simp [readRequest_empty]
  | some s => simp [readRequest_eq_ok]

/-! ## A request with a repetition, and two that are refused -/

/-- The request for two languages, one of them twice, is read as the request for each once. Behind
languages that share a backend the unknown name counts, and of two pairs that share one the pair
that is complete first in the order of the table. -/
theorem repeated_read :
    (readRequest "wgsl:glsl330:wgsl" = .ok [⟨"glsl330", "glsl", ".GLCORE33", 0⟩,
        ⟨"wgsl", "wgsl", ".WGPU", 0⟩] ∧
      readRequest "glsl330:wgsl" = .ok [⟨"glsl330", "glsl", ".GLCORE33", 0⟩,
        ⟨"wgsl", "wgsl", ".WGPU", 0⟩]) ∧
    (Asks "wgsl:glsl330:wgsl" [⟨"wgsl", "wgsl", ".WGPU", 0⟩,
        ⟨"glsl330", "glsl", ".GLCORE33", 0⟩, ⟨"wgsl", "wgsl", ".WGPU", 0⟩] ∧
      Asks "glsl330:wgsl" [⟨"glsl330", "glsl", ".GLCORE33", 0⟩, ⟨"wgsl", "wgsl", ".WGPU", 0⟩] ∧
      readRequest "wgsl:glsl330:wgsl" = readRequest "glsl330:wgsl") ∧
    Refused (some "hlsl5:hlsl4:glsl9:") ⟨.invalidSlang, "Unknown shading language: 'glsl9'",
      "Use one of: glsl330, glsl100, glsl300es, hlsl4, hlsl5, metal_macos, metal_ios, " ++
        "metal_sim, wgsl."⟩ ∧
    Refused (some "hlsl5:glsl300es:hlsl4:glsl100") ⟨.duplicateBackend,
      "Shading languages glsl100 and glsl300es both map to backend .GLES3.",
      "Generate one file per conflicting shading language."⟩ := by
  obtain ⟨-, hrefused, hset, hagain⟩ := readRequest_canonical
  have hread : readRequest "wgsl:glsl330:wgsl" = .ok [⟨"glsl330", "glsl", ".GLCORE33", 0⟩,
      ⟨"wgsl", "wgsl", ".WGPU", 0⟩] := by decide +kernel
  have hasks : Asks "wgsl:glsl330:wgsl" [⟨"wgsl", "wgsl", ".WGPU", 0⟩,
      ⟨"glsl330", "glsl", ".GLCORE33", 0⟩, ⟨"wgsl", "wgsl", ".WGPU", 0⟩] :=
    ⟨by decide, by decide, by decide +kernel⟩
  have hasks' : Asks "glsl330:wgsl" [⟨"glsl330", "glsl", ".GLCORE33", 0⟩,
      ⟨"wgsl", "wgsl", ".WGPU", 0⟩] := ⟨by decide, by decide, by decide +kernel⟩
  refine ⟨⟨hread, hagain _ _ hread⟩, ⟨hasks, hasks', ?_⟩, (hrefused _ _).mp (by decide +kernel),
    (hrefused _ _).mp (by decide +kernel)⟩
  refine hset _ _ _ _ hasks hasks' fun a => ?_
  simp only [List.mem_cons, List.not_mem_nil, or_false]
  tauto

end ShaderBindings.Slang
