/-
  Other ways to write a dump (`Change`). The fields of an object may come in any order, a record
  may have fields that are not known, and a field that has a default may be left out where it
  holds that; which fields are known and what their defaults are is written down as a `Shape`.
  For the records of a dump it is shown here that none of this changes what is read:
  `Change.lookup_cases` says what becomes of one field, and there is one lemma for each record
  (`reflection_change` is the largest).
-/
import Mathlib.Logic.Relation
import ShaderBindings.Proofs.Dump.Decode
import ShaderBindings.Proofs.Dump.Layout
import ShaderBindings.Proofs.Keyed

namespace ShaderBindings

open Fallible

/-- What stands at a place of a dump: a value that is taken as it is, an array, an object with an
entry for each name, or a record. A field of a record that may be left out has a default. -/
inductive Shape
  | value
  | items (s : Shape)
  | entries (s : Shape)
  | record (known : List (String × Option Json × Shape))

/-- One change to the way in which something is written, made at its top or further inside. -/
inductive Change : Shape → Json → Json → Prop
  | reorderFields {known : List (String × Option Json × Shape)} {fs gs : List (String × Json)}
      (hperm : fs.Perm gs) (hnames : (fs.map Prod.fst).Nodup) :
      Change (.record known) (.object fs) (.object gs)
  | reorderEntries {s : Shape} {fs gs : List (String × Json)}
      (hperm : fs.Perm gs) (hnames : (fs.map Prod.fst).Nodup) :
      Change (.entries s) (.object fs) (.object gs)
  | addUnknown {known : List (String × Option Json × Shape)} {before after : List (String × Json)}
      {name : String} {v : Json} (hname : Keyed.get? known name = none) :
      Change (.record known) (.object (before ++ after)) (.object (before ++ (name, v) :: after))
  | omitDefault {known : List (String × Option Json × Shape)} {before after : List (String × Json)}
      {name : String} {default : Json} {s : Shape}
      (hname : Keyed.get? known name = some (some default, s))
      (honce : name ∉ (before ++ after).map Prod.fst) :
      Change (.record known) (.object (before ++ (name, default) :: after))
        (.object (before ++ after))
  | inField {known : List (String × Option Json × Shape)} {before after : List (String × Json)}
      {name : String} {default : Option Json} {s : Shape} {v w : Json}
      (hname : Keyed.get? known name = some (default, s)) (h : Change s v w) :
      Change (.record known) (.object (before ++ (name, v) :: after))
        (.object (before ++ (name, w) :: after))
  | inEntry {s : Shape} {before after : List (String × Json)} {name : String} {v w : Json}
      (h : Change s v w) :
      Change (.entries s) (.object (before ++ (name, v) :: after))
        (.object (before ++ (name, w) :: after))
  | inItem {s : Shape} {before after : List Json} {v w : Json} (h : Change s v w) :
      Change (.items s) (.array (before ++ v :: after)) (.array (before ++ w :: after))

/-! ## Shapes -/

namespace Dump

def attrFields : List (String × Option Json × Shape) :=
  [("slot", none, .value), ("name", none, .value), ("sem_name", some (.text "TEXCOORD"), .value),
   ("sem_index", some (.int 0), .value)]

def uniformFields : List (String × Option Json × Shape) :=
  [("name", none, .value), ("type", none, .value), ("offset", none, .value),
   ("array_count", some (.int 1), .value)]

def uniformBlockFields : List (String × Option Json × Shape) :=
  [("slot", none, .value), ("size", none, .value), ("struct_name", none, .value),
   ("inst_name", some (.text ""), .value), ("flattened", some (.bool false), .value),
   ("uniforms", some (.array []), .items (.record uniformFields))]

def imageFields : List (String × Option Json × Shape) :=
  [("slot", none, .value), ("name", none, .value), ("type", some (.text "2d"), .value),
   ("sample_type", some (.text "float"), .value), ("multisampled", some (.bool false), .value)]

def samplerFields : List (String × Option Json × Shape) :=
  [("slot", none, .value), ("name", none, .value), ("type", some (.text "sample"), .value)]

def imageSamplerFields : List (String × Option Json × Shape) :=
  [("slot", none, .value), ("name", none, .value), ("image_name", none, .value),
   ("sampler_name", none, .value)]

def reflectionFields : List (String × Option Json × Shape) :=
  [("stage", none, .value), ("entry_point", some (.text "main"), .value),
   ("inputs", some (.array []), .items (.record attrFields)),
   ("uniform_blocks", some (.array []), .items (.record uniformBlockFields)),
   ("images", some (.array []), .items (.record imageFields)),
   ("samplers", some (.array []), .items (.record samplerFields)),
   ("image_samplers", some (.array []), .items (.record imageSamplerFields))]

def stageSourceFields : List (String × Option Json × Shape) :=
  [("snippet", none, .value), ("source", none, .value),
   ("reflection", none, .record reflectionFields)]

def backendFields : List (String × Option Json × Shape) :=
  [("sources", some (.array []), .items (.record stageSourceFields)),
   ("bytecode", some (.object []), .entries .value)]

def snippetFields : List (String × Option Json × Shape) :=
  [("name", none, .value), ("stage", none, .value)]

def programFields : List (String × Option Json × Shape) :=
  [("name", none, .value), ("vs", none, .value), ("fs", none, .value),
   ("line", some (.int 0), .value)]

/-- The fields of a whole dump, with the base path for one that does not name any. -/
def fields (basePath : String) : List (String × Option Json × Shape) :=
  [("base_path", some (.text basePath), .value), ("module", some (.text ""), .value),
   ("headers", some (.array []), .value), ("ctypes", some (.object []), .entries .value),
   ("snippets", some (.array []), .items (.record snippetFields)),
   ("programs", some (.array []), .items (.record programFields)),
   ("backends", some (.object []), .entries (.record backendFields))]

end Dump

/-! ## Fields -/

namespace Change

variable {read : TextReader} {known : List (String × Option Json × Shape)} {v w : Json} {s : Shape}

theorem not_value : ¬ Change .value v w := by
  intro h
  cases h

/-- A known field, or else its default, is what it was, or is changed inside. -/
theorem lookup_cases (h : Change (.record known) v w) : ∃ fs gs, v = .object fs ∧ w = .object gs ∧
    ∀ name default s, Keyed.get? known name = some (default, s) →
      (Keyed.get? gs name).or default = (Keyed.get? fs name).or default ∨
      ∃ a b, Keyed.get? fs name = some a ∧ Keyed.get? gs name = some b ∧ Change s a b := by
  cases h with
  | @reorderFields _ fs gs hperm hnames =>
    exact ⟨fs, gs, rfl, rfl, fun name default s _ =>
      .inl (by rw [Keyed.get?_of_perm hperm hnames])⟩
  | @addUnknown _ before after unknown v hunknown =>
    refine ⟨before ++ after, before ++ (unknown, v) :: after, rfl, rfl, fun name default s hname =>
      .inl ?_⟩
    have hne : unknown ≠ name := by
      rintro rfl
      rw [hunknown] at hname
      cases hname
    rw [Keyed.get?_between_ne hne]
  | @omitDefault _ before after field value t hfield honce =>
    refine ⟨before ++ (field, value) :: after, before ++ after, rfl, rfl,
      fun name default s hname => .inl ?_⟩
    by_cases hne : field = name
    · subst hne
      have hbefore : field ∉ before.map Prod.fst := by
        intro hmem
        rw [List.map_append] at honce
        exact honce (List.mem_append_left _ hmem)
      rw [hfield] at hname
      obtain ⟨rfl, rfl⟩ := Prod.mk.inj (Option.some.inj hname)
      rw [Keyed.get?_eq_none.mpr honce, Keyed.get?_between_self, Keyed.get?_eq_none.mpr hbefore]
      rfl
    · rw [Keyed.get?_between_ne hne]
  | @inField _ before after field default t a b hfield hab =>
    refine ⟨before ++ (field, a) :: after, before ++ (field, b) :: after, rfl, rfl,
      fun name default s hname => ?_⟩
    by_cases hne : field = name
    · subst hne
      rw [hfield] at hname
      obtain ⟨rfl, rfl⟩ := Prod.mk.inj (Option.some.inj hname)
      rw [Keyed.get?_between_self, Keyed.get?_between_self]
      cases Keyed.get? before field with
      | none => exact .inr ⟨a, b, rfl, rfl, hab⟩
      | some c => exact .inl rfl
    · exact .inl (by rw [Keyed.get?_between_ne hne, Keyed.get?_between_ne hne])

theorem field_cases (h : Change (.record known) v w) (name : String)
    (hname : Keyed.get? known name = some (none, s)) : w.field name = v.field name ∨
      ∃ a b, v.field name = .ok a ∧ w.field name = .ok b ∧ Change s a b := by
  obtain ⟨fs, gs, rfl, rfl, hfields⟩ := h.lookup_cases
  rw [Json.field_object, Json.field_object]
  rcases hfields name none s hname with hsame | ⟨a, b, ha, hb, hab⟩
  · rw [Option.or_none, Option.or_none] at hsame
    rw [hsame]
    exact .inl rfl
  · rw [ha, hb]
    exact .inr ⟨a, b, rfl, rfl, hab⟩

theorem fieldOr_cases (h : Change (.record known) v w) (name : String) {default : Json}
    (hname : Keyed.get? known name = some (some default, s)) :
    w.fieldOr name default = v.fieldOr name default ∨
      ∃ a b, v.fieldOr name default = .ok a ∧ w.fieldOr name default = .ok b ∧ Change s a b := by
  obtain ⟨fs, gs, rfl, rfl, hfields⟩ := h.lookup_cases
  rw [Json.fieldOr_object, Json.fieldOr_object]
  rcases hfields name (some default) s hname with hsame | ⟨a, b, ha, hb, hab⟩
  · rw [Option.or_some, Option.or_some] at hsame
    rw [Option.some.inj hsame]
    exact .inl rfl
  · rw [ha, hb]
    exact .inr ⟨a, b, rfl, rfl, hab⟩

theorem exists_fieldOr (h : Change (.record known) v w) (name : String) {default a : Json}
    (hname : Keyed.get? known name = some (some default, s)) (ha : v.fieldOr name default = .ok a) :
    ∃ b, w.fieldOr name default = .ok b ∧ Relation.ReflGen (Change s) a b := by
  rcases h.fieldOr_cases name hname with hsame | ⟨c, b, hc, hb, hcb⟩
  · exact ⟨a, hsame.trans ha, .refl⟩
  · obtain rfl : c = a := Except.ok.inj (hc.symm.trans ha)
    exact ⟨b, hb, .single hcb⟩

/-! Decoders that a change inside of a field does not matter to. -/

theorem field_bind {α : Type} (h : Change (.record known) v w) (name : String)
    (hname : Keyed.get? known name = some (none, s)) {decode : Json → Except DumpFault α}
    (hdecode : ∀ a b, Change s a b → decode b = decode a) :
    (w.field name >>= decode) = (v.field name >>= decode) := by
  rcases h.field_cases name hname with hsame | ⟨a, b, ha, hb, hab⟩
  · rw [hsame]
  · rw [ha, hb]
    exact hdecode a b hab

theorem fieldOr_bind {α : Type} (h : Change (.record known) v w) (name : String) {default : Json}
    (hname : Keyed.get? known name = some (some default, s)) {decode : Json → Except DumpFault α}
    (hdecode : ∀ a b, Change s a b → decode b = decode a) :
    (w.fieldOr name default >>= decode) = (v.fieldOr name default >>= decode) := by
  rcases h.fieldOr_cases name hname with hsame | ⟨a, b, ha, hb, hab⟩
  · rw [hsame]
  · rw [ha, hb]
    exact hdecode a b hab

theorem textField (h : Change (.record known) v w) (name : String)
    (hname : Keyed.get? known name = some (none, .value)) :
    w.textField read name = v.textField read name :=
  h.field_bind name hname fun _ _ hab => absurd hab not_value

theorem intField (h : Change (.record known) v w) (name : String)
    (hname : Keyed.get? known name = some (none, .value)) : w.intField name = v.intField name :=
  h.field_bind name hname fun _ _ hab => absurd hab not_value

theorem fieldOr (h : Change (.record known) v w) (name : String) {default : Json}
    (hname : Keyed.get? known name = some (some default, .value)) :
    w.fieldOr name default = v.fieldOr name default := by
  rcases h.fieldOr_cases name hname with hsame | ⟨a, b, -, -, hab⟩
  · exact hsame
  · exact absurd hab not_value

theorem textFieldOr (h : Change (.record known) v w) (name : String) {default : String}
    (hname : Keyed.get? known name = some (some (.text default), .value)) :
    w.textFieldOr read name default = v.textFieldOr read name default := by
  unfold Json.textFieldOr
  rw [h.fieldOr name hname]

theorem intFieldOr (h : Change (.record known) v w) (name : String) {default : Int}
    (hname : Keyed.get? known name = some (some (.int default), .value)) :
    w.intFieldOr name default = v.intFieldOr name default := by
  unfold Json.intFieldOr
  rw [h.fieldOr name hname]

/-- A list of items is what it was if each of them is. -/
theorem listField {α : Type} (h : Change (.record known) v w) (name : String)
    (hname : Keyed.get? known name = some (some (.array []), .items s))
    {decode : Json → Except DumpFault α} (hdecode : ∀ a b, Change s a b → decode b = decode a) :
    w.listField name decode = v.listField name decode := by
  refine h.fieldOr_bind name hname fun a b hab => ?_
  cases hab with
  | @inItem _ before after x y hxy =>
    simp only [Json.items, ok_bind, List.mapM_append, List.mapM_cons, hdecode x y hxy]

end Change

/-! ## Records -/

namespace Dump

variable {read : TextReader} {v w : Json}

theorem attr_change (h : Change (.record attrFields) v w) : attr read w = attr read v := by
  unfold attr
  rw [h.intField "slot" rfl, h.textField "name" rfl, h.textFieldOr "sem_name" rfl,
    h.intFieldOr "sem_index" rfl]

theorem uniform_change (h : Change (.record uniformFields) v w) :
    uniform read w = uniform read v := by
  unfold uniform
  rw [h.textField "name" rfl, h.textField "type" rfl, h.intField "offset" rfl,
    h.intFieldOr "array_count" rfl]

theorem uniformBlock_change (h : Change (.record uniformBlockFields) v w) :
    uniformBlock read w = uniformBlock read v := by
  unfold uniformBlock
  rw [h.intField "slot" rfl, h.intField "size" rfl, h.textField "struct_name" rfl,
    h.textFieldOr "inst_name" rfl, h.fieldOr "flattened" rfl,
    h.listField "uniforms" rfl fun _ _ => uniform_change]

theorem image_change (h : Change (.record imageFields) v w) : image read w = image read v := by
  unfold image
  rw [h.intField "slot" rfl, h.textField "name" rfl, h.textFieldOr "type" rfl,
    h.textFieldOr "sample_type" rfl, h.fieldOr "multisampled" rfl]

theorem sampler_change (h : Change (.record samplerFields) v w) :
    sampler read w = sampler read v := by
  unfold sampler
  rw [h.intField "slot" rfl, h.textField "name" rfl, h.textFieldOr "type" rfl]

theorem imageSampler_change (h : Change (.record imageSamplerFields) v w) :
    imageSampler read w = imageSampler read v := by
  unfold imageSampler
  rw [h.intField "slot" rfl, h.textField "name" rfl, h.textField "image_name" rfl,
    h.textField "sampler_name" rfl]

theorem reflection_change (h : Change (.record reflectionFields) v w) :
    reflection read w = reflection read v := by
  unfold reflection
  rw [h.textField "stage" rfl, h.textFieldOr "entry_point" rfl,
    h.listField "inputs" rfl fun _ _ => attr_change,
    h.listField "uniform_blocks" rfl fun _ _ => uniformBlock_change,
    h.listField "images" rfl fun _ _ => image_change,
    h.listField "samplers" rfl fun _ _ => sampler_change,
    h.listField "image_samplers" rfl fun _ _ => imageSampler_change]

theorem stageSource_change (h : Change (.record stageSourceFields) v w) :
    stageSource read w = stageSource read v := by
  unfold stageSource
  rw [h.textField "snippet" rfl, h.textField "source" rfl]
  refine bind_congr fun snippet => bind_congr fun source => ?_
  refine h.field_bind "reflection" rfl fun a b hab => ?_
  rw [reflection_change hab]

theorem snippet_change (h : Change (.record snippetFields) v w) :
    snippet read w = snippet read v := by
  unfold snippet
  rw [h.textField "name" rfl, h.textField "stage" rfl]

theorem program_change (h : Change (.record programFields) v w) :
    program read w = program read v := by
  unfold program
  rw [h.textField "name" rfl, h.textField "vs" rfl, h.textField "fs" rfl, h.intFieldOr "line" rfl]

end Dump

end ShaderBindings
