/-
  What fields of a JSON value are: `field_eq_ok` and `fieldOr_eq_ok` say when a field is found,
  `items_cases` that only an array has other items than texts.
-/
import ShaderBindings.Dump.Decode

namespace ShaderBindings.Json

variable {v a default : Json} {name : String} {fs : List (String × Json)}

theorem field_object : (Json.object fs).field name =
    match Keyed.get? fs name with
    | some v => .ok v
    | none => .error (.missingField name) := rfl

theorem fieldOr_object :
    (Json.object fs).fieldOr name default = .ok ((Keyed.get? fs name).getD default) := rfl

/-- A field that must be there is one of an object. -/
theorem field_eq_ok : v.field name = .ok a ↔
    ∃ fs, v = .object fs ∧ Keyed.get? fs name = some a := by
  constructor
  · intro h
    cases v with
    | object fs =>
      rw [field_object] at h
      split at h
      · next found hfound =>
        obtain rfl := Except.ok.inj h
        exact ⟨fs, rfl, hfound⟩
      · cases h
    | _ => cases h
  · rintro ⟨fs, rfl, hget⟩
    rw [field_object, hget]

/-- A field that may be left out is one of an object all the same, or its default. -/
theorem fieldOr_eq_ok : v.fieldOr name default = .ok a ↔
    ∃ fs, v = .object fs ∧
      (Keyed.get? fs name = some a ∨ Keyed.get? fs name = none ∧ default = a) := by
  constructor
  · intro h
    cases v with
    | object fs => exact ⟨fs, rfl, Option.getD_eq_iff.mp (Except.ok.inj h)⟩
    | _ => cases h
  · rintro ⟨fs, rfl, hget⟩
    rw [fieldOr_object, Option.getD_eq_iff.mpr hget]

theorem namedFields_eq_ok : v.namedFields = .ok fs ↔ v = .object fs := by
  constructor
  · intro h
    cases v with
    | object gs => exact congrArg Json.object (Except.ok.inj h)
    | _ => cases h
  · rintro rfl
    rfl

/-- The items of what is no array are texts. -/
theorem items_cases {vs : List Json} (h : v.items = .ok vs) :
    v = .array vs ∨ ∀ x ∈ vs, ∃ s, x = .text s := by
  cases v with
  | array items => exact .inl (congrArg Json.array (Except.ok.inj h))
  | text s =>
    obtain rfl := Except.ok.inj h
    refine .inr fun x hx => ?_
    obtain ⟨c, -, rfl⟩ := List.mem_map.mp hx
    exact ⟨_, rfl⟩
  | object fs =>
    obtain rfl := Except.ok.inj h
    refine .inr fun x hx => ?_
    obtain ⟨f, -, rfl⟩ := List.mem_map.mp hx
    exact ⟨_, rfl⟩
  | _ => cases h

end ShaderBindings.Json
