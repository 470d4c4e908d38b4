/-
  The sizes of record fields, read off the texts of their types (`TypeText.size?`). A record is
  laid out by one computation, which says how many bytes a uniform takes, and written down by
  another, which says of what type its field is; here the text that the second one writes is
  read again, without knowledge of the uniform, and the bytes that it stands for are counted.

  A host type is whatever text the mapping gives. The reader is told the sizes of names; all
  else in the text of a host type is read like any other type. An array is written with the
  count that the uniform has, so that one with a count below one takes other bytes than the
  layout gives it (`Uniform.strides_eq_size_iff`).
-/
import Mathlib.Data.List.DropRight
import ShaderBindings.Layout.Block

namespace ShaderBindings

namespace TypeText

/-! ## Reading a type -/

/-- Reads decimal digits. -/
def digits? (cs : List Char) : Option Nat :=
  if cs ≠ [] ∧ cs.all Char.isDigit then some (Nat.ofDigitChars 10 cs 0) else none

/-- Reads a numeral, with a minus sign in front of a negative one. -/
def numeral? (cs : List Char) : Option Int :=
  match cs.dropPrefix? ['-'] with
  | some ds => (digits? ds).map Int.negOfNat
  | none => (digits? cs).map Int.ofNat

/-- A struct of a value and unnamed bytes behind it: the type of the value and the number of bytes.
They are taken off at both ends, so that the type of the value may be any text. -/
def padded? (cs : List Char) : Option (List Char × Nat) := do
  let inner ← cs.dropPrefix? "struct \x7b v: ".toList
  let front ← inner.dropSuffix? "]u8 \x7d".toList
  let padding ← digits? (front.rtakeWhile Char.isDigit)
  let value ← (front.rdropWhile Char.isDigit).dropSuffix? ", _: [".toList
  return (value, padding)

theorem length_lt_of_padded? {cs value : List Char} {padding : Nat}
    (h : padded? cs = some (value, padding)) : value.length < cs.length := by
  simp only [padded?, Option.bind_eq_bind, Option.bind_eq_some_iff, Option.pure_def,
    Option.some.injEq, Prod.mk.injEq, List.dropPrefix?_eq_some_iff,
    List.dropSuffix?_eq_some_iff, beq_iff_eq] at h
  obtain ⟨inner, ⟨_, rfl, rfl⟩, front, ⟨_, rfl, rfl⟩, padding, -, value, ⟨_, hfront, rfl⟩, rfl,
    -⟩ := h
  have hle : (front.rdropWhile Char.isDigit).length ≤ front.length :=
    (List.rdropWhile_prefix Char.isDigit front).length_le
  rw [hfront, List.length_append] at hle
  simp only [List.length_append]
  have : 0 < "struct \x7b v: ".toList.length := by decide
  omega

/-- The bytes of a type with the given sizes of names. A scalar has four bytes, `[n]T` has those of
`n` times `T`, and a struct those of its value and of the padding behind it. -/
def size? (named : String → Option Int) (cs : List Char) : Option Int :=
  if cs = "f32".toList ∨ cs = "i32".toList then some 4
  else
    match cs with
    | '[' :: rest => do
      let count ← numeral? (rest.takeWhile (· ≠ ']'))
      let element ← size? named (rest.dropWhile (· ≠ ']')).tail
      return count * element
    | cs =>
      match _hp : padded? cs with
      | some (value, padding) => (size? named value).map (· + (padding : Int))
      | none => named (String.ofList cs)
termination_by cs.length
decreasing_by
  · have hle := (List.dropWhile_suffix (fun c => decide (c ≠ ']')) (l := rest)).length_le
    simp only [List.length_tail, List.length_cons]
    omega
  · exact length_lt_of_padded? _hp

/-! ## Types that are written -/

theorem digits?_toDigits (n : Nat) : digits? (Nat.toDigits 10 n) = some n := by
  have hne : Nat.toDigits 10 n ≠ [] := Nat.toDigits_ne_nil
  have hall : (Nat.toDigits 10 n).all Char.isDigit = true :=
    List.all_eq_true.mpr fun c hc => Nat.isDigit_of_mem_toDigits (by decide) (by decide) hc
  rw [digits?, if_pos ⟨hne, hall⟩, Nat.ofDigitChars_ten_toDigits]

/-- A numeral is read as the integer that it was written for. -/
theorem numeral?_numeral (n : Int) : numeral? (Text.numeral n).toList = some n := by
  unfold Text.numeral
  split
  · next hneg =>
    have hcut : ("-" ++ Text.digits n.natAbs).toList.dropPrefix? ['-'] =
        some (Nat.toDigits 10 n.natAbs) := by
      rw [List.dropPrefix?_eq_some_iff]
      exact ⟨['-'], by simp [Text.toList_digits], by simp⟩
    rw [numeral?, hcut]
    change (digits? (Nat.toDigits 10 n.natAbs)).map Int.negOfNat = some n
    rw [digits?_toDigits, Option.map_some, Int.negOfNat_eq, Int.ofNat_eq_natCast]
    exact congrArg some (by omega)
  · next hpos =>
    have hcut : (Text.digits n.natAbs).toList.dropPrefix? ['-'] = none := by
      rw [Option.eq_none_iff_forall_ne_some]
      intro ds h
      obtain ⟨_, hds, h⟩ := List.dropPrefix?_eq_some_iff.mp h
      obtain rfl := beq_iff_eq.mp h
      have hmem : '-' ∈ Nat.toDigits 10 n.natAbs := by
        rw [← Text.toList_digits, hds]
        exact List.mem_cons_self
      exact absurd (Nat.isDigit_of_mem_toDigits (by decide) (by decide) hmem) (by decide)
    rw [numeral?, hcut]
    change (digits? (Text.digits n.natAbs).toList).map Int.ofNat = some n
    rw [Text.toList_digits, digits?_toDigits, Option.map_some, Int.ofNat_eq_natCast]
    exact congrArg some (by omega)

/-- Digits at the end of a text, behind a character that is none. -/
theorem rtakeWhile_digits (front : List Char) {c : Char} (hc : c.isDigit = false) (n : Nat) :
    (front ++ c :: Nat.toDigits 10 n).rtakeWhile Char.isDigit = Nat.toDigits 10 n ∧
      (front ++ c :: Nat.toDigits 10 n).rdropWhile Char.isDigit = front ++ [c] := by
  have hdigits : ∀ d ∈ (Nat.toDigits 10 n).reverse, d.isDigit = true := fun d hd =>
    Nat.isDigit_of_mem_toDigits (by decide) (by decide) (List.mem_reverse.mp hd)
  have hreverse : (front ++ c :: Nat.toDigits 10 n).reverse =
      (Nat.toDigits 10 n).reverse ++ c :: front.reverse := by simp
  have hne : ¬ c.isDigit = true := by simp [hc]
  constructor
  · rw [List.rtakeWhile, hreverse, List.takeWhile_append_of_pos hdigits,
      List.takeWhile_cons_of_neg hne, List.append_nil, List.reverse_reverse]
  · rw [List.rdropWhile, hreverse, List.dropWhile_append_of_pos hdigits,
      List.dropWhile_cons_of_neg hne, List.reverse_cons, List.reverse_reverse]

theorem padded?_text (value : String) (padding : Nat) :
    padded? ("struct \x7b v: " ++ value ++ ", _: [" ++ Text.digits padding ++ "]u8 \x7d").toList =
      some (value.toList, padding) := by
  let front := (value.toList ++ ", _: ".toList) ++ '[' :: Nat.toDigits 10 padding
  have hopen : ("struct \x7b v: " ++ value ++ ", _: [" ++ Text.digits padding ++
      "]u8 \x7d").toList.dropPrefix? "struct \x7b v: ".toList =
        some (front ++ "]u8 \x7d".toList) := by
    rw [List.dropPrefix?_eq_some_iff]
    exact ⟨_, by simp [front, Text.toList_digits], beq_self_eq_true _⟩
  have hclose : (front ++ "]u8 \x7d".toList).dropSuffix? "]u8 \x7d".toList = some front := by
    rw [List.dropSuffix?_eq_some_iff]
    exact ⟨_, rfl, beq_self_eq_true _⟩
  obtain ⟨htake, hdrop⟩ := rtakeWhile_digits (value.toList ++ ", _: ".toList)
    (c := '[') rfl padding
  have hvalue : (value.toList ++ ", _: ".toList ++ ['[']).dropSuffix? ", _: [".toList =
      some value.toList := by
    rw [List.dropSuffix?_eq_some_iff]
    exact ⟨", _: [".toList, List.append_assoc _ _ _, beq_self_eq_true _⟩
  unfold padded?
  rw [hopen, Option.bind_eq_bind, Option.bind_some, hclose, Option.bind_eq_bind, Option.bind_some,
    htake, hdrop, digits?_toDigits, hvalue]
  rfl

variable {named : String → Option Int}

/-- An array has the bytes of its elements. -/
theorem size?_array (n : Int) (element : String) :
    size? named ("[" ++ Text.numeral n ++ "]" ++ element).toList =
      (size? named element.toList).map (n * ·) := by
  have htext : ("[" ++ Text.numeral n ++ "]" ++ element).toList =
      '[' :: ((Text.numeral n).toList ++ ']' :: element.toList) := by simp
  have hnumeral : ∀ c ∈ (Text.numeral n).toList, decide (c ≠ ']') = true := by
    intro c hc
    rcases Text.mem_numeral hc with rfl | hc
    · decide
    · refine decide_eq_true fun h => ?_
      rw [h] at hc
      exact absurd hc (by decide)
  have htake : ((Text.numeral n).toList ++ ']' :: element.toList).takeWhile (· ≠ ']') =
      (Text.numeral n).toList := by
    rw [List.takeWhile_append_of_pos hnumeral, List.takeWhile_cons_of_neg (by simp),
      List.append_nil]
  have hdrop : (((Text.numeral n).toList ++ ']' :: element.toList).dropWhile (· ≠ ']')).tail =
      element.toList := by
    rw [List.dropWhile_append_of_pos hnumeral, List.dropWhile_cons_of_neg (by simp), List.tail_cons]
  rw [htext, size?, if_neg (by simp)]
  simp only [htake, hdrop, numeral?_numeral]
  cases size? named element.toList <;> rfl

/-- A type that starts with no bracket is no array. -/
theorem size?_of_ne_bracket {cs : List Char} (h : cs.head? ≠ some '[') :
    size? named cs =
      if cs = "f32".toList ∨ cs = "i32".toList then some 4
      else
        match padded? cs with
        | some (value, padding) => (size? named value).map (· + (padding : Int))
        | none => named (String.ofList cs) := by
  rw [size?]
  · split
    · rfl
    · cases padded? cs <;> rfl
  · rintro rest rfl
    exact h rfl

/-- A struct of a value and padding has the bytes of both. -/
theorem size?_padded (value : String) (padding : Nat) :
    size? named
        ("struct \x7b v: " ++ value ++ ", _: [" ++ Text.digits padding ++ "]u8 \x7d").toList =
      (size? named value.toList).map (· + (padding : Int)) := by
  rw [size?_of_ne_bracket (by simp), if_neg (by simp), padded?_text]

theorem size?_scalar (t : UniformType) :
    size? named (OdinType.scalar t).text.toList = some 4 := by
  have htext : (OdinType.scalar t).text.toList = "f32".toList ∨
      (OdinType.scalar t).text.toList = "i32".toList := by
    cases t <;> decide
  have hhead : (OdinType.scalar t).text.toList.head? ≠ some '[' := by
    rcases htext with h | h <;> rw [h] <;> decide
  rw [size?_of_ne_bracket hhead, if_pos htext]

end TypeText

/-- The bytes from one element of an array to the next. -/
def UniformType.stride (t : UniformType) : Nat := max t.size 16

namespace UniformType

theorem size_pos (t : UniformType) : 0 < t.size := by
  cases t <;> decide

theorem sixteen_dvd_stride (t : UniformType) : 16 ∣ t.stride := by
  cases t <;> decide

/-- A value fills whole elements, or less than one. -/
theorem size_cases (t : UniformType) :
    t.size % 16 = 0 ∧ t.stride = t.size ∨ t.size % 16 ≠ 0 ∧ t.size < 16 ∧ t.stride = 16 := by
  cases t <;> decide

end UniformType

/-- A single value takes the bytes of its type. -/
theorem Uniform.size_of_single {u : Uniform} {t : UniformType}
    (ht : UniformType.ofName? u.type = some t) (hcount : u.arrayCount = 1) : u.size = t.size := by
  unfold Uniform.size uniformSize
  rw [ht, hcount]
  rfl

/-- So many strides are what an array takes if it has elements. One that has none, or fewer, is
taken to be a single value. -/
theorem Uniform.strides_eq_size_iff {u : Uniform} {t : UniformType}
    (ht : UniformType.ofName? u.type = some t) (hcount : u.arrayCount ≠ 1) :
    u.arrayCount * t.stride = u.size ↔ 1 ≤ u.arrayCount := by
  unfold Uniform.size uniformSize
  rw [ht]
  by_cases h : 1 < u.arrayCount
  · simp only [if_pos h]
    exact iff_of_true (Int.mul_comm _ _) (Int.le_of_lt h)
  · simp only [if_neg h]
    refine iff_of_false (fun heq => ?_) (by omega)
    have hstrides : u.arrayCount * (t.stride : Int) ≤ 0 :=
      Int.mul_nonpos_of_nonpos_of_nonneg (by omega) (Int.natCast_nonneg _)
    have := t.size_pos
    omega

namespace OdinType

open TypeText

variable {named : String → Option Int}

/-! ## Types of uniforms -/

theorem size?_single (t : UniformType) :
    size? named (single t).text.toList = some (t.size : Int) := by
  unfold single
  split
  · next h => rw [size?_scalar, UniformType.size, h]; rfl
  · rw [text, size?_array, size?_scalar, Option.map_some, UniformType.size]
    exact congrArg some (by push_cast; omega)

/-- The element of an array takes whole strides. -/
theorem size?_element (t : UniformType) :
    size? named (element t).text.toList = some (t.stride : Int) := by
  unfold element
  split
  · next h => rw [h, size?_single]; rfl
  · next h =>
    have hstride : t.stride = 16 := by revert h; cases t <;> decide
    rw [text, size?_array, size?_scalar, Option.map_some, hstride]
    rfl

/-- A host type in an array is padded to a stride, if it has the bytes of its uniform type. -/
theorem size?_hostElement {uniformType host : String} {t : UniformType}
    (ht : UniformType.ofName? uniformType = some t)
    (hhost : size? named host.toList = some (t.size : Int)) :
    size? named (hostElement uniformType (.text host)).text.toList = some (t.stride : Int) := by
  unfold hostElement
  rw [ht, Option.map_some, Option.getD_some]
  rcases t.size_cases with ⟨hfull, hstride⟩ | ⟨hrest, hlt, hstride⟩
  · rw [if_pos hfull, text, Json.display_text, hhost, hstride]
  · rw [if_neg hrest, text, text, Json.display_text, size?_padded, hhost, Option.map_some, hstride]
    exact congrArg some (by omega)

/-- A uniform is written as a single value or as an array of strides. -/
theorem ofUniform_cases {hosts : HostTypes} {u : Uniform} {t : UniformType}
    (ht : UniformType.ofName? u.type = some t)
    (hhosts : ∀ type, hosts.get? u.type = some type →
      ∃ host, type = .text host ∧ size? named host.toList = some (t.size : Int)) :
    (u.arrayCount = 1 ∧ ∃ type, ofUniform hosts u = some type ∧
      size? named type.text.toList = some (t.size : Int)) ∨
    (u.arrayCount ≠ 1 ∧ ∃ e, ofUniform hosts u = some (array u.arrayCount e) ∧
      size? named e.text.toList = some (t.stride : Int)) := by
  unfold ofUniform
  cases hget : hosts.get? u.type with
  | some type =>
    obtain ⟨host, rfl, hhost⟩ := hhosts type hget
    by_cases hcount : u.arrayCount = 1
    · exact .inl ⟨hcount, .host (.text host), by simp [hcount], by rwa [text, Json.display_text]⟩
    · exact .inr ⟨hcount, _, by simp [hcount], size?_hostElement ht hhost⟩
  | none =>
    rw [ht]
    by_cases hcount : u.arrayCount = 1
    · exact .inl ⟨hcount, _, by simp [hcount], size?_single t⟩
    · exact .inr ⟨hcount, _, by simp [hcount], size?_element t⟩

/-- The type of a uniform, read as text, takes the bytes that the layout gives the uniform exactly
when it is a single value or an array of at least one; and the elements of an array of two or more
take a multiple of sixteen bytes each. A host type in place of the uniform's type has to have the
bytes of a single value of it. -/
theorem size?_ofUniform {hosts : HostTypes} {u : Uniform} {t : UniformType}
    (ht : UniformType.ofName? u.type = some t)
    (hhosts : ∀ type, hosts.get? u.type = some type →
      ∃ host, type = .text host ∧ size? named host.toList = some (t.size : Int)) :
    ∃ type size, ofUniform hosts u = some type ∧ size? named type.text.toList = some size ∧
      (size = u.size ↔ 1 ≤ u.arrayCount) ∧
      (2 ≤ u.arrayCount → ∃ element stride,
        type.text = "[" ++ Text.numeral u.arrayCount ++ "]" ++ element ∧
          size? named element.toList = some stride ∧ 16 ∣ stride) := by
  rcases ofUniform_cases ht hhosts with ⟨hcount, type, htype, hsize⟩ | ⟨hcount, e, htype, hsize⟩
  · refine ⟨type, t.size, htype, hsize, ?_, fun h => by omega⟩
    exact iff_of_true (Uniform.size_of_single ht hcount).symm (by omega)
  · refine ⟨_, u.arrayCount * t.stride, htype, ?_, Uniform.strides_eq_size_iff ht hcount,
      fun _ => ?_⟩
    · rw [text, size?_array, hsize, Option.map_some]
    · exact ⟨e.text, t.stride, rfl, hsize, Int.natCast_dvd_natCast.mpr t.sixteen_dvd_stride⟩

/-- Three pairs, with a host type of eight bytes for each. -/
def coordinates : Uniform := ⟨"uv", "vec2", 0, 3⟩

def pairHosts : HostTypes := [("vec2", .text "Vec2")]

def pairSize (name : String) : Option Int := if name = "Vec2" then some 8 else none

theorem coordinates_sized :
    UniformType.ofName? coordinates.type = some .vec2 ∧
    size? pairSize "Vec2".toList = some (UniformType.vec2.size : Int) ∧
    ∃ type, ofUniform pairHosts coordinates = some type ∧
      type.text = "[3]struct \x7b v: Vec2, _: [8]u8 \x7d" ∧
      size? pairSize type.text.toList = some 48 := by
  have ht : UniformType.ofName? coordinates.type = some .vec2 := rfl
  have hhost : size? pairSize "Vec2".toList = some (UniformType.vec2.size : Int) := by
    rw [size?_of_ne_bracket (by decide), if_neg (by decide)]
    rfl
  have hhosts : ∀ type, pairHosts.get? coordinates.type = some type → ∃ host,
      type = .text host ∧ size? pairSize host.toList = some (UniformType.vec2.size : Int) := by
    intro type htype
    obtain rfl : type = .text "Vec2" := by
      simpa [pairHosts, coordinates, Keyed.get?_cons] using htype.symm
    exact ⟨"Vec2", rfl, hhost⟩
  obtain ⟨type, size, htype, hsize, hiff, -⟩ := size?_ofUniform ht hhosts
  have huniform : coordinates.size = 48 := by decide
  obtain rfl : size = 48 := huniform ▸ hiff.mpr (by decide)
  have htext : (ofUniform pairHosts coordinates).map text =
      some "[3]struct \x7b v: Vec2, _: [8]u8 \x7d" := by decide +kernel
  rw [htype, Option.map_some] at htext
  exact ⟨ht, hhost, type, htype, Option.some.inj htext, hsize⟩

end OdinType

end ShaderBindings
