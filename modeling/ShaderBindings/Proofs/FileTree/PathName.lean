/-
  Paths as texts: how many bytes their names take (`PathName.weight`, `size_text`), and whether
  there is a zero in them (`PathName.ZeroFree`). And the names of a path that is read from a
  text (`says_ofText`): none of them is empty or a dot.
-/
import ShaderBindings.FileTree.PathName
import ShaderBindings.Proofs.Identifier

namespace ShaderBindings

/-- The bytes of names with a slash for each. -/
def PathName.weight (names : List String) : Nat := (names.map fun name => name.utf8ByteSize + 1).sum

namespace PathName

theorem weight_nil : weight [] = 0 := rfl

theorem weight_cons (name : String) (names : List String) :
    weight (name :: names) = name.utf8ByteSize + 1 + weight names := by
  rw [weight, List.map_cons, List.sum_cons]
  rfl

theorem weight_append (names more : List String) :
    weight (names ++ more) = weight names + weight more := by
  rw [weight, List.map_append, List.sum_append]
  rfl

/-- Names with slashes between them. -/
theorem size_intercalate {names : List String} (h : names ≠ []) :
    ("/".intercalate names).utf8ByteSize + 1 = weight names := by
  induction names with
  | nil => exact absurd rfl h
  | cons name names ih =>
    cases names with
    | nil => simp [weight]
    | cons next more =>
      have hslash : "/".utf8ByteSize = 1 := by decide
      rw [String.intercalate_cons_cons, String.utf8ByteSize_append, String.utf8ByteSize_append,
        weight_cons, ← ih (by simp), hslash]
      omega

/-- The text of a path with names is no longer than the root and the names. -/
theorem size_text {p : PathName} (h : p.parts ≠ []) :
    p.text.utf8ByteSize + 1 = p.root.utf8ByteSize + weight p.parts := by
  have htext : p.text = p.root ++ "/".intercalate p.parts := if_neg fun hp => h hp.2
  have hinner := size_intercalate h
  rw [htext, String.utf8ByteSize_append]
  omega

/-- The path with a name behind it. -/
def child (here : PathName) (name : String) : PathName :=
  { here with parts := here.parts ++ [name] }

/-! ## Zeros -/

/-- There is no zero in a path. -/
structure ZeroFree (p : PathName) : Prop where
  root : '\x00' ∉ p.root.toList
  parts : ∀ name ∈ p.parts, '\x00' ∉ name.toList

theorem ZeroFree.text {p : PathName} (h : p.ZeroFree) : '\x00' ∉ p.text.toList := by
  unfold PathName.text
  split
  · decide
  · rw [String.toList_append, List.mem_append, not_or]
    refine ⟨h.root, fun hzero => ?_⟩
    rw [String.toList_intercalate] at hzero
    obtain ⟨cs, hcs, hzero⟩ := (mem_intercalate_of_ne (by decide) _).mp hzero
    obtain ⟨name, hname, rfl⟩ := List.mem_map.mp hcs
    exact h.parts name hname hzero

theorem ZeroFree.parent {p : PathName} (h : p.ZeroFree) : p.parent.ZeroFree :=
  ⟨h.root, fun name hname => h.parts name (List.mem_of_mem_dropLast hname)⟩

theorem ZeroFree.name {p : PathName} (h : p.ZeroFree) : '\x00' ∉ p.name.toList := by
  unfold PathName.name
  cases hlast : p.parts.getLast? with
  | none => decide
  | some name => exact h.parts name (List.mem_of_getLast? hlast)

/-- A text without a zero is a path without one. -/
theorem zeroFree_ofText {s : String} (h : '\x00' ∉ s.toList) : (ofText s).ZeroFree := by
  refine ⟨?_, fun name hname hzero => h ?_⟩
  · unfold ofText
    dsimp only
    split
    · decide
    · split <;> decide
  · obtain ⟨cs, hcs, rfl⟩ := List.mem_map.mp (List.mem_filter.mp hname).1
    rw [String.toList_ofList] at hzero
    exact mem_of_mem_splitOn hcs hzero

/-! ## Names -/

/-- All names of a path that is read from a text say something. -/
theorem says_ofText {s name : String} (h : name ∈ (ofText s).parts) : name ≠ "" ∧ name ≠ "." := by
  simpa using (List.mem_filter.mp h).2

theorem name_ofText_ne_dot (s : String) : (ofText s).name ≠ "." := by
  unfold PathName.name
  cases hlast : (ofText s).parts.getLast? with
  | none => decide
  | some name => exact (says_ofText (List.mem_of_getLast? hlast)).2

/-- A path with a name is its parent and that name. -/
theorem parts_eq {p : PathName} (h : p.name ≠ "") : p.parts = p.parent.parts ++ [p.name] := by
  unfold PathName.name at h ⊢
  cases hlast : p.parts.getLast? with
  | none =>
    rw [hlast] at h
    exact absurd rfl h
  | some name => exact (List.dropLast_append_getLast? name hlast).symm

end PathName

end ShaderBindings
