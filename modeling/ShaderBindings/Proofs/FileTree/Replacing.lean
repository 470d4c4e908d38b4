/-
  Replacing a file is all or nothing: a failed attempt takes its temporary file away again
  (`attempt_eq_error`), and a successful one changes the entry that the path names and no other
  (`attempt_eq_ok`, as a `Replacement`). What is told about the file afterwards is in
  `writeText_eq_ok`; `writeText_eq_circle` is the one fault that comes after the file is
  written. When that happens is left to `Proofs.FileTree.Writing`.
-/
import ShaderBindings.FileTree.Replace
import ShaderBindings.Proofs.Fallible

namespace ShaderBindings

theorem Keyed.put_put {κ α : Type} [DecidableEq κ] (entries : Keyed κ α) (key : κ) (a b : α) :
    (entries.put key a).put key b = entries.put key b := by
  induction entries with
  | nil => simp [put]
  | cons e rest ih =>
    by_cases h : e.1 = key
    · simp [put_cons, h]
    · simp [put_cons, h, ih]

namespace FileTree

open Fallible

variable {t : FileTree} {p : PathName} {bytes : Bytes}

theorem put_put (t : FileTree) (l : Location) (e e' : Entry) :
    (t.put l e).put l e' = t.put l e' := by
  unfold put
  rw [Keyed.put_put]

/-- An entry at a free location goes away again. -/
theorem erase_put_of_find?_eq_none {l : Location} (h : t.find? l = none) (e : Entry) :
    (t.put l e).erase l = t := by
  unfold put erase
  rw [Keyed.erase_put_of_get?_eq_none h]

/-- A new file is at a free location and is all that is new. -/
theorem create_eq_ok {mode : Nat} {l : Location} {staged : FileTree}
    (h : t.create p bytes mode = .ok (l, staged)) :
    t.find? l = none ∧ staged = t.put l (.file bytes mode) := by
  unfold create at h
  obtain ⟨l', -, h⟩ := bind_eq_ok.mp h
  cases hfind : t.find? l' with
  | some e => simp [hfind] at h
  | none =>
    rw [hfind] at h
    obtain ⟨-, -, h⟩ := bind_eq_ok.mp h
    obtain ⟨rfl, rfl⟩ := Prod.mk.inj (pure_eq_ok.mp h)
    exact ⟨hfind, rfl⟩

/-- A moved entry is gone from where it was, and has not taken the place of a directory. -/
theorem move_eq_ok {source target : Location} {e : Entry} {after : FileTree}
    (hfind : t.find? source = some e) (h : t.move source target = .ok after) :
    after = (t.erase source).put target e ∧ ∀ mode, t.find? target ≠ some (.directory mode) := by
  unfold move at h
  rw [hfind] at h
  simp only at h
  split at h
  · simp at h
  · obtain ⟨-, -, h⟩ := bind_eq_ok.mp h
    obtain ⟨-, -, h⟩ := bind_eq_ok.mp h
    split at h
    · simp at h
    · next hplain =>
      refine ⟨(pure_eq_ok.mp h).symm, fun mode hmode => ?_⟩
      exact hplain mode hmode

theorem takeOver_eq_ok {temporary l : Location} {staged after : FileTree}
    (h : t.takeOver p temporary staged = .ok (l, after)) :
    ∃ mode, t.modeFor p = .ok mode ∧ t.place .busy p = .ok l ∧
      (staged.setMode temporary mode).move temporary l = .ok after := by
  unfold takeOver at h
  obtain ⟨mode, hmode, h⟩ := bind_eq_ok.mp h
  obtain ⟨l', hl, h⟩ := bind_eq_ok.mp h
  obtain ⟨after', hafter, h⟩ := bind_eq_ok.mp h
  obtain ⟨rfl, rfl⟩ := Prod.mk.inj (pure_eq_ok.mp h)
  exact ⟨mode, hmode, hl, hafter⟩

/-- A file is put in the place that a path names, with the permissions for that path. There is no
directory in that place, and nothing else changes. -/
structure Replacement (t : FileTree) (p : PathName) (bytes : Bytes) (l : Location) (mode : Nat)
    (after : FileTree) : Prop where
  place : t.place .busy p = .ok l
  modeFor : t.modeFor p = .ok mode
  noDirectory : ∀ m, t.find? l ≠ some (.directory m)
  after_eq : after = t.put l (.file bytes mode)

/-- A failed attempt leaves nothing behind. -/
theorem attempt_eq_error {f : FileFault} {left : FileTree}
    (h : t.attempt p bytes = (.error f, left)) : left = t := by
  unfold attempt at h
  split at h
  · exact (Prod.mk.inj h).2.symm
  · next temporary staged hcreate =>
    obtain ⟨hfree, rfl⟩ := create_eq_ok hcreate
    split at h
    · obtain ⟨-, rfl⟩ := Prod.mk.inj h
      exact erase_put_of_find?_eq_none hfree _
    · simp at h

/-- A successful attempt fills the entry that the path names. -/
theorem attempt_eq_ok {l : Location} {after : FileTree}
    (h : t.attempt p bytes = (.ok l, after)) :
    ∃ mode, t.Replacement p bytes l mode after := by
  unfold attempt at h
  split at h
  · simp at h
  · next temporary staged hcreate =>
    obtain ⟨hfree, rfl⟩ := create_eq_ok hcreate
    split at h
    · simp at h
    · next l' after' htake =>
      obtain ⟨hl, rfl⟩ := Prod.mk.inj h
      obtain rfl := Except.ok.inj hl
      obtain ⟨mode, hmode, hplace, hmove⟩ := takeOver_eq_ok htake
      have hstaged : (t.put temporary (.file bytes 0o600)).setMode temporary mode =
          t.put temporary (.file bytes mode) := by
        unfold setMode
        rw [find?_put, if_pos rfl]
        exact put_put _ _ _ _
      rw [hstaged] at hmove
      have hfile : (t.put temporary (.file bytes mode)).find? temporary =
          some (.file bytes mode) := by
        rw [find?_put, if_pos rfl]
      obtain ⟨hafter, hnone⟩ := move_eq_ok hfile hmove
      -- the temporary file has gone from where it was
      rw [erase_put_of_find?_eq_none hfree] at hafter
      refine ⟨mode, hplace, hmode, fun m hm => ?_, hafter⟩
      have hne : temporary ≠ l' := by
        rintro rfl
        rw [hfree] at hm
        simp at hm
      exact hnone m (by rw [find?_put, if_neg hne, hm])

theorem attempt_of_replace_eq_error {f : FileFault} (h : t.replace p bytes = .error f) :
    t.attempt p bytes = (.error f, t) := by
  unfold replace at h
  split at h
  · next f' left hattempt =>
    obtain rfl := Except.error.inj h
    rw [hattempt, attempt_eq_error hattempt]
  · simp at h

theorem replace_eq_ok {l : Location} {after : FileTree}
    (h : t.replace p bytes = .ok (l, after)) : ∃ mode, t.Replacement p bytes l mode after := by
  unfold replace at h
  split at h
  · simp at h
  · next l' after' hattempt =>
    obtain ⟨rfl, rfl⟩ := Prod.mk.inj (Except.ok.inj h)
    exact attempt_eq_ok hattempt

/-! ## Texts -/

variable {content : String} {after : FileTree}

/-- A text is refused when its bytes are. -/
theorem writeText_eq_refused {f : FileFault}
    (h : t.replace p (Bytes.ofText content) = .error f) :
    t.writeText p content = .error (.refused f) := by
  unfold writeText
  simp only [h]
  rfl

/-- A file is told of when its path does not lead in a circle. -/
theorem writeText_of_replace {l : Location}
    (h : t.replace p (Bytes.ofText content) = .ok (l, after))
    (hcircle : after.isCircle (after.resolve p) = false) :
    t.writeText p content = .ok (⟨p.name, after.resolve p, content.toList.count '\n',
      (Bytes.ofText content).length⟩, after) := by
  unfold writeText
  simp only [h, mapError_ok, ok_bind, hcircle]
  rfl

theorem writeText_eq_ok_of_replace {l : Location} {file : WrittenFile} {left : FileTree}
    (h : t.replace p (Bytes.ofText content) = .ok (l, after))
    (htext : t.writeText p content = .ok (file, left)) :
    left = after ∧ file.path = after.resolve p := by
  unfold writeText at htext
  simp only [h, mapError_ok, ok_bind] at htext
  split at htext
  · simp at htext
  · obtain ⟨rfl, rfl⟩ := Prod.mk.inj (pure_eq_ok.mp htext)
    exact ⟨rfl, rfl⟩

/-- A written file holds the bytes of the text, and is told of with the counts of both. -/
theorem writeText_eq_ok {file : WrittenFile} (h : t.writeText p content = .ok (file, after)) :
    file.lineCount = content.toList.count '\n' ∧
      file.byteCount = (Bytes.ofText content).length ∧
      ∃ l mode, t.place .busy p = .ok l ∧ after = t.put l (.file (Bytes.ofText content) mode) := by
  unfold writeText at h
  obtain ⟨⟨l, left⟩, hreplace, h⟩ := bind_eq_ok.mp h
  obtain ⟨mode, hleft⟩ := replace_eq_ok (mapError_eq_ok.mp hreplace)
  dsimp only at h
  split at h
  · simp at h
  · obtain ⟨rfl, rfl⟩ := Prod.mk.inj (pure_eq_ok.mp h)
    exact ⟨rfl, rfl, l, mode, hleft.place, hleft.after_eq⟩

/-- The one fault that comes after the file is written. -/
theorem writeText_eq_circle {l : Location}
    (h : t.replace p (Bytes.ofText content) = .ok (l, after))
    (hcircle : after.isCircle (after.resolve p) = true) :
    t.writeText p content = .error (.circle (after.resolve p) after) := by
  unfold writeText
  simp only [h, mapError_ok, ok_bind, hcircle]
  rfl

end FileTree

end ShaderBindings
