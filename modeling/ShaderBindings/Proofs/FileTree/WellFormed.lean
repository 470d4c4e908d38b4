/-
  Trees in which every entry is in a directory (`WellFormed`). A path from the root down to an
  entry of such a tree meets no link on the way (`leg_front`), and a walk over links ends at
  none (`plain_of_locate`). Putting a file in place keeps a tree well-formed (`put_file`); that
  is the only change that is looked at.
-/
import ShaderBindings.FileTree.Replace
import ShaderBindings.Proofs.FileTree.Resolving

namespace ShaderBindings

namespace FileTree

open Fallible

/-- Relative paths start in a directory, every entry but the root is in a directory, and all names
are such as entries can have. -/
structure WellFormed (t : FileTree) : Prop where
  home : t.IsDirectory t.home
  parents : ∀ l e, t.find? l = some e → l ≠ [] → t.IsDirectory l.dropLast
  names : ∀ l e, t.find? l = some e → ∀ name ∈ l, IsName name ∧ '\x00' ∉ name.toList

section

variable {t : FileTree} {here l : Location} {names met : List String} {n : Nat} {e : Entry}
  {bytes : Bytes} {mode : Nat}

theorem IsDirectory.plain (h : t.IsDirectory l) (target : String) :
    t.find? l ≠ some (.link target) := by
  obtain ⟨mode, hmode⟩ := h
  rw [hmode]
  simp

/-- It is enough to look at the entries one by one. -/
theorem wellFormed_of_entries (hhome : t.IsDirectory t.home)
    (h : ∀ e ∈ t.entries, (e.1 ≠ [] → t.IsDirectory e.1.dropLast) ∧
      ∀ name ∈ e.1, IsName name ∧ '\x00' ∉ name.toList) : t.WellFormed :=
  ⟨hhome, fun _ _ hfind => (h _ (Keyed.mem_of_get? hfind)).1,
    fun _ _ hfind => (h _ (Keyed.mem_of_get? hfind)).2⟩

namespace WellFormed

theorem zeroFree (ht : t.WellFormed) : t.ZeroFree :=
  fun l e hfind name hname => (ht.names l e hfind name hname).2

/-- There are directories all the way down to an entry. -/
theorem isDirectory_front (ht : t.WellFormed) (front : Location) {back : Location}
    (hfind : t.find? (front ++ back) = some e) (hback : back ≠ []) : t.IsDirectory front := by
  induction back using List.reverseRecOn generalizing e with
  | nil => exact absurd rfl hback
  | append_singleton back name ih =>
    have hparent := ht.parents _ e hfind (by simp)
    rw [← List.append_assoc, List.dropLast_concat] at hparent
    cases back with
    | nil => rwa [List.append_nil] at hparent
    | cons first more =>
      obtain ⟨mode, hmode⟩ := hparent
      exact ih hmode (by simp)

theorem root (ht : t.WellFormed) : t.IsDirectory [] := by
  cases hhome : t.home with
  | nil => exact hhome ▸ ht.home
  | cons name rest =>
    obtain ⟨mode, hmode⟩ := ht.home
    exact ht.isDirectory_front [] hmode (by simp [hhome])

theorem start (ht : t.WellFormed) (p : PathName) : t.IsDirectory (t.start p) := by
  unfold FileTree.start
  split
  · exact ht.root
  · exact ht.home

/-- A file may take the place of anything but a directory, and of nothing. -/
theorem put_file (ht : t.WellFormed) (hparent : t.IsDirectory l.dropLast)
    (hnames : ∀ name ∈ l, IsName name ∧ '\x00' ∉ name.toList)
    (hplace : ∀ m, t.find? l ≠ some (.directory m)) : (t.put l (.file bytes mode)).WellFormed := by
  have hkept {d : Location} (hd : t.IsDirectory d) :
      (t.put l (.file bytes mode)).IsDirectory d := by
    obtain ⟨m, hm⟩ := hd
    have hne : l ≠ d := fun h => hplace m (h ▸ hm)
    exact ⟨m, by rw [find?_put, if_neg hne, hm]⟩
  constructor
  · exact hkept ht.home
  · intro l' e hfind hl'
    rw [find?_put] at hfind
    split at hfind
    · next hsame => exact hkept (hsame ▸ hparent)
    · exact hkept (ht.parents l' e hfind hl')
  · intro l' e hfind
    rw [find?_put] at hfind
    split at hfind
    · next hsame => exact hsame ▸ hnames
    · exact ht.names l' e hfind

end WellFormed

/-- What leads on from no link leads to none. -/
theorem Leads.plain (ht : t.WellFormed) (h : Leads t here names met n l)
    (hhere : ∀ target, t.find? here ≠ some (.link target)) :
    ∀ target, t.find? l ≠ some (.link target) := by
  induction h with
  | nil => exact hhere
  | skip _ _ ih => exact ih hhere
  | @up here _ _ _ _ hopen _ ih =>
    refine ih fun target => ?_
    by_cases hroot : here = []
    · rw [hroot]
      exact ht.root.plain target
    · obtain ⟨mode, hmode⟩ := hopen.directory
      exact (ht.parents here _ hmode hroot).plain target
  | entry _ _ hfind hplain _ ih =>
    refine ih fun target hlink => ?_
    rw [hfind] at hlink
    exact hplain target (Option.some.inj hlink)
  | link hopen _ _ _ _ ihfollow ihnext =>
    refine ihnext (ihfollow fun target => ?_)
    unfold targetStart
    split
    · exact ht.root.plain target
    · exact hopen.directory.plain target

/-- A path does not lead to a link. -/
theorem WellFormed.plain_of_locate (ht : t.WellFormed) {p : PathName}
    (h : t.locate .target p = .ok l) (target : String) : t.find? l ≠ some (.link target) := by
  intro hlink
  obtain ⟨-, -, hwalk⟩ := bind_eq_ok.mp h
  obtain ⟨met, n, -, hleads⟩ := (walk_eq_ok_iff hlink).mp hwalk
  exact hleads.plain ht (ht.start p).plain target hlink

/-! ## Paths from the root -/

/-- On the way down to an entry that is no link, no link is met. -/
theorem leg_front (ht : t.WellFormed) (front : Location) {back : Location}
    (hfind : t.find? (front ++ back) = some e) (hplain : ∀ target, e ≠ .link target) :
    leg t .target front back ≠ .error .linkLoop ∧
      ∀ start more, leg t .target front back ≠ .ok (.onto start more) := by
  induction back generalizing front with
  | nil => simp [leg]
  | cons name rest ih =>
    obtain ⟨mode, hmode⟩ := ht.isDirectory_front front hfind (by simp)
    obtain ⟨hname, -⟩ := ht.names _ e hfind name (List.mem_append_right front List.mem_cons_self)
    by_cases hsearch : t.allows .search front = true
    · have hopen : t.Open front := ⟨⟨mode, hmode⟩, hsearch⟩
      have hthere : ∃ e', t.find? (front ++ [name]) = some e' ∧ ∀ target, e' ≠ .link target := by
        cases rest with
        | nil => exact ⟨e, hfind, hplain⟩
        | cons next more =>
          have hbelow : t.find? ((front ++ [name]) ++ next :: more) = some e := by
            rwa [List.append_assoc]
          obtain ⟨mode', hmode'⟩ := ht.isDirectory_front (front ++ [name]) hbelow (by simp)
          exact ⟨_, hmode', by simp⟩
      obtain ⟨e', hfind', hplain'⟩ := hthere
      rw [leg_entry (by simp) hopen hname hfind' hplain']
      exact ih (front ++ [name]) (by rwa [List.append_assoc])
    · rw [leg, hmode]
      simp [hname.nonempty, hsearch]

/-- The path of an entry that is no link does not lead in a circle. -/
theorem isCircle_eq_false (ht : t.WellFormed) (hfind : t.find? l = some e)
    (hplain : ∀ target, e ≠ .link target) : t.isCircle ⟨"/", l⟩ = false := by
  have hleg := leg_front ht [] hfind hplain
  have hstat : t.stat ⟨"/", l⟩ ≠ .error .linkLoop := by
    intro h
    rcases bind_eq_error.mp h with h | ⟨l', -, h⟩
    · rcases bind_eq_error.mp h with h | ⟨-, -, h⟩
      · unfold checkPath at h
        split at h
        · simp at h
        · split at h <;> simp at h
      · change walk t .target mostLinks [] l = _ at h
        unfold walk at h
        rcases bind_eq_error.mp h with h | ⟨found, h, hfound⟩
        · exact hleg.1 h
        · cases found with
          | arrived l' => simp [pure, Except.pure] at hfound
          | onto start more => exact hleg.2 start more h
    · split at h <;> simp [pure, Except.pure] at h
  unfold isCircle
  split
  · next h => exact absurd h hstat
  · rfl

end

end FileTree

end ShaderBindings
