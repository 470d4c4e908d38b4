/-
  Where paths lead, link by link. `Leads` says it of the names of a path without a limit on
  links: the target of a link is walked to its end before the walk goes on behind it. The names
  that are met on the way are recorded, those in the targets of links among them, and the links
  are counted. Names lead to one place, in one way (`Leads.deterministic`).

  Walks by steps, which put the target of a link in front of the names that are left, come to
  the same ends (`walk_eq_ok_iff`). Why a walk fails is not said here.
-/
import ShaderBindings.FileTree.Lookup
import ShaderBindings.Proofs.Fallible

namespace ShaderBindings

namespace FileTree

open Fallible

/-- There is a directory at the location. -/
def IsDirectory (t : FileTree) (l : Location) : Prop := ∃ mode, t.find? l = some (.directory mode)

instance (t : FileTree) (l : Location) : Decidable (t.IsDirectory l) :=
  match h : t.find? l with
  | some (.directory mode) => .isTrue ⟨mode, h⟩
  | none => .isFalse fun ⟨_, hmode⟩ => by simp [h] at hmode
  | some (.file ..) => .isFalse fun ⟨_, hmode⟩ => by simp [h] at hmode
  | some (.link _) => .isFalse fun ⟨_, hmode⟩ => by simp [h] at hmode

/-- There is a directory at the location, and names may be looked up in it. -/
structure Open (t : FileTree) (l : Location) : Prop where
  directory : t.IsDirectory l
  search : t.allows .search l = true

/-- The name can be that of an entry. -/
structure IsName (name : String) : Prop where
  nonempty : name ≠ ""
  ne_dot : name ≠ "."
  ne_dots : name ≠ ".."
  short : name.utf8ByteSize ≤ longestName

instance (t : FileTree) (l : Location) : Decidable (t.Open l) :=
  decidable_of_iff (t.IsDirectory l ∧ t.allows .search l = true)
    ⟨fun h => ⟨h.1, h.2⟩, fun h => ⟨h.directory, h.search⟩⟩

instance (name : String) : Decidable (IsName name) :=
  decidable_of_iff (name ≠ "" ∧ name ≠ "." ∧ name ≠ ".." ∧ name.utf8ByteSize ≤ longestName)
    ⟨fun h => ⟨h.1, h.2.1, h.2.2.1, h.2.2.2⟩, fun h => ⟨h.nonempty, h.ne_dot, h.ne_dots, h.short⟩⟩

/-- The name says nothing: a dot where names may be looked up, or an empty one where a directory
is asked for. -/
def Skips (t : FileTree) (here : Location) (name : String) : Prop :=
  name = "" ∧ t.IsDirectory here ∨ name = "." ∧ t.Open here

/-- Names lead from one location to another, where there is an entry; with the names met on the way
and the number of links followed. -/
inductive Leads (t : FileTree) : Location → List String → List String → Nat → Location → Prop
  | nil {here : Location} : Leads t here [] [] 0 here
  | skip {here l : Location} {name : String} {rest met : List String} {n : Nat}
      (skips : t.Skips here name) (next : Leads t here rest met n l) :
      Leads t here (name :: rest) met n l
  | up {here l : Location} {rest met : List String} {n : Nat} (open_ : t.Open here)
      (next : Leads t here.dropLast rest met n l) : Leads t here (".." :: rest) (".." :: met) n l
  | entry {here l : Location} {name : String} {rest met : List String} {n : Nat} {e : Entry}
      (open_ : t.Open here) (isName : IsName name) (find : t.find? (here ++ [name]) = some e)
      (plain : ∀ target, e ≠ .link target) (next : Leads t (here ++ [name]) rest met n l) :
      Leads t here (name :: rest) (name :: met) n l
  | link {here there l : Location} {name target : String} {rest inside met : List String}
      {m n : Nat} (open_ : t.Open here) (isName : IsName name)
      (find : t.find? (here ++ [name]) = some (.link target))
      (follow : Leads t (targetStart here target) (targetNames target) inside m there)
      (next : Leads t there rest met n l) :
      Leads t here (name :: rest) (name :: inside ++ met) (m + 1 + n) l

section

variable {t : FileTree} {aim : Aim} {here there l : Location} {name target : String}
  {names rest met : List String} {n : Nat}

/-! ## One name -/

theorem Skips.directory (h : t.Skips here name) : t.IsDirectory here := by
  rcases h with ⟨-, hdir⟩ | ⟨-, hopen⟩
  · exact hdir
  · exact hopen.directory

theorem Skips.not_isName (h : t.Skips here name) : ¬ IsName name := by
  rcases h with ⟨rfl, -⟩ | ⟨rfl, -⟩
  · exact fun hname => hname.nonempty rfl
  · exact fun hname => hname.ne_dot rfl

theorem Skips.ne_dots (h : t.Skips here name) : name ≠ ".." := by
  rcases h with ⟨rfl, -⟩ | ⟨rfl, -⟩ <;> decide

theorem leg_skip (h : t.Skips here name) : leg t aim here (name :: rest) = leg t aim here rest := by
  obtain ⟨mode, hmode⟩ := h.directory
  rw [leg, hmode]
  rcases h with ⟨rfl, -⟩ | ⟨rfl, hopen⟩
  · rfl
  · simp [hopen.search]

theorem leg_up (h : t.Open here) :
    leg t aim here (".." :: rest) = leg t aim here.dropLast rest := by
  obtain ⟨mode, hmode⟩ := h.directory
  rw [leg, hmode]
  simp [h.search]

theorem leg_name (haim : aim ≠ .file) (h : t.Open here) (hname : IsName name) :
    leg t aim here (name :: rest) =
      match t.find? (here ++ [name]) with
      | none => if rest.isEmpty then .ok (.arrived (here ++ [name])) else .error .notFound
      | some (.link target) =>
        if rest = [] ∧ aim = .entry then .ok (.arrived (here ++ [name]))
        else .ok (.onto (targetStart here target) (targetNames target ++ rest))
      | some _ => leg t aim (here ++ [name]) rest := by
  obtain ⟨mode, hmode⟩ := h.directory
  rw [leg, hmode]
  refine (if_neg hname.nonempty).trans ?_
  refine (if_neg (by simp [h.search])).trans ?_
  refine (if_neg hname.ne_dot).trans ?_
  refine (if_neg hname.ne_dots).trans ?_
  refine (if_neg fun hfile => haim hfile.1).trans ?_
  exact if_neg (Nat.not_lt.mpr hname.short)

theorem leg_entry {e : Entry} (haim : aim ≠ .file) (h : t.Open here) (hname : IsName name)
    (hfind : t.find? (here ++ [name]) = some e) (hplain : ∀ target, e ≠ .link target) :
    leg t aim here (name :: rest) = leg t aim (here ++ [name]) rest := by
  rw [leg_name haim h hname, hfind]
  cases e with
  | link target => exact absurd rfl (hplain target)
  | file bytes mode => rfl
  | directory mode => rfl

theorem leg_link (h : t.Open here) (hname : IsName name)
    (hfind : t.find? (here ++ [name]) = some (.link target)) :
    leg t .target here (name :: rest) =
      .ok (.onto (targetStart here target) (targetNames target ++ rest)) := by
  rw [leg_name (by simp) h hname, hfind]
  simp

/-- What a leg does with a name: it says nothing, goes up, or is looked up. -/
theorem leg_cons_cases {found : Leg} (h : leg t aim here (name :: rest) = .ok found) :
    t.Skips here name ∨ t.Open here ∧ (name = ".." ∨ IsName name) := by
  rw [leg] at h
  split at h
  · simp at h
  · next mode hmode =>
    have hdir : t.IsDirectory here := ⟨mode, hmode⟩
    by_cases hblank : name = ""
    · exact .inl (.inl ⟨hblank, hdir⟩)
    · by_cases hsearch : t.allows .search here = true
      · have hopen : t.Open here := ⟨hdir, hsearch⟩
        by_cases hdot : name = "."
        · exact .inl (.inr ⟨hdot, hopen⟩)
        · by_cases hdots : name = ".."
          · exact .inr ⟨hopen, .inl hdots⟩
          · refine .inr ⟨hopen, .inr ⟨hblank, hdot, hdots, Nat.not_lt.mp fun hlong => ?_⟩⟩
            simp only [hblank, hsearch, hdot, hdots, hlong, Bool.not_true, Bool.false_eq_true,
              if_false, if_true] at h
            split at h <;> simp at h
      · simp [hblank, hsearch] at h
  · simp at h

/-! ## Names one after another -/

namespace Leads

theorem append (h : Leads t here names met n there) {met' : List String} {n' : Nat}
    (h' : Leads t there rest met' n' l) :
    Leads t here (names ++ rest) (met ++ met') (n + n') l := by
  induction h with
  | nil => rwa [Nat.zero_add]
  | skip hskip _ ih => exact .skip hskip (ih h')
  | up hopen _ ih => exact .up hopen (ih h')
  | entry hopen hname hfind hplain _ ih => exact .entry hopen hname hfind hplain (ih h')
  | link hopen hname hfind hfollow _ _ ih =>
    rw [Nat.add_assoc (_ + 1), List.append_assoc]
    exact .link hopen hname hfind hfollow (ih h')

/-- What leads on behind some names leads somewhere up to there. -/
theorem split (h : Leads t here (names ++ rest) met n l) :
    ∃ there met₁ met₂ n₁ n₂, Leads t here names met₁ n₁ there ∧ Leads t there rest met₂ n₂ l ∧
      met = met₁ ++ met₂ ∧ n = n₁ + n₂ := by
  induction names generalizing here met n with
  | nil => exact ⟨here, [], met, 0, n, .nil, h, rfl, (Nat.zero_add n).symm⟩
  | cons name names ih =>
    rw [List.cons_append] at h
    cases h with
    | skip hskip hnext =>
      obtain ⟨there, met₁, met₂, n₁, n₂, h₁, h₂, rfl, rfl⟩ := ih hnext
      exact ⟨there, met₁, met₂, n₁, n₂, .skip hskip h₁, h₂, rfl, rfl⟩
    | up hopen hnext =>
      obtain ⟨there, met₁, met₂, n₁, n₂, h₁, h₂, rfl, rfl⟩ := ih hnext
      exact ⟨there, ".." :: met₁, met₂, n₁, n₂, .up hopen h₁, h₂, rfl, rfl⟩
    | entry hopen hname hfind hplain hnext =>
      obtain ⟨there, met₁, met₂, n₁, n₂, h₁, h₂, rfl, rfl⟩ := ih hnext
      exact ⟨there, name :: met₁, met₂, n₁, n₂, .entry hopen hname hfind hplain h₁, h₂, rfl, rfl⟩
    | @link _ _ _ _ _ _ inside _ m _ hopen hname hfind hfollow hnext =>
      obtain ⟨there, met₁, met₂, n₁, n₂, h₁, h₂, rfl, rfl⟩ := ih hnext
      exact ⟨there, name :: inside ++ met₁, met₂, m + 1 + n₁, n₂,
        .link hopen hname hfind hfollow h₁, h₂, (List.append_assoc _ _ _).symm,
        (Nat.add_assoc _ _ _).symm⟩

/-- Names lead to one place, in one way. -/
theorem deterministic (h : Leads t here names met n l) {met' : List String} {n' : Nat}
    {l' : Location} (h' : Leads t here names met' n' l') : met = met' ∧ n = n' ∧ l = l' := by
  induction h generalizing met' n' l' with
  | nil =>
    cases h'
    exact ⟨rfl, rfl, rfl⟩
  | skip hskip _ ih =>
    cases h' with
    | skip _ hnext => exact ih hnext
    | up => exact absurd rfl hskip.ne_dots
    | entry _ hname => exact absurd hname hskip.not_isName
    | link _ hname => exact absurd hname hskip.not_isName
  | up _ _ ih =>
    cases h' with
    | skip hskip => exact absurd rfl hskip.ne_dots
    | up _ hnext =>
      obtain ⟨rfl, rfl, rfl⟩ := ih hnext
      exact ⟨rfl, rfl, rfl⟩
    | entry _ hname => exact absurd rfl hname.ne_dots
    | link _ hname => exact absurd rfl hname.ne_dots
  | entry _ hname hfind hplain _ ih =>
    cases h' with
    | skip hskip => exact absurd hname hskip.not_isName
    | up => exact absurd rfl hname.ne_dots
    | entry _ _ _ _ hnext =>
      obtain ⟨rfl, rfl, rfl⟩ := ih hnext
      exact ⟨rfl, rfl, rfl⟩
    | link _ _ hfind' =>
      rw [hfind] at hfind'
      exact absurd (Option.some.inj hfind') (hplain _)
  | link _ hname hfind _ _ ihfollow ihnext =>
    cases h' with
    | skip hskip => exact absurd hname hskip.not_isName
    | up => exact absurd rfl hname.ne_dots
    | entry _ _ hfind' hplain' =>
      rw [hfind] at hfind'
      exact absurd (Option.some.inj hfind').symm (hplain' _)
    | link _ _ hfind' hfollow' hnext' =>
      rw [hfind] at hfind'
      obtain rfl := Entry.link.inj (Option.some.inj hfind')
      obtain ⟨rfl, rfl, rfl⟩ := ihfollow hfollow'
      obtain ⟨rfl, rfl, rfl⟩ := ihnext hnext'
      exact ⟨rfl, rfl, rfl⟩

/-- What leads to a directory starts in one. -/
theorem directory (h : Leads t here names met n l) (hl : t.IsDirectory l) : t.IsDirectory here := by
  cases h with
  | nil => exact hl
  | skip hskip => exact hskip.directory
  | up hopen => exact hopen.directory
  | entry hopen => exact hopen.directory
  | link hopen => exact hopen.directory

end Leads

/-! ## Walks by steps -/

/-- Legs that meet the same end make the same walk. -/
theorem walk_congr {links : Nat} {names' : List String}
    (h : leg t aim here names = leg t aim there names') :
    walk t aim links here names = walk t aim links there names' := by
  unfold walk
  rw [h]

/-- A walk passes over names that lead somewhere, and follows their links. -/
theorem walk_append (h : Leads t here names met n there) (links : Nat) (rest : List String) :
    walk t .target (links + n) here (names ++ rest) = walk t .target links there rest := by
  induction h generalizing links rest with
  | nil => rfl
  | skip hskip _ ih =>
    rw [List.cons_append, walk_congr (leg_skip hskip)]
    exact ih links rest
  | up hopen _ ih =>
    rw [List.cons_append, walk_congr (leg_up hopen)]
    exact ih links rest
  | entry hopen hname hfind hplain _ ih =>
    rw [List.cons_append, walk_congr (leg_entry (by simp) hopen hname hfind hplain)]
    exact ih links rest
  | @link here there l name target more inside met m n hopen hname hfind _ _ ihfollow ihnext =>
    have hlinks : links + (m + 1 + n) = links + n + m + 1 := by omega
    rw [List.cons_append, hlinks, walk, leg_link hopen hname hfind, ok_bind]
    simp only
    rw [ihfollow (links + n) (more ++ rest)]
    exact ihnext links rest

/-- A leg that arrives has followed no link. -/
theorem leads_of_leg_arrived (h : leg t .target here names = .ok (.arrived l)) {e : Entry}
    (hfind : t.find? l = some e) : ∃ met, Leads t here names met 0 l := by
  induction names generalizing here with
  | nil =>
    obtain rfl := Leg.arrived.inj (Except.ok.inj h)
    exact ⟨[], .nil⟩
  | cons name rest ih =>
    rcases leg_cons_cases h with hskip | ⟨hopen, rfl | hname⟩
    · rw [leg_skip hskip] at h
      obtain ⟨met, hmet⟩ := ih h
      exact ⟨met, .skip hskip hmet⟩
    · rw [leg_up hopen] at h
      obtain ⟨met, hmet⟩ := ih h
      exact ⟨".." :: met, .up hopen hmet⟩
    · rw [leg_name (by simp) hopen hname] at h
      split at h
      · next hthere =>
        split at h
        · obtain rfl := Leg.arrived.inj (Except.ok.inj h)
          rw [hthere] at hfind
          simp at hfind
        · simp at h
      · simp at h
      · next e' hplain hthere =>
        obtain ⟨met, hmet⟩ := ih h
        exact ⟨name :: met, .entry hopen hname hthere hplain hmet⟩

/-- A leg that comes onto a link leads where the target of the link does, with the names left behind
it. -/
theorem leads_of_leg_onto {start : Location} {names' : List String}
    (h : leg t .target here names = .ok (.onto start names'))
    (hnext : Leads t start names' met n l) : ∃ met', Leads t here names met' (n + 1) l := by
  induction names generalizing here with
  | nil => simp [leg] at h
  | cons name rest ih =>
    rcases leg_cons_cases h with hskip | ⟨hopen, rfl | hname⟩
    · rw [leg_skip hskip] at h
      obtain ⟨met, hmet⟩ := ih h
      exact ⟨met, .skip hskip hmet⟩
    · rw [leg_up hopen] at h
      obtain ⟨met, hmet⟩ := ih h
      exact ⟨".." :: met, .up hopen hmet⟩
    · rw [leg_name (by simp) hopen hname] at h
      split at h
      · split at h <;> simp at h
      · next target hthere =>
        simp only [reduceCtorEq, and_false, if_false] at h
        obtain ⟨rfl, rfl⟩ := Leg.onto.inj (Except.ok.inj h)
        obtain ⟨mid, inside, met', m, k, hfollow, hrest, -, rfl⟩ := hnext.split
        rw [Nat.add_right_comm]
        exact ⟨_, .link hopen hname hthere hfollow hrest⟩
      · next e' hplain hthere =>
        obtain ⟨met, hmet⟩ := ih h
        exact ⟨name :: met, .entry hopen hname hthere hplain hmet⟩

/-- A walk comes to an entry just when the names lead there over no more links than it may
follow. -/
theorem walk_eq_ok_iff {links : Nat} {e : Entry} (hfind : t.find? l = some e) :
    walk t .target links here names = .ok l ↔ ∃ met n, n ≤ links ∧ Leads t here names met n l := by
  constructor
  · intro h
    induction links generalizing here names with
    | zero =>
      rw [walk] at h
      obtain ⟨found, hleg, h⟩ := bind_eq_ok.mp h
      cases found with
      | arrived l' =>
        obtain rfl := pure_eq_ok.mp h
        obtain ⟨met, hmet⟩ := leads_of_leg_arrived hleg hfind
        exact ⟨met, 0, Nat.le_refl 0, hmet⟩
      | onto start names' => simp at h
    | succ links ih =>
      rw [walk] at h
      obtain ⟨found, hleg, h⟩ := bind_eq_ok.mp h
      cases found with
      | arrived l' =>
        obtain rfl := pure_eq_ok.mp h
        obtain ⟨met, hmet⟩ := leads_of_leg_arrived hleg hfind
        exact ⟨met, 0, Nat.zero_le _, hmet⟩
      | onto start names' =>
        obtain ⟨met, n, hn, hmet⟩ := ih h
        obtain ⟨met', hmet'⟩ := leads_of_leg_onto hleg hmet
        exact ⟨met', n + 1, Nat.succ_le_succ hn, hmet'⟩
  · rintro ⟨met, n, hn, hmet⟩
    obtain ⟨k, rfl⟩ := Nat.exists_eq_add_of_le' hn
    have hwalk := walk_append hmet k []
    rw [List.append_nil] at hwalk
    rw [hwalk, walk]
    rfl

end

end FileTree

end ShaderBindings
