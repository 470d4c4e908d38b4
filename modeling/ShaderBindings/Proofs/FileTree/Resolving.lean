/-
  The path behind a path is where the path leads, if it leads to an entry (`resolve_eq`). A
  trail keeps a path of its own, on which no link is met (`StandsFor`), and puts a name behind
  it at a time; the location at the end of that path is the one that a walk has come to, and so
  links are seen where a walk follows them.

  Two things keep a trail from following a link, and both are excluded on the way to an entry. A
  link that is met while it is followed has no end, so what is pending counts more links than
  what is left to walk (`Pends`); and a path that is too long is not looked up, so the names met
  on the way, taken together, must be no longer than a path may be. `foldl_follow` is the
  induction on the walk.

  Nothing is said about paths that lead to no entry.
-/
import Mathlib.Data.List.Perm.Subperm
import ShaderBindings.FileTree.Resolve
import ShaderBindings.Proofs.FileTree.PathName
import ShaderBindings.Proofs.FileTree.Walking
import ShaderBindings.Proofs.Keyed

namespace ShaderBindings

namespace FileTree

open PathName Fallible

/-! ## Paths without links -/

/-- Names lead from a location to another without a link on the way. -/
inductive Straight (t : FileTree) (start : Location) : List String → Location → Prop
  | nil : Straight t start [] start
  | up {names : List String} {l : Location} (before : Straight t start names l)
      (open_ : t.Open l) : Straight t start (names ++ [".."]) l.dropLast
  | entry {names : List String} {l : Location} {name : String} {e : Entry}
      (before : Straight t start names l) (open_ : t.Open l) (isName : IsName name)
      (find : t.find? (l ++ [name]) = some e) (plain : ∀ target, e ≠ .link target) :
      Straight t start (names ++ [name]) (l ++ [name])

/-- A path as a trail keeps it: one that meets no link on the way to a location. -/
structure StandsFor (t : FileTree) (here : PathName) (l : Location) : Prop where
  root : here.root = "" ∨ here.root = "/"
  straight : t.Straight (t.start here) here.parts l

/-- No name of an entry has a zero in it. -/
def ZeroFree (t : FileTree) : Prop :=
  ∀ l e, t.find? l = some e → ∀ name ∈ l, '\x00' ∉ name.toList

section

variable {t : FileTree} {aim : Aim} {start l : Location} {here : PathName} {name target : String}
  {names rest : List String}

namespace Straight

/-- The location at the end can be told from the names alone. -/
theorem advance_eq (h : t.Straight start names l) : Location.advance start names = l := by
  unfold Location.advance
  induction h with
  | nil => rfl
  | up _ _ ih =>
    rw [List.foldl_concat, ih]
    simp
  | entry _ _ hname _ _ ih =>
    rw [List.foldl_concat, ih]
    simp [hname.nonempty, hname.ne_dot, hname.ne_dots]

/-- A leg passes over them. -/
theorem leg_append (h : t.Straight start names l) (haim : aim ≠ .file) (rest : List String) :
    leg t aim start (names ++ rest) = leg t aim l rest := by
  induction h generalizing rest with
  | nil => rfl
  | up _ hopen ih =>
    rw [List.append_assoc, ih]
    exact leg_up hopen
  | entry _ hopen hname hfind hplain ih =>
    rw [List.append_assoc, ih]
    exact leg_entry haim hopen hname hfind hplain

theorem zeroFree (h : t.Straight start names l) (hzero : t.ZeroFree) :
    ∀ name ∈ names, '\x00' ∉ name.toList := by
  induction h with
  | nil => exact fun name hname => absurd hname List.not_mem_nil
  | up _ _ ih =>
    refine List.forall_mem_append.mpr ⟨ih, List.forall_mem_singleton.mpr ?_⟩
    decide
  | @entry _ l name e _ _ _ hfind _ ih =>
    refine List.forall_mem_append.mpr ⟨ih, List.forall_mem_singleton.mpr ?_⟩
    exact hzero _ e hfind name (List.mem_append_right l List.mem_cons_self)

end Straight

namespace StandsFor

/-- The path from the root to the location is told from the path. -/
theorem absolute_eq (h : t.StandsFor here l) : t.absolute here = ⟨"/", l⟩ := by
  unfold absolute
  rw [h.straight.advance_eq]
  rcases h.root with hroot | hroot
  · simp [isAbsolute, hroot]
  · simp [hroot]

/-- The path of the directory above stands for that directory. -/
theorem up (h : t.StandsFor here l) (hopen : t.Open l) :
    t.StandsFor here.up l.dropLast ∧ weight here.up.parts ≤ weight here.parts + weight [".."] := by
  obtain ⟨root, parts⟩ := here
  obtain ⟨hroot, hstraight⟩ := h
  change t.Straight (t.start ⟨root, []⟩) parts l at hstraight
  unfold PathName.up
  cases hstraight with
  | nil =>
    rcases hroot with rfl | rfl
    · exact ⟨⟨.inl rfl, .up .nil hopen⟩, Nat.le_refl _⟩
    · exact ⟨⟨.inr rfl, .nil⟩, Nat.le_add_right _ _⟩
  | @up names l hbefore hopen' =>
    have hparts : (names ++ [".."]).getLast? = some ".." := List.getLast?_concat
    simp only [hparts, if_true]
    exact ⟨⟨hroot, .up (.up hbefore hopen') hopen⟩, Nat.le_of_eq (weight_append _ _)⟩
  | @entry names l name e hbefore _ hname _ _ =>
    have hparts : (names ++ [name]).getLast? = some name := List.getLast?_concat
    simp only [hparts, if_neg hname.ne_dots, List.dropLast_concat]
    refine ⟨⟨hroot, hbefore⟩, ?_⟩
    rw [weight_append]
    omega

/-- The target of a link starts at the root or where the link is. -/
theorem targetStart (h : t.StandsFor here l) (target : String) :
    t.StandsFor (if target.startsWith "/" then ⟨"/", []⟩ else here) (targetStart l target) ∧
      weight (if target.startsWith "/" then ⟨"/", []⟩ else here : PathName).parts ≤
        weight here.parts := by
  unfold FileTree.targetStart
  split
  · exact ⟨⟨.inr rfl, .nil⟩, Nat.zero_le _⟩
  · exact ⟨h, Nat.le_refl _⟩

theorem child {e : Entry} (h : t.StandsFor here l) (hopen : t.Open l) (hname : IsName name)
    (hfind : t.find? (l ++ [name]) = some e) (hplain : ∀ target, e ≠ .link target) :
    t.StandsFor (here.child name) (l ++ [name]) :=
  ⟨h.root, .entry h.straight hopen hname hfind hplain⟩

/-- The location of a name behind the path. -/
theorem absolute_child (h : t.StandsFor here l) (hname : IsName name) :
    (t.absolute (here.child name)).parts = l ++ [name] := by
  change Location.advance (t.start here) (here.parts ++ [name]) = l ++ [name]
  have hadvance := h.straight.advance_eq
  unfold Location.advance at hadvance ⊢
  rw [List.foldl_concat, hadvance]
  simp [hname.nonempty, hname.ne_dot, hname.ne_dots]

/-- An entry under the path is looked up without following it. -/
theorem walk_child {e : Entry} (h : t.StandsFor here l) (hopen : t.Open l) (hname : IsName name)
    (hfind : t.find? (l ++ [name]) = some e) :
    walk t .entry mostLinks (t.start (here.child name)) (here.child name).parts =
      .ok (l ++ [name]) := by
  have hleg : leg t .entry (t.start here) (here.parts ++ [name]) =
      .ok (.arrived (l ++ [name])) := by
    rw [h.straight.leg_append (by simp), leg_name (by simp) hopen hname, hfind]
    cases e <;> rfl
  change walk t .entry mostLinks (t.start here) (here.parts ++ [name]) = _
  rw [walk, hleg]
  rfl

theorem checkPath_child {e : Entry} (h : t.StandsFor here l) (hzero : t.ZeroFree)
    (hfind : t.find? (l ++ [name]) = some e)
    (hshort : weight (here.child name).parts ≤ longestPath) :
    checkPath (here.child name) = .ok () := by
  have hne : (here.child name).parts ≠ [] := by simp [PathName.child]
  have hfree : (here.child name).ZeroFree := by
    refine ⟨?_, List.forall_mem_append.mpr ⟨h.straight.zeroFree hzero, ?_⟩⟩
    · change '\x00' ∉ here.root.toList
      rcases h.root with hroot | hroot <;> rw [hroot] <;> decide
    · refine List.forall_mem_singleton.mpr ?_
      exact hzero _ e hfind name (List.mem_append_right l List.mem_cons_self)
  have hsize : (here.child name).text.utf8ByteSize ≤ longestPath := by
    have hrootSize : here.root.utf8ByteSize ≤ 1 := by
      rcases h.root with hroot | hroot <;> rw [hroot] <;> decide
    have htext := size_text hne
    change _ = here.root.utf8ByteSize + _ at htext
    omega
  unfold checkPath
  rw [if_neg (by simpa using hfree.text), if_neg (Nat.not_lt.mpr hsize)]

theorem linkAt?_child (h : t.StandsFor here l) (hopen : t.Open l) (hname : IsName name)
    (hzero : t.ZeroFree) (hfind : t.find? (l ++ [name]) = some (.link target))
    (hshort : weight (here.child name).parts ≤ longestPath) :
    t.linkAt? (here.child name) = some target := by
  have hlocate : t.locate .entry (here.child name) = .ok (l ++ [name]) := by
    unfold locate
    rw [h.checkPath_child hzero hfind hshort, ok_bind, h.walk_child hopen hname hfind]
  unfold linkAt?
  rw [hlocate]
  simp [Except.toOption, hfind]

theorem linkAt?_child_eq_none {e : Entry} (h : t.StandsFor here l) (hopen : t.Open l)
    (hname : IsName name) (hfind : t.find? (l ++ [name]) = some e)
    (hplain : ∀ target, e ≠ .link target) : t.linkAt? (here.child name) = none := by
  unfold linkAt? locate
  rw [h.walk_child hopen hname hfind]
  cases checkPath (here.child name) with
  | error f => rfl
  | ok =>
    rw [ok_bind]
    cases e with
    | link target => exact absurd rfl (hplain target)
    | file bytes mode => simp [Except.toOption, hfind]
    | directory mode => simp [Except.toOption, hfind]

end StandsFor

end

/-! ## Trails, name by name -/

/-- What a trail does with one name. -/
def follow (t : FileTree) (depth : Nat) (pending : List PathName) :
    Trail × KnownLinks → String → Trail × KnownLinks
  | (.circle path left, known), name => (.circle path (left ++ [name]), known)
  | (.reached here, known), name =>
    if name = "" ∨ name = "." then (.reached here, known)
    else if name = ".." then (.reached here.up, known)
    else
      match t.linkAt? (here.child name), known.get? (here.child name) with
      | none, _ => (.reached (here.child name), known)
      | some _, some path => (.reached path, known)
      | some target, none =>
        if pending.contains (here.child name) then (.circle (here.child name) [], known)
        else
          let start := if target.startsWith "/" then ⟨"/", []⟩ else here
          match trail t depth (here.child name :: pending) known start
              (PathName.pieces target.toList) with
          | (.reached path, known) => (.reached path, known.put (here.child name) path)
          | found => found

section

variable {t : FileTree} {depth : Nat} {pending : List PathName} {known : KnownLinks}
  {here path : PathName} {name target : String} {names : List String}

theorem trail_succ : trail t (depth + 1) pending known here names =
    ((names.foldl (follow t depth pending) (.reached here, known)).1.closed,
      (names.foldl (follow t depth pending) (.reached here, known)).2) := rfl

/-- A trail ends where its last name has brought it. -/
theorem trail_eq_reached {known' : KnownLinks}
    (h : names.foldl (follow t depth pending) (.reached here, known) = (.reached path, known')) :
    trail t (depth + 1) pending known here names = (.reached path, known') := by
  rw [trail_succ, h]
  rfl

theorem follow_skip (h : name = "" ∨ name = ".") :
    follow t depth pending (.reached here, known) name = (.reached here, known) := by
  rw [follow, if_pos h]

theorem follow_up :
    follow t depth pending (.reached here, known) ".." = (.reached here.up, known) := by
  rw [follow, if_neg (by decide), if_pos rfl]

theorem follow_name (h : IsName name) :
    follow t depth pending (.reached here, known) name =
      match t.linkAt? (here.child name), known.get? (here.child name) with
      | none, _ => (.reached (here.child name), known)
      | some _, some path => (.reached path, known)
      | some target, none =>
        if pending.contains (here.child name) then (.circle (here.child name) [], known)
        else
          match trail t depth (here.child name :: pending) known
              (if target.startsWith "/" then ⟨"/", []⟩ else here)
              (PathName.pieces target.toList) with
          | (.reached path, known) => (.reached path, known.put (here.child name) path)
          | found => found := by
  rw [follow, if_neg (not_or.mpr ⟨h.nonempty, h.ne_dot⟩), if_neg h.ne_dots]

theorem follow_entry (h : IsName name) (hplain : t.linkAt? (here.child name) = none) :
    follow t depth pending (.reached here, known) name = (.reached (here.child name), known) := by
  rw [follow_name h, hplain]

/-- A link of which it is known where it leads. -/
theorem follow_known (h : IsName name) (hlink : t.linkAt? (here.child name) = some target)
    (hknown : known.get? (here.child name) = some path) :
    follow t depth pending (.reached here, known) name = (.reached path, known) := by
  rw [follow_name h, hlink, hknown]

/-- A link that is met for the first time. -/
theorem follow_link {known' : KnownLinks} (h : IsName name)
    (hlink : t.linkAt? (here.child name) = some target)
    (hunknown : known.get? (here.child name) = none) (hnew : here.child name ∉ pending)
    (htrail : trail t depth (here.child name :: pending) known
      (if target.startsWith "/" then ⟨"/", []⟩ else here) (PathName.pieces target.toList) =
        (.reached path, known')) :
    follow t depth pending (.reached here, known) name =
      (.reached path, known'.put (here.child name) path) := by
  have hcontains : pending.contains (here.child name) = false := by simpa using hnew
  rw [follow_name h, hlink, hunknown]
  simp only [hcontains, htrail, Bool.false_eq_true, if_false]

/-- A trail that has come to a circle reaches nothing any more. -/
theorem foldl_follow_circle (names left : List String) {known' : KnownLinks} :
    names.foldl (follow t depth pending) (.circle here left, known) ≠ (.reached path, known') := by
  induction names generalizing left with
  | nil => simp
  | cons name names ih => exact ih (left ++ [name])

/-- Names that say nothing make no difference to what a trail reaches. -/
theorem foldl_follow_filter (names : List String) {known' : KnownLinks} :
    (names.filter fun n => n ≠ "" ∧ n ≠ ".").foldl (follow t depth pending) (.reached here, known) =
        (.reached path, known') ↔
      names.foldl (follow t depth pending) (.reached here, known) = (.reached path, known') := by
  induction names generalizing here known with
  | nil => exact Iff.rfl
  | cons name names ih =>
    by_cases hsays : name ≠ "" ∧ name ≠ "."
    · rw [List.filter_cons_of_pos (by simpa using hsays), List.foldl_cons, List.foldl_cons]
      rcases follow t depth pending (.reached here, known) name with ⟨there | ⟨there, left⟩, _⟩
      · exact ih
      · exact iff_of_false (foldl_follow_circle _ left) (foldl_follow_circle _ left)
    · have hskip : name = "" ∨ name = "." := by
        rw [← not_and_or.trans (or_congr not_not not_not)]
        exact hsays
      rw [List.filter_cons_of_neg (by simpa using hsays), List.foldl_cons, follow_skip hskip]
      exact ih

/-- The pieces of a link's target and the names that a walk finds in it say the same. -/
theorem filter_targetNames (target : String) :
    (targetNames target).filter (fun n => n ≠ "" ∧ n ≠ ".") =
      (PathName.pieces target.toList).filter fun n => n ≠ "" ∧ n ≠ "." := by
  have hnames : (PathName.names target.toList).filter (fun n => n ≠ "" ∧ n ≠ ".") =
      PathName.names target.toList := by
    rw [PathName.names, List.filter_filter]
    simp
  unfold targetNames
  rw [List.filter_append, hnames]
  split
  · exact List.append_nil _
  · split <;> exact List.append_nil _

/-- A trail along the target of a link goes where the names lead that a walk finds in it. -/
theorem trail_pieces {known' : KnownLinks}
    (h : (targetNames target).foldl (follow t depth pending) (.reached here, known) =
      (.reached path, known')) :
    trail t (depth + 1) pending known here (PathName.pieces target.toList) =
      (.reached path, known') := by
  rw [← foldl_follow_filter, filter_targetNames, foldl_follow_filter] at h
  exact trail_eq_reached h

end

/-! ## Trails to entries -/

/-- The link at a location leads to another one. -/
def LinkLeads (t : FileTree) (link : Location) (met : List String) (n : Nat) (l : Location) :
    Prop :=
  ∃ target, t.find? link = some (.link target) ∧
    Leads t (targetStart link.dropLast target) (targetNames target) met n l

/-- What is known of links is true: the paths stand for where they lead, and are no longer than the
names on the way there. -/
def Tells (t : FileTree) (known : KnownLinks) : Prop :=
  ∀ q path, known.get? q = some path → ∃ met n l, LinkLeads t (t.absolute q).parts met n l ∧
    t.StandsFor path l ∧ weight path.parts ≤ weight q.parts + weight met

/-- Links are pending while so many are left to follow: each of them leads over that many at least,
and no two are the same. -/
structure Pends (t : FileTree) (pending : List PathName) (n : Nat) : Prop where
  counts : ∀ q ∈ pending, ∃ met m l, LinkLeads t (t.absolute q).parts met m l ∧ n ≤ m
  nodup : (pending.map fun q => (t.absolute q).parts).Nodup

section

variable {t : FileTree} {depth : Nat} {pending : List PathName} {known : KnownLinks}
  {here path : PathName} {link l : Location} {name target : String} {names met : List String}
  {m n : Nat}

theorem LinkLeads.deterministic (h : LinkLeads t link met n l) {met' : List String} {n' : Nat}
    {l' : Location} (h' : LinkLeads t link met' n' l') : met = met' ∧ n = n' ∧ l = l' := by
  obtain ⟨target, hfind, hleads⟩ := h
  obtain ⟨target', hfind', hleads'⟩ := h'
  rw [hfind] at hfind'
  obtain rfl := Entry.link.inj (Option.some.inj hfind')
  exact hleads.deterministic hleads'

theorem Tells.put (h : t.Tells known) {q : PathName}
    (hlink : LinkLeads t (t.absolute q).parts met n l) (hpath : t.StandsFor path l)
    (hshort : weight path.parts ≤ weight q.parts + weight met) : t.Tells (known.put q path) := by
  intro q' path' hget
  rw [Keyed.get?_put] at hget
  split at hget
  · next hq =>
    subst hq
    obtain rfl := Option.some.inj hget
    exact ⟨met, n, l, hlink, hpath, hshort⟩
  · exact h q' path' hget

namespace Pends

theorem mono (h : t.Pends pending n) (hm : m ≤ n) : t.Pends pending m := by
  refine ⟨fun q hq => ?_, h.nodup⟩
  obtain ⟨met, k, l, hlink, hk⟩ := h.counts q hq
  exact ⟨met, k, l, hlink, Nat.le_trans hm hk⟩

/-- A link that is followed next is none of those that are pending. -/
theorem cons (h : t.Pends pending n) {q : PathName}
    (hlink : LinkLeads t (t.absolute q).parts met m l) (hm : m < n) :
    t.Pends (q :: pending) m := by
  refine ⟨List.forall_mem_cons.mpr ⟨⟨met, m, l, hlink, Nat.le_refl m⟩, ?_⟩, ?_⟩
  · exact (h.mono (Nat.le_of_lt hm)).counts
  · rw [List.map_cons, List.nodup_cons]
    refine ⟨fun hmem => ?_, h.nodup⟩
    obtain ⟨q', hq', hsame⟩ := List.mem_map.mp hmem
    obtain ⟨met', k, l', hlink', hk⟩ := h.counts q' hq'
    rw [hsame] at hlink'
    obtain ⟨-, rfl, -⟩ := hlink.deterministic hlink'
    omega

theorem notMem (h : t.Pends (here :: pending) n) : here ∉ pending := by
  intro hmem
  exact (List.nodup_cons.mp h.nodup).1 (List.mem_map_of_mem hmem)

/-- No more links are pending than there are entries. -/
theorem length_le (h : t.Pends pending n) : pending.length ≤ t.mostPending := by
  have hsub : (pending.map fun q => (t.absolute q).parts) ⊆ t.entries.map Prod.fst := by
    intro link hmem
    obtain ⟨q, hq, rfl⟩ := List.mem_map.mp hmem
    obtain ⟨-, -, -, ⟨target, hfind, -⟩, -⟩ := h.counts q hq
    exact List.mem_map_of_mem (Keyed.mem_of_get? hfind)
  have hlength := (h.nodup.subperm hsub).length_le
  rw [List.length_map, List.length_map] at hlength
  have hmost : t.entries.length ≤ t.mostPending := by
    unfold mostPending
    exact Nat.le_mul_of_pos_left _ (by omega)
  exact Nat.le_trans hlength hmost

/-- There is depth left for a link that is followed next. -/
theorem exists_depth (h : t.Pends (here :: pending) n)
    (hdepth : depth + pending.length = t.mostPending) :
    ∃ depth', depth = depth' + 1 ∧ depth' + (here :: pending).length = t.mostPending := by
  have hlength := h.length_le
  rw [List.length_cons] at hlength ⊢
  exact ⟨depth - 1, by omega, by omega⟩

end Pends

/-- A trail along names that lead to an entry reaches a path that stands for its location. The
induction is on the walk; at a link, what is pending tells that the link is not being followed
already, and what is known of it is where the walk goes. -/
theorem foldl_follow (hzero : t.ZeroFree) {start : Location}
    (h : Leads t start names met n l) (hstart : t.StandsFor here start)
    (hshort : weight here.parts + weight met ≤ longestPath) (hpends : t.Pends pending n)
    (hdepth : depth + pending.length = t.mostPending) (hknown : t.Tells known) :
    ∃ path known', names.foldl (follow t depth pending) (.reached here, known) =
        (.reached path, known') ∧
      t.StandsFor path l ∧ weight path.parts ≤ weight here.parts + weight met ∧
        t.Tells known' := by
  induction h generalizing here depth pending known with
  | nil => exact ⟨here, known, rfl, hstart, Nat.le_add_right _ _, hknown⟩
  | skip hskip _ ih =>
    have hname : follow t depth pending (.reached here, known) _ = _ :=
      follow_skip (hskip.imp And.left And.left)
    rw [List.foldl_cons, hname]
    exact ih hstart hshort hpends hdepth hknown
  | up hopen _ ih =>
    obtain ⟨hup, hupShort⟩ := hstart.up hopen
    rw [weight_cons] at hshort ⊢
    rw [weight_cons, weight_nil] at hupShort
    obtain ⟨path, known', hfold, hpath, hpathShort, hknown'⟩ :=
      ih hup (by omega) hpends hdepth hknown
    refine ⟨path, known', ?_, hpath, by omega, hknown'⟩
    rw [List.foldl_cons, follow_up, hfold]
  | @entry start l name rest met n e hopen hname hfind hplain _ ih =>
    have hchild := hstart.child hopen hname hfind hplain
    have hchildShort : weight (here.child name).parts = weight here.parts + weight [name] :=
      weight_append _ _
    rw [weight_cons] at hshort ⊢
    rw [weight_cons, weight_nil] at hchildShort
    obtain ⟨path, known', hfold, hpath, hpathShort, hknown'⟩ :=
      ih hchild (by omega) hpends hdepth hknown
    refine ⟨path, known', ?_, hpath, by omega, hknown'⟩
    have hseen : t.linkAt? (here.child name) = none :=
      hstart.linkAt?_child_eq_none hopen hname hfind hplain
    rw [List.foldl_cons, follow_entry hname hseen, hfold]
  | @link start there l name target rest inside met m n hopen hname hfind hfollow _ ihfollow
      ihnext =>
    have hlink : LinkLeads t (t.absolute (here.child name)).parts inside m there := by
      rw [hstart.absolute_child hname]
      exact ⟨target, hfind, by rwa [List.dropLast_concat]⟩
    have hchildShort : weight (here.child name).parts = weight here.parts + weight [name] :=
      weight_append _ _
    rw [weight_append, weight_cons] at hshort ⊢
    rw [weight_cons, weight_nil] at hchildShort
    have hseen : t.linkAt? (here.child name) = some target :=
      hstart.linkAt?_child hopen hname hzero hfind (by omega)
    -- whether the link is known or followed now, the trail goes on from where it leads
    have hstep : ∃ path known', follow t depth pending (.reached here, known) name =
        (.reached path, known') ∧ t.StandsFor path there ∧
          weight path.parts ≤ weight (here.child name).parts + weight inside ∧ t.Tells known' := by
      cases hget : known.get? (here.child name) with
      | some path =>
        obtain ⟨inside', m', there', hlink', hpath, hpathShort⟩ := hknown _ path hget
        obtain ⟨rfl, rfl, rfl⟩ := hlink.deterministic hlink'
        exact ⟨path, known, follow_known hname hseen hget, hpath, hpathShort, hknown⟩
      | none =>
        have hpends' : t.Pends (here.child name :: pending) m := hpends.cons hlink (by omega)
        obtain ⟨depth', rfl, hdepth'⟩ := hpends'.exists_depth hdepth
        obtain ⟨hinner, hinnerShort⟩ := hstart.targetStart target
        obtain ⟨path, known', hfold, hpath, hpathShort, hknown'⟩ :=
          ihfollow hinner (by omega) hpends' hdepth' hknown
        exact ⟨path, known'.put (here.child name) path,
          follow_link hname hseen hget hpends'.notMem (trail_pieces hfold), hpath, by omega,
          hknown'.put hlink hpath (by omega)⟩
    obtain ⟨path, known', hfound, hpath, hpathShort, hknown'⟩ := hstep
    obtain ⟨path', known'', hfold, hpath', hpathShort', hknown''⟩ :=
      ihnext hpath (by omega) (hpends.mono (by omega)) hdepth hknown'
    refine ⟨path', known'', ?_, hpath', by omega, hknown''⟩
    rw [List.foldl_cons, hfound, hfold]

/-- A path that leads to an entry resolves to the path of that entry from the root, if the names met
on the way are no longer than a path may be. -/
theorem resolve_eq {p : PathName} (hzero : t.ZeroFree)
    (h : Leads t (t.start p) p.parts met n l) (hshort : weight met ≤ longestPath) :
    t.resolve p = ⟨"/", l⟩ := by
  have hstart : t.StandsFor ⟨if p.isAbsolute then "/" else "", []⟩ (t.start p) := by
    unfold start
    cases p.isAbsolute with
    | false => exact ⟨.inl rfl, .nil⟩
    | true => exact ⟨.inr rfl, .nil⟩
  have hpends : t.Pends [] n := ⟨fun q hq => absurd hq List.not_mem_nil, List.nodup_nil⟩
  have hknown : t.Tells [] := fun q path hget => absurd hget (by simp)
  have hdepth : t.mostPending + ([] : List PathName).length = t.mostPending := rfl
  obtain ⟨path, known, hfold, hpath, -, -⟩ := foldl_follow hzero h hstart
    (by rw [weight_nil]; omega) hpends hdepth hknown
  unfold resolve
  simp only [trail_eq_reached hfold, Trail.path]
  exact hpath.absolute_eq

end

end FileTree

end ShaderBindings
