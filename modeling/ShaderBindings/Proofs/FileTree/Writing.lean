/-
  Writing a text to a file, as a whole (`WritesWhole`). A write is refused and changes nothing,
  or it puts a file in the place that the path names, with the permissions that were found there
  (`PriorMode`), and changes nothing else; a link in that place gives way to the file, and what
  it led to is as before. The same write again changes nothing (`again`).

  What is told about the file afterwards is true of it if the path still leads to it
  (`LeadsTo.resolve_eq`). It need not: the file may have taken the place of a link that the path
  went through on the way to that place. Then the path of the file is looked for where it is
  not, and if it leads in a circle there, the write breaks down with the file in place.

  Trees are taken to be well-formed and paths to be without a zero (`ne_zero_of_attempt`).
-/
import ShaderBindings.Generation
import ShaderBindings.Proofs.FileTree.Replacing
import ShaderBindings.Proofs.FileTree.WellFormed

namespace ShaderBindings

namespace FileTree

open Fallible

section

variable {t after : FileTree} {p : PathName} {bytes : Bytes} {here l : Location} {mode : Nat}
  {names met : List String} {n : Nat} {f nameless : FileFault}

/-! ## Places -/

/-- The place that a path names is in a directory, under the last name of the path. -/
structure Placed (t : FileTree) (p : PathName) (parent l : Location) : Prop where
  checked : checkPath p = .ok ()
  located : t.locate .target p.parent = .ok parent
  open_ : t.Open parent
  nonempty : p.name ≠ ""
  ne_dots : p.name ≠ ".."
  short : p.name.utf8ByteSize ≤ longestName
  eq : l = parent ++ [p.name]

theorem placed_of_place (h : t.place nameless p = .ok l) : ∃ parent, t.Placed p parent l := by
  obtain ⟨⟨⟩, hchecked, h⟩ := bind_eq_ok.mp h
  obtain ⟨parent, hlocated, h⟩ := bind_eq_ok.mp h
  refine ⟨parent, ?_⟩
  split at h
  · simp at h
  · next mode hmode =>
    obtain ⟨⟨⟩, hdemand, h⟩ := bind_eq_ok.mp h
    have hsearch : t.allows .search parent = true := by
      unfold demand at hdemand
      split at hdemand
      · assumption
      · simp at hdemand
    split at h
    · simp at h
    · next hname =>
      rw [not_or] at hname
      split at h
      · simp at h
      · next hlong =>
        exact ⟨hchecked, hlocated, ⟨⟨mode, hmode⟩, hsearch⟩, hname.1, hname.2,
          Nat.not_lt.mp hlong, (pure_eq_ok.mp h).symm⟩
  · simp at h

/-! ## The same write again -/

namespace Replacement

theorem find?_place (h : t.Replacement p bytes l mode after) :
    after.find? l = some (.file bytes mode) := by
  rw [h.after_eq, find?_put, if_pos rfl]

theorem find?_other (h : t.Replacement p bytes l mode after) {other : Location}
    (hne : other ≠ l) : after.find? other = t.find? other := by
  rw [h.after_eq, find?_put, if_neg (Ne.symm hne)]

/-- What is a directory afterwards was one before. -/
theorem isDirectory (h : t.Replacement p bytes l mode after) (hdir : after.IsDirectory here) :
    here ≠ l ∧ t.IsDirectory here := by
  obtain ⟨m, hm⟩ := hdir
  have hne : here ≠ l := by
    rintro rfl
    rw [h.find?_place] at hm
    simp at hm
  exact ⟨hne, m, by rw [← h.find?_other hne, hm]⟩

theorem open_ (h : t.Replacement p bytes l mode after) (hopen : after.Open here) : t.Open here := by
  obtain ⟨hne, hdir⟩ := h.isDirectory hopen.directory
  have hallows : after.allows .search here = t.allows .search here := by
    unfold allows
    rw [h.find?_other hne, h.after_eq]
    rfl
  exact ⟨hdir, by rw [← hallows, hopen.search]⟩

/-- Names that lead to a directory afterwards have led there before: the way is not over the
file. -/
theorem leads_before (h : t.Replacement p bytes l mode after) {there : Location}
    (hleads : Leads after here names met n there) (hthere : after.IsDirectory there) :
    Leads t here names met n there := by
  induction hleads with
  | nil => exact .nil
  | skip hskip _ ih =>
    refine .skip ?_ (ih hthere)
    rcases hskip with ⟨hname, hdir⟩ | ⟨hname, hopen⟩
    · exact .inl ⟨hname, (h.isDirectory hdir).2⟩
    · exact .inr ⟨hname, h.open_ hopen⟩
  | up hopen _ ih => exact .up (h.open_ hopen) (ih hthere)
  | entry hopen hname hfind hplain hnext ih =>
    obtain ⟨hne, -⟩ := h.isDirectory (hnext.directory hthere)
    exact .entry (h.open_ hopen) hname (h.find?_other hne ▸ hfind) hplain (ih hthere)
  | @link here _ _ name _ _ _ _ _ _ hopen hname hfind _ hnext ihfollow ihnext =>
    have hne : here ++ [name] ≠ l := by
      intro hl
      rw [hl, h.find?_place] at hfind
      simp at hfind
    exact .link (h.open_ hopen) hname (h.find?_other hne ▸ hfind)
      (ihfollow (hnext.directory hthere)) (ihnext hthere)

/-- A path whose parent still leads to the same directory leads to the file. -/
theorem locate_after (h : t.Replacement p bytes l mode after) {parent : Location}
    (hplaced : after.Placed p parent l) (hdot : p.name ≠ ".") :
    after.locate .target p = .ok l := by
  have hparts := PathName.parts_eq hplaced.nonempty
  obtain ⟨⟨⟩, -, hwalk⟩ := bind_eq_ok.mp hplaced.located
  obtain ⟨m, hm⟩ := hplaced.open_.directory
  obtain ⟨met, n, hn, hleads⟩ := (walk_eq_ok_iff hm).mp hwalk
  have hname : IsName p.name := ⟨hplaced.nonempty, hdot, hplaced.ne_dots, hplaced.short⟩
  have hlast : Leads after parent [p.name] [p.name] 0 l := by
    have hfile := h.find?_place
    rw [hplaced.eq] at hfile ⊢
    exact .entry hplaced.open_ hname hfile (by simp) .nil
  have hall : Leads after (after.start p) p.parts (met ++ [p.name]) n l := by
    rw [hparts]
    exact hleads.append hlast
  unfold locate
  rw [hplaced.checked, ok_bind]
  exact (walk_eq_ok_iff h.find?_place).mpr ⟨_, n, hn, hall⟩

/-- A second write finds the file in the place that the path names, with its permissions, or is
refused. -/
theorem again (h : t.Replacement p bytes l mode after) (hdot : p.name ≠ ".") :
    (after.attempt p bytes).2 = after := by
  cases hattempt : after.attempt p bytes with
  | mk result left =>
    cases result with
    | error f => exact attempt_eq_error hattempt
    | ok l' =>
      obtain ⟨mode', h'⟩ := attempt_eq_ok hattempt
      obtain ⟨parent, hplaced⟩ := placed_of_place h.place
      obtain ⟨parent', hplaced'⟩ := placed_of_place h'.place
      have hstart : after.start p.parent = t.start p.parent := by rw [h.after_eq]; rfl
      -- the parent of the path leads to the same directory as before
      have hparent : t.locate .target p.parent = .ok parent' := by
        obtain ⟨⟨⟩, hchecked, hwalk⟩ := bind_eq_ok.mp hplaced'.located
        obtain ⟨m, hm⟩ := hplaced'.open_.directory
        obtain ⟨met, n, hn, hleads⟩ := (walk_eq_ok_iff hm).mp hwalk
        obtain ⟨m', hm'⟩ := (h.isDirectory ⟨m, hm⟩).2
        unfold locate
        rw [hchecked, ok_bind]
        exact (walk_eq_ok_iff hm').mpr ⟨met, n, hn, hstart ▸ h.leads_before hleads ⟨m, hm⟩⟩
      rw [hplaced.located] at hparent
      obtain rfl := Except.ok.inj hparent
      obtain rfl : l' = l := by rw [hplaced.eq, hplaced'.eq]
      have hstat : after.stat p = .ok (.file bytes mode) := by
        unfold stat
        rw [h.locate_after hplaced' hdot, ok_bind, h.find?_place]
        rfl
      have hmode := h'.modeFor
      unfold FileTree.modeFor at hmode
      rw [hstat] at hmode
      obtain rfl := Except.ok.inj hmode
      change left = after
      rw [h'.after_eq, h.after_eq, put_put]

end Replacement

/-! ## Permissions -/

/-- The permissions that are found at a path, links followed, or those of a new file where nothing
is found. -/
def PriorMode (t : FileTree) (p : PathName) (mode : Nat) : Prop :=
  (∃ e, t.stat p = .ok e ∧ e.mode? = some mode) ∨
    t.stat p = .error .notFound ∧ mode = t.newFileMode

theorem priorMode_of_modeFor (ht : t.WellFormed) (h : t.modeFor p = .ok mode) :
    t.PriorMode p mode := by
  unfold modeFor at h
  split at h
  · next bytes m hstat => exact .inl ⟨_, hstat, congrArg some (Except.ok.inj h)⟩
  · next m hstat => exact .inl ⟨_, hstat, congrArg some (Except.ok.inj h)⟩
  · next target hstat =>
    obtain ⟨l, hlocate, hfound⟩ := bind_eq_ok.mp hstat
    split at hfound
    · next e hfind =>
      obtain rfl := pure_eq_ok.mp hfound
      exact absurd hfind (ht.plain_of_locate hlocate target)
    · simp at hfound
  · next hstat => exact .inr ⟨hstat, (Except.ok.inj h).symm⟩
  · simp at h

/-! ## Zeros -/

theorem zero_notMem_toDigits (n : Nat) : '\x00' ∉ Nat.toDigits 16 n := by
  induction n using Nat.strong_induction_on with
  | h n ih =>
    rw [Nat.toDigits_eq_if (by decide)]
    split
    · simp
    · next hlarge =>
      rw [List.mem_append, not_or]
      exact ⟨ih _ (by omega), by simp⟩

theorem zero_notMem_stamp (n : Nat) : '\x00' ∉ (stamp n).toList := by
  unfold stamp
  rw [String.toList_ofList, List.mem_append, not_or]
  exact ⟨fun h => absurd (List.eq_of_mem_replicate h) (by decide), zero_notMem_toDigits n⟩

/-- Going on from a location brings in no names but those that are given. -/
theorem mem_advance {name : String} {more : List String}
    (h : name ∈ Location.advance here more) : name ∈ here ∨ name ∈ more := by
  induction more generalizing here with
  | nil => exact .inl h
  | cons first rest ih =>
    rcases ih h with hmem | hmem
    · dsimp only at hmem
      split at hmem
      · exact .inl hmem
      · split at hmem
        · exact .inl (List.mem_of_mem_dropLast hmem)
        · rcases List.mem_append.mp hmem with hmem | hmem
          · exact .inl hmem
          · obtain rfl := List.mem_singleton.mp hmem
            exact .inr List.mem_cons_self
    · exact .inr (List.mem_cons_of_mem first hmem)

/-- There is no zero in the name of a temporary file. -/
theorem zeroFree_temporaryName (hp : p.ZeroFree) (hhome : ∀ name ∈ t.home, '\x00' ∉ name.toList) :
    (t.temporaryName p).ZeroFree := by
  have hdirectory : (t.absolute p.parent).ZeroFree := by
    constructor
    · unfold absolute
      dsimp only
      split
      · exact hp.root
      · decide
    · intro name hname
      rcases mem_advance hname with hmem | hmem
      · unfold start at hmem
        split at hmem
        · exact absurd hmem List.not_mem_nil
        · exact hhome name hmem
      · exact hp.parent.parts name hmem
  have hcandidate (n : Nat) : (⟨(t.absolute p.parent).root, (t.absolute p.parent).parts ++
      ["." ++ p.name ++ "." ++ stamp n ++ ".tmp"]⟩ : PathName).ZeroFree := by
    refine ⟨hdirectory.root, List.forall_mem_append.mpr ⟨hdirectory.parts, ?_⟩⟩
    have hname := hp.name
    have hstamp := zero_notMem_stamp n
    simp [hname, hstamp]
  unfold temporaryName
  dsimp only
  rw [List.find?_map]
  cases List.find? _ (List.range (t.entries.length + 1)) with
  | none => exact hcandidate 0
  | some n => exact hcandidate n

theorem leg_ne_zero (aim : Aim) (here : Location) (names : List String) :
    leg t aim here names ≠ .error .zeroInName := by
  induction names generalizing here with
  | nil => simp [leg]
  | cons name rest ih =>
    unfold leg
    cases t.find? here with
    | none => simp
    | some e =>
      cases e with
      | file bytes mode => simp
      | link target => simp
      | directory mode =>
        dsimp only
        cases t.find? (here ++ [name]) with
        | none => split_ifs <;> first | exact ih _ | simp
        | some e => cases e <;> dsimp only <;> split_ifs <;> first | exact ih _ | simp

theorem walk_ne_zero (aim : Aim) (links : Nat) (here : Location) (names : List String) :
    walk t aim links here names ≠ .error .zeroInName := by
  induction links generalizing here names with
  | zero =>
    unfold walk
    refine bind_ne_error (leg_ne_zero aim here names) fun found => ?_
    cases found <;> simp [pure, Except.pure]
  | succ links ih =>
    unfold walk
    refine bind_ne_error (leg_ne_zero aim here names) fun found => ?_
    cases found with
    | arrived l => simp [pure, Except.pure]
    | onto start more => exact ih start more

theorem checkPath_ne_zero (hp : p.ZeroFree) : checkPath p ≠ .error .zeroInName := by
  unfold checkPath
  rw [if_neg (by simpa using hp.text)]
  split <;> simp

theorem locate_ne_zero (aim : Aim) (hp : p.ZeroFree) : t.locate aim p ≠ .error .zeroInName :=
  bind_ne_error (checkPath_ne_zero hp) fun _ => walk_ne_zero aim _ _ _

theorem demand_ne_zero (a : Access) (l : Location) : t.demand a l ≠ .error .zeroInName := by
  unfold demand
  split <;> simp

theorem place_ne_zero (hp : p.ZeroFree) (hnameless : nameless ≠ .zeroInName) :
    t.place nameless p ≠ .error .zeroInName := by
  refine bind_ne_error (checkPath_ne_zero hp) fun _ => ?_
  refine bind_ne_error (locate_ne_zero .target hp.parent) fun parent => ?_
  split
  · simp
  · refine bind_ne_error (demand_ne_zero .search parent) fun _ => ?_
    split
    · simpa using hnameless
    · split <;> simp [pure, Except.pure]
  · simp

theorem modeFor_ne_zero (hp : p.ZeroFree) : t.modeFor p ≠ .error .zeroInName := by
  have hstat : t.stat p ≠ .error .zeroInName := by
    refine bind_ne_error (locate_ne_zero .target hp) fun l => ?_
    split <;> simp [pure, Except.pure]
  unfold modeFor
  split
  · simp
  · simp
  · simp
  · simp
  · next f _ hf =>
    intro h
    obtain rfl := Except.error.inj h
    exact hstat hf

theorem move_ne_zero (source target : Location) : t.move source target ≠ .error .zeroInName := by
  unfold move
  split
  · simp
  · split
    · simp
    · refine bind_ne_error (demand_ne_zero .write _) fun _ => ?_
      refine bind_ne_error (demand_ne_zero .write _) fun _ => ?_
      split <;> simp [pure, Except.pure]

/-- A path without a zero is not refused for one. -/
theorem ne_zero_of_attempt {left : FileTree} (hp : p.ZeroFree)
    (hhome : ∀ name ∈ t.home, '\x00' ∉ name.toList) (h : t.attempt p bytes = (.error f, left)) :
    f ≠ .zeroInName := by
  have hcreate : t.create (t.temporaryName p) bytes 0o600 ≠ .error .zeroInName := by
    refine bind_ne_error (place_ne_zero (zeroFree_temporaryName hp hhome) (by simp)) fun l => ?_
    split
    · simp
    · exact bind_ne_error (demand_ne_zero .write _) fun _ => by simp [pure, Except.pure]
  have htake (temporary : Location) (staged : FileTree) :
      t.takeOver p temporary staged ≠ .error .zeroInName := by
    refine bind_ne_error (modeFor_ne_zero hp) fun mode => ?_
    refine bind_ne_error (place_ne_zero hp (by simp)) fun l => ?_
    exact bind_ne_error (move_ne_zero temporary l) fun _ => by simp [pure, Except.pure]
  unfold attempt at h
  rintro rfl
  split at h
  · next f' hf' =>
    obtain rfl := Except.error.inj (Prod.mk.inj h).1
    exact hcreate hf'
  · next temporary staged _ =>
    split at h
    · next f' hf' =>
      obtain rfl := Except.error.inj (Prod.mk.inj h).1
      exact htake temporary staged hf'
    · simp at h

end

/-! ## Writing a text -/

/-- A path leads to a location, and the names met on the way are no longer than a path may be. -/
structure LeadsTo (t : FileTree) (p : PathName) (l : Location) : Prop where
  locate : t.locate .target p = .ok l
  short : ∀ met n, Leads t (t.start p) p.parts met n l → PathName.weight met ≤ longestPath

/-- A text has been written to the file in the place that a path names. -/
structure Written (t : FileTree) (p : PathName) (content : String) (l : Location)
    (after : FileTree) : Prop where
  place : t.place .busy p = .ok l
  file : ∃ mode, after.find? l = some (.file (Bytes.ofText content) mode) ∧ t.PriorMode p mode
  /-- Nothing else has changed, and there is no temporary file. -/
  other : ∀ other, other ≠ l → after.find? other = t.find? other
  environment : after.home = t.home ∧ after.mask = t.mask ∧ after.foreign = t.foreign
  /-- What a link in that place led to is as before. -/
  target : ∀ target there, t.find? l = some (.link target) → t.locate .target p = .ok there →
    there ≠ l ∧ after.find? there = t.find? there
  again : (after.attempt p (Bytes.ofText content)).2 = after

/-- A write is refused, reported, and leaves the tree as it was; or the text has been written, and
what is told about the file is true of it. -/
def WritesWhole (t : FileTree) (p : PathName) (content : String) : Prop :=
  (∃ f, t.writeText p content = .error (.refused f) ∧
    (GenerateFault.write p (.refused f)).diagnostic? = some (f.writeFailure p) ∧
    t.attempt p (Bytes.ofText content) = (.error f, t)) ∨
  ∃ l after, t.writeText p content = .ok (⟨p.name, ⟨"/", l⟩, content.toList.count '\n',
      (Bytes.ofText content).length⟩, after) ∧ t.Written p content l after

section

variable {t after : FileTree} {p : PathName} {content : String} {l : Location} {mode : Nat}

theorem Replacement.written (h : t.Replacement p (Bytes.ofText content) l mode after)
    (ht : t.WellFormed) (hdot : p.name ≠ ".") : t.Written p content l after := by
  constructor
  · exact h.place
  · exact ⟨mode, h.find?_place, priorMode_of_modeFor ht h.modeFor⟩
  · exact fun other hne => h.find?_other hne
  · rw [h.after_eq]
    exact ⟨rfl, rfl, rfl⟩
  · intro target there hlink hthere
    have hne : there ≠ l := by
      rintro rfl
      exact ht.plain_of_locate hthere target hlink
    exact ⟨hne, h.find?_other hne⟩
  · exact h.again hdot

theorem Replacement.wellFormed {bytes : Bytes} (h : t.Replacement p bytes l mode after)
    (ht : t.WellFormed) (hp : p.ZeroFree) (hdot : p.name ≠ ".") : after.WellFormed := by
  obtain ⟨parent, hplaced⟩ := placed_of_place h.place
  obtain ⟨m, hm⟩ := hplaced.open_.directory
  have hname : IsName p.name := ⟨hplaced.nonempty, hdot, hplaced.ne_dots, hplaced.short⟩
  rw [h.after_eq]
  refine ht.put_file ?_ ?_ h.noDirectory
  · rw [hplaced.eq, List.dropLast_concat]
    exact hplaced.open_.directory
  · rw [hplaced.eq]
    exact List.forall_mem_append.mpr
      ⟨ht.names parent _ hm, List.forall_mem_singleton.mpr ⟨hname, hp.name⟩⟩

theorem diagnostic?_refused {f : FileFault} (h : f ≠ .zeroInName) :
    (GenerateFault.write p (.refused f)).diagnostic? = some (f.writeFailure p) := by
  cases f <;> first | rfl | exact absurd rfl h

/-- A path that leads to a file stands for the location of the file. -/
theorem LeadsTo.resolve_eq {bytes : Bytes} (h : t.LeadsTo p l) (ht : t.WellFormed)
    (hfile : t.find? l = some (.file bytes mode)) : t.resolve p = ⟨"/", l⟩ := by
  obtain ⟨⟨⟩, -, hwalk⟩ := bind_eq_ok.mp h.locate
  obtain ⟨met, n, -, hmet⟩ := (walk_eq_ok_iff hfile).mp hwalk
  exact FileTree.resolve_eq ht.zeroFree hmet (h.short met n hmet)

/-- A write that is told of has not been refused, and the path is the one that the given path stands
for once the file is in place. -/
theorem WritesWhole.resolve_eq (h : t.WritesWhole p content)
    (hreplace : t.replace p (Bytes.ofText content) = .ok (l, after)) :
    after.resolve p = ⟨"/", l⟩ := by
  rcases h with ⟨f, -, -, hattempt⟩ | ⟨l', left, htext, hwritten⟩
  · unfold replace at hreplace
    rw [hattempt] at hreplace
    simp at hreplace
  · obtain ⟨rfl, hpath⟩ := writeText_eq_ok_of_replace hreplace htext
    obtain ⟨mode, hreplaced⟩ := replace_eq_ok hreplace
    have hplace := hwritten.place
    rw [hreplaced.place] at hplace
    obtain rfl := Except.ok.inj hplace
    exact hpath.symm

end

/-- A text that is not refused has been written, in a well-formed tree and to a path without a zero.
The write is refused or its report is true of the file exactly if the path stands for the location
of the file once that is in place, as it does when it leads there. -/
theorem writesWhole_iff_resolve {t : FileTree} {s : String} (ht : t.WellFormed)
    (hs : '\x00' ∉ s.toList) (content : String) :
    (∀ l after, t.replace (.ofText s) (Bytes.ofText content) = .ok (l, after) →
      t.Written (.ofText s) content l after ∧
        (after.LeadsTo (.ofText s) l → after.resolve (.ofText s) = ⟨"/", l⟩)) ∧
    (t.WritesWhole (.ofText s) content ↔
      ∀ l after, t.replace (.ofText s) (Bytes.ofText content) = .ok (l, after) →
        after.resolve (.ofText s) = ⟨"/", l⟩) := by
  have hp : (PathName.ofText s).ZeroFree := PathName.zeroFree_ofText hs
  have hdot : (PathName.ofText s).name ≠ "." := PathName.name_ofText_ne_dot s
  refine ⟨fun l after hreplace => ?_, fun h l after => h.resolve_eq, fun hresolve => ?_⟩
  · obtain ⟨mode, h⟩ := replace_eq_ok hreplace
    exact ⟨h.written ht hdot,
      fun hleads => hleads.resolve_eq (h.wellFormed ht hp hdot) h.find?_place⟩
  cases hreplace : t.replace (.ofText s) (Bytes.ofText content) with
  | error f =>
    have hattempt : t.attempt (.ofText s) (Bytes.ofText content) = (.error f, t) :=
      attempt_of_replace_eq_error hreplace
    obtain ⟨m, hm⟩ := ht.home
    have hzero : f ≠ .zeroInName :=
      ne_zero_of_attempt hp (fun name hname => (ht.names t.home _ hm name hname).2) hattempt
    exact .inl ⟨f, writeText_eq_refused hreplace, diagnostic?_refused hzero, hattempt⟩
  | ok found =>
    obtain ⟨l, after⟩ := found
    obtain ⟨mode, h⟩ := replace_eq_ok hreplace
    have hpath : after.resolve (.ofText s) = ⟨"/", l⟩ := hresolve l after hreplace
    have hcircle : after.isCircle (after.resolve (.ofText s)) = false := by
      rw [hpath]
      exact isCircle_eq_false (h.wellFormed ht hp hdot) h.find?_place (by simp)
    have htext := writeText_of_replace hreplace hcircle
    rw [hpath] at htext
    exact .inr ⟨l, after, htext, h.written ht hdot⟩

/-! ## A link to a directory, and a link to a file -/

/-- A directory that is also reached over a link, and in it a link to a file outside. -/
def linkedTree : FileTree where
  home := ["home"]
  entries :=
    [([], .directory 0o755), (["home"], .directory 0o755), (["home", "gen"], .directory 0o755),
     (["home", "out"], .link "gen"), (["home", "gen", "shd.odin"], .link "../old.odin"),
     (["home", "old.odin"], .file [] 0o600)]

/-- The link in the directory gives way to a file with the permissions of the old one, and the file
is told of under its path from the root. -/
theorem linkedTree_writesWhole :
    linkedTree.WellFormed ∧ '\x00' ∉ "out/shd.odin".toList ∧
      linkedTree.WritesWhole (.ofText "out/shd.odin") "a\n" := by
  have ht : linkedTree.WellFormed := by
    refine wellFormed_of_entries ?_ ?_ <;> decide +kernel
  have hs : '\x00' ∉ "out/shd.odin".toList := by decide
  let after := linkedTree.put ["home", "gen", "shd.odin"] (.file (Bytes.ofText "a\n") 0o600)
  have hreplace : linkedTree.replace (.ofText "out/shd.odin") (Bytes.ofText "a\n") =
      .ok (["home", "gen", "shd.odin"], after) := by decide +kernel
  have hleads : Leads after ["home"] ["out", "shd.odin"] ["out", "gen", "shd.odin"] 1
      ["home", "gen", "shd.odin"] := by
    have hhome : after.Open ["home"] := by decide +kernel
    have hgen : after.Open ["home", "gen"] := by decide +kernel
    have hlink : after.find? (["home"] ++ ["out"]) = some (.link "gen") := rfl
    have hstart : targetStart ["home"] "gen" = ["home"] := by decide +kernel
    have htarget : targetNames "gen" = ["gen"] := by decide +kernel
    have hfollow : Leads after (targetStart ["home"] "gen") (targetNames "gen") ["gen"] 0
        ["home", "gen"] := by
      rw [hstart, htarget]
      exact .entry hhome (by decide) (e := .directory 0o755) rfl (by simp) .nil
    have hnext : Leads after ["home", "gen"] ["shd.odin"] ["shd.odin"] 0
        ["home", "gen", "shd.odin"] :=
      .entry hgen (by decide) (e := .file (Bytes.ofText "a\n") 0o600) rfl (by simp) .nil
    exact .link hhome (by decide) hlink hfollow hnext
  refine ⟨ht, hs, (writesWhole_iff_resolve ht hs "a\n").2.mpr fun l after' hfound => ?_⟩
  refine ((writesWhole_iff_resolve ht hs "a\n").1 l after' hfound).2 ?_
  rw [hreplace] at hfound
  obtain ⟨rfl, rfl⟩ := Prod.mk.inj (Except.ok.inj hfound)
  refine ⟨by decide +kernel, fun met n hmet => ?_⟩
  obtain ⟨rfl, -, -⟩ := hleads.deterministic hmet
  decide +kernel

/-! ## A path over the link that it replaces -/

/-- A tree in which a path leads over a link to the place of that link. -/
def tangledTree : FileTree where
  home := []
  entries :=
    [([], .directory 0o755), (["a"], .directory 0o755), (["a", "b"], .directory 0o755),
     (["k"], .link "a/b"), (["a", "l"], .link "."), (["s"], .link "a"), (["a", "s"], .link "s")]

/-- The file is put in the place of the link, and the write breaks down all the same. -/
theorem tangledTree_not_writesWhole :
    tangledTree.WellFormed ∧ ¬ tangledTree.WritesWhole (.ofText "k/../l/../s/l") "" := by
  have ht : tangledTree.WellFormed := by
    refine wellFormed_of_entries ?_ ?_ <;> decide +kernel
  let after := tangledTree.put ["a", "l"] (.file [] 0o755)
  have hreplace : tangledTree.replace (.ofText "k/../l/../s/l") (Bytes.ofText "") =
      .ok (["a", "l"], after) := by decide +kernel
  have hcircle : after.isCircle (after.resolve (.ofText "k/../l/../s/l")) = true := by
    decide +kernel
  have htext := writeText_eq_circle hreplace hcircle
  refine ⟨ht, fun h => ?_⟩
  rcases h with ⟨f, hf, -⟩ | ⟨l, left, hok, -⟩
  · rw [htext] at hf
    simp at hf
  · rw [htext] at hok
    simp at hok

end FileTree

end ShaderBindings
