/-
  Which names have one record spelling. The spelling of a name of ASCII characters differs from
  the name in the case of letters alone (`lower_adaCase`), and only the name in lower case
  counts for it (`adaCase_congr`). So names collide exactly if they are equal in lower case
  (`adaCase_eq_iff`); that is not so outside of ASCII. Any text that ends in an underscore is
  spelled apart from what is behind it, as the name of a module is in front of a record
  (`adaCase_append`).
-/
import ShaderBindings.Input
import ShaderBindings.Layout.Record
import ShaderBindings.Proofs.Identifier

namespace ShaderBindings

/-! ## Letters -/

namespace Text

variable {c : Char} {cs : List Char}

/-- A text has characters of ASCII only. -/
def IsAscii (cs : List Char) : Prop := ∀ c ∈ cs, c.toNat < 0x80

instance : DecidablePred IsAscii := List.decidableBAll fun c : Char => c.toNat < 0x80

theorem toLower_toUpper (hc : c.toNat < 0x80) : c.toUpper.toLower = c.toLower :=
  of_ascii (p := fun c => c.toUpper.toLower = c.toLower) (by decide +kernel) hc

theorem toUpper_toLower (hc : c.toNat < 0x80) : c.toLower.toUpper = c.toUpper :=
  of_ascii (p := fun c => c.toLower.toUpper = c.toUpper) (by decide +kernel) hc

theorem toLower_toLower (hc : c.toNat < 0x80) : c.toLower.toLower = c.toLower :=
  of_ascii (p := fun c => c.toLower.toLower = c.toLower) (by decide +kernel) hc

theorem toLower_of_not_isUpper (h : c.isUpper = false) : c.toLower = c := by
  unfold Char.toLower
  rw [dif_neg]
  rwa [Char.isUpper, decide_eq_false_iff_not] at h

theorem toLower_of_not_ascii (hc : ¬ c.toNat < 0x80) : c.toLower = c := by
  refine toLower_of_not_isUpper ?_
  rw [Bool.eq_false_iff, ne_eq, isUpper_iff]
  omega

theorem toLower_lt_iff : c.toLower.toNat < 0x80 ↔ c.toNat < 0x80 := by
  by_cases hc : c.toNat < 0x80
  · have h : c.toLower.toNat < 0x80 :=
      of_ascii (p := fun c => c.toLower.toNat < 0x80) (by decide +kernel) hc
    exact ⟨fun _ => hc, fun _ => h⟩
  · rw [toLower_of_not_ascii hc]

theorem toLower_eq_underscore_iff : c.toLower = '_' ↔ c = '_' := by
  by_cases hc : c.toNat < 0x80
  · exact of_ascii (p := fun c => c.toLower = '_' ↔ c = '_') (by decide +kernel) hc
  · rw [toLower_of_not_ascii hc]

theorem lowerFrom_of_ascii (h : IsAscii cs) (before : List Char) :
    lowerFrom before cs = cs.map Char.toLower := by
  induction cs generalizing before with
  | nil => rfl
  | cons c rest ih =>
    obtain ⟨hc, hrest⟩ := List.forall_mem_cons.mp h
    have hsigma : c ≠ 'Σ' := by
      rintro rfl
      exact absurd hc (by decide)
    rw [lowerFrom, if_neg hsigma, lower, if_pos hc, ih hrest, List.singleton_append,
      List.map_cons]

/-- In ASCII, lower case goes letter by letter. -/
theorem lowerAll_of_ascii (h : IsAscii cs) : lowerAll cs = cs.map Char.toLower :=
  lowerFrom_of_ascii h []

/-- Case does not change whether a text is in ASCII. -/
theorem isAscii_map_toLower : IsAscii (cs.map Char.toLower) ↔ IsAscii cs := by
  simp [IsAscii, toLower_lt_iff]

/-! ## Words and underscores -/

variable {words others : List (List Char)}

/-- Characters that are not made into the one at which a text is split, nor out of it, can be
changed before or after. -/
theorem splitOn_map {f : Char → Char} (hf : ∀ d, f d = c ↔ d = c) (cs : List Char) :
    (cs.map f).splitOn c = (cs.splitOn c).map (List.map f) := by
  induction cs with
  | nil => simp
  | cons d cs ih =>
    rw [List.map_cons, List.splitOn_cons_eq_if_modifyHead, List.splitOn_cons_eq_if_modifyHead, ih]
    by_cases hd : d = c
    · rw [if_pos (by simpa [hf] using hd), if_pos (by simpa using hd), List.map_cons, List.map_nil]
    · rw [if_neg (by simpa [hf] using hd), if_neg (by simpa using hd)]
      cases cs.splitOn c <;> rfl

theorem map_intercalate (f : Char → Char) (c : Char) (words : List (List Char)) :
    ([c].intercalate words).map f = [f c].intercalate (words.map (List.map f)) := by
  cases words with
  | nil => rfl
  | cons word words =>
    simp only [List.map_cons, intercalate_cons, List.map_append, List.map_flatMap,
      List.flatMap_map]

theorem intercalate_append (hwords : words ≠ []) (hothers : others ≠ []) :
    [c].intercalate (words ++ others) = [c].intercalate words ++ c :: [c].intercalate others := by
  obtain ⟨word, words, rfl⟩ := List.exists_cons_of_ne_nil hwords
  obtain ⟨other, others, rfl⟩ := List.exists_cons_of_ne_nil hothers
  simp [intercalate_cons]

end Text

open Text

/-! ## Spelling of ASCII -/

section

variable {s t : String} {word : List Char}

theorem toList_adaCase (s : String) :
    (adaCase s).toList = ['_'].intercalate ((s.toList.splitOn '_').map capitalized) :=
  String.toList_ofList

theorem isAscii_of_mem_splitOn (h : IsAscii s.toList) (hword : word ∈ s.toList.splitOn '_') :
    IsAscii word :=
  fun _ hc => h _ (mem_of_mem_splitOn hword hc)

theorem capitalized_cons_of_ascii {c : Char} {rest : List Char} (h : IsAscii (c :: rest)) :
    capitalized (c :: rest) = c.toUpper :: rest.map Char.toLower := by
  obtain ⟨hc, hrest⟩ := List.forall_mem_cons.mp h
  rw [capitalized, upper, if_pos hc, lowerAll_of_ascii hrest, List.singleton_append]

/-- A capitalized word and the word are equal in lower case. -/
theorem lower_capitalized (h : IsAscii word) :
    (capitalized word).map Char.toLower = word.map Char.toLower := by
  cases word with
  | nil => rfl
  | cons c rest =>
    obtain ⟨hc, hrest⟩ := List.forall_mem_cons.mp h
    rw [capitalized_cons_of_ascii h, List.map_cons, List.map_cons, toLower_toUpper hc, List.map_map]
    exact congrArg (_ :: ·) (List.map_congr_left fun d hd => toLower_toLower (hrest d hd))

/-- The word in lower case is capitalized in the same way. -/
theorem capitalized_lower (h : IsAscii word) :
    capitalized (word.map Char.toLower) = capitalized word := by
  cases word with
  | nil => rfl
  | cons c rest =>
    have hlower := isAscii_map_toLower.mpr h
    obtain ⟨hc, hrest⟩ := List.forall_mem_cons.mp h
    rw [List.map_cons] at hlower ⊢
    rw [capitalized_cons_of_ascii hlower, capitalized_cons_of_ascii h, toUpper_toLower hc,
      List.map_map]
    exact congrArg (_ :: ·) (List.map_congr_left fun d hd => toLower_toLower (hrest d hd))

/-- A name and its spelling are equal in lower case. -/
theorem lower_adaCase (h : IsAscii s.toList) :
    (adaCase s).toList.map Char.toLower = s.toList.map Char.toLower := by
  have hwords : ((s.toList.splitOn '_').map capitalized).map (List.map Char.toLower) =
      (s.toList.splitOn '_').map (List.map Char.toLower) := by
    rw [List.map_map]
    exact List.map_congr_left fun word hword =>
      lower_capitalized (isAscii_of_mem_splitOn h hword)
  calc (adaCase s).toList.map Char.toLower
      = ['_'].intercalate (((s.toList.splitOn '_').map capitalized).map
          (List.map Char.toLower)) := by
        rw [toList_adaCase]
        exact map_intercalate Char.toLower '_' _
    _ = ['_'].intercalate ((s.toList.map Char.toLower).splitOn '_') := by
        rw [hwords, splitOn_map fun _ => toLower_eq_underscore_iff]
    _ = s.toList.map Char.toLower := List.intercalate_splitOn '_'

/-- The words of a name in lower case are all that its spelling is made of. -/
theorem map_capitalized_splitOn (h : IsAscii s.toList) :
    (s.toList.splitOn '_').map capitalized =
      ((s.toList.map Char.toLower).splitOn '_').map capitalized := by
  rw [splitOn_map fun _ => toLower_eq_underscore_iff, List.map_map]
  exact List.map_congr_left fun word hword =>
    (capitalized_lower (isAscii_of_mem_splitOn h hword)).symm

/-- Names that are equal in lower case are spelled alike. -/
theorem adaCase_congr (hs : IsAscii s.toList) (ht : IsAscii t.toList)
    (h : s.toList.map Char.toLower = t.toList.map Char.toLower) : adaCase s = adaCase t := by
  refine String.toList_injective ?_
  rw [toList_adaCase, toList_adaCase, map_capitalized_splitOn hs, map_capitalized_splitOn ht, h]

theorem isAscii_adaCase (h : IsAscii s.toList) : IsAscii (adaCase s).toList := by
  rw [← isAscii_map_toLower, lower_adaCase h, isAscii_map_toLower]
  exact h

theorem adaCase_eq_iff (hs : IsAscii s.toList) (ht : IsAscii t.toList) :
    adaCase s = adaCase t ↔ lowerAll s.toList = lowerAll t.toList := by
  rw [lowerAll_of_ascii hs, lowerAll_of_ascii ht]
  constructor
  · intro h
    rw [← lower_adaCase hs, h, lower_adaCase ht]
  · exact adaCase_congr hs ht

theorem adaCase_adaCase (h : IsAscii s.toList) : adaCase (adaCase s) = adaCase s :=
  adaCase_congr (isAscii_adaCase h) h (lower_adaCase h)

theorem length_adaCase (h : IsAscii s.toList) : (adaCase s).length = s.length := by
  have hlength := congrArg List.length (lower_adaCase h)
  rwa [List.length_map, List.length_map, String.length_toList, String.length_toList] at hlength

/-- Case moves no underscore. -/
theorem getElem?_adaCase_eq_underscore (h : IsAscii s.toList) (i : Nat) :
    (adaCase s).toList[i]? = some '_' ↔ s.toList[i]? = some '_' := by
  have hlower (cs : List Char) : (cs.map Char.toLower)[i]? = some '_' ↔ cs[i]? = some '_' := by
    rw [List.getElem?_map, Option.map_eq_some_iff]
    simp only [toLower_eq_underscore_iff, exists_eq_right]
  rw [← hlower, lower_adaCase h, hlower]

end

/-! ## Names behind an underscore -/

/-- An underscore parts a name into names that are spelled each for itself, in ASCII or not. -/
theorem adaCase_append (s t : String) :
    adaCase (s ++ "_" ++ t) = adaCase s ++ "_" ++ adaCase t := by
  have hne (cs : List Char) : (cs.splitOn '_').map capitalized ≠ [] := by
    simp [List.splitOn_ne_nil]
  have hsplit : (s ++ "_" ++ t).toList.splitOn '_' =
      s.toList.splitOn '_' ++ t.toList.splitOn '_' := by
    rw [← splitOn_append_cons]
    simp
  refine String.toList_injective ?_
  rw [toList_adaCase, hsplit, List.map_append, intercalate_append (hne _) (hne _),
    ← toList_adaCase, ← toList_adaCase]
  simp

/-- What all names of a module start with is spelled apart from the rest. -/
theorem adaCase_namePrefix_append (inp : ShaderInput) (s : String) :
    adaCase (inp.namePrefix ++ s) = adaCase inp.namePrefix ++ adaCase s := by
  have hempty : adaCase "" = "" := by decide
  unfold ShaderInput.namePrefix
  split
  · have hmodule := adaCase_append inp.module.display ""
    rw [hempty, String.append_empty, String.append_empty] at hmodule
    rw [adaCase_append, hmodule]
  · rw [hempty, String.empty_append, String.empty_append]

theorem recordName_namePrefix (inp : ShaderInput) (b : UniformBlock) :
    b.recordName inp.namePrefix = adaCase inp.namePrefix ++ adaCase b.structName :=
  adaCase_namePrefix_append inp b.structName

/-- In ASCII, two names have one record spelling exactly if they are equal in lower case. The
spelling changes nothing but case: spelled again it stays as it is, it is as long as the name and
has its underscores where the name has them. What an underscore joins is spelled part by part, so
that the records of a module all start with the spelling of its name, and two of them have one name
exactly if their blocks do in lower case. -/
theorem adaCase_eq_iff_lowerAll_eq :
    (∀ s t : String, IsAscii s.toList → IsAscii t.toList →
      (adaCase s = adaCase t ↔ lowerAll s.toList = lowerAll t.toList)) ∧
    (∀ s : String, IsAscii s.toList → adaCase (adaCase s) = adaCase s ∧
      (adaCase s).length = s.length ∧
      ∀ i : Nat, (adaCase s).toList[i]? = some '_' ↔ s.toList[i]? = some '_') ∧
    (∀ s t : String, adaCase (s ++ "_" ++ t) = adaCase s ++ "_" ++ adaCase t) ∧
    ∀ (inp : ShaderInput) (b c : UniformBlock),
      b.recordName inp.namePrefix = adaCase inp.namePrefix ++ adaCase b.structName ∧
      (IsAscii b.structName.toList → IsAscii c.structName.toList →
        (b.recordName inp.namePrefix = c.recordName inp.namePrefix ↔
          lowerAll b.structName.toList = lowerAll c.structName.toList)) := by
  refine ⟨fun s t => adaCase_eq_iff, fun s hs => ?_, adaCase_append, fun inp b c => ?_⟩
  · exact ⟨adaCase_adaCase hs, length_adaCase hs, getElem?_adaCase_eq_underscore hs⟩
  · refine ⟨recordName_namePrefix inp b, fun hb hc => ?_⟩
    rw [recordName_namePrefix, recordName_namePrefix, String.append_right_inj,
      adaCase_eq_iff hb hc]

/-- A name in two cases, with empty words at its ends and inside. -/
theorem cased_collide :
    (IsAscii "_mvpMatrix__2D_".toList ∧ IsAscii "_MVPmatrix__2d_".toList) ∧
    adaCase "_mvpMatrix__2D_" = adaCase "_MVPmatrix__2d_" ∧
    (adaCase "_mvpMatrix__2D_").toList[10]? = some '_' ∧
    UniformBlock.recordName "tex_" ⟨0, 64, "_mvpMatrix__2D_", "", [], false⟩ =
      UniformBlock.recordName "tex_" ⟨1, 16, "_MVPmatrix__2d_", "", [], false⟩ := by
  have hs : IsAscii "_mvpMatrix__2D_".toList := by decide +kernel
  have ht : IsAscii "_MVPmatrix__2d_".toList := by decide +kernel
  have hlower : lowerAll "_mvpMatrix__2D_".toList = lowerAll "_MVPmatrix__2d_".toList := by
    decide +kernel
  obtain ⟨hcollide, hkept, -, hrecords⟩ := adaCase_eq_iff_lowerAll_eq
  exact ⟨⟨hs, ht⟩, (hcollide _ _ hs ht).mpr hlower, ((hkept _ hs).2.2 10).mpr (by decide +kernel),
    ((hrecords ⟨"", .text "tex", [], []⟩ ⟨0, 64, "_mvpMatrix__2D_", "", [], false⟩
      ⟨1, 16, "_MVPmatrix__2d_", "", [], false⟩).2 hs ht).mpr hlower⟩

end ShaderBindings
