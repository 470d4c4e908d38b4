/-
  The families of languages differ in the bindings by name that the descriptions of their
  programs have (`Family.binds`), and in nothing else. Each statement that only some families
  have is put between statements that all of them have, slot by slot.

  * `program_renamed`: with these bindings left out (`Family.common`), the descriptions from the
    same sources and bytecode are the same statements in the same order, up to the language at
    the end of the names of arrays (`Assignment.Renamed`).
  * `targetCount_program`: HLSL has one compile target for each stage that is given as source.

  Nothing is said about output for two languages that was compiled differently.
-/
import ShaderBindings.Proofs.Desc.Program

namespace ShaderBindings

open Desc Fallible

/-! ## Bindings -/

/-- The places that a family binds on its own: GLSL attributes, uniforms and pairs by their names,
HLSL attributes by their semantics and sources by their compile target, the others nothing. -/
def Family.binds : Family → Place → Bool
  | .glsl, .attr _ .name => true
  | .glsl, .stage _ (.block _ (.uniform _ _)) => true
  | .glsl, .stage _ (.pair _ .glslName) => true
  | .hlsl, .attr _ .semName => true
  | .hlsl, .attr _ .semIndex => true
  | .hlsl, .stage _ .target => true
  | _, _ => false

/-- Whether some family binds the place on its own. -/
def Desc.Place.isBinding : Place → Bool
  | .attr _ _ => true
  | .stage _ (.block _ (.uniform _ _)) => true
  | .stage _ (.pair _ .glslName) => true
  | .stage _ .target => true
  | _ => false

/-- The statements without those at places that the family binds on its own. -/
def Family.common (family : Family) (as : List Assignment) : List Assignment :=
  as.filter fun a => !family.binds a.place

/-- The same value, but for the language at the end of the name of an array. -/
inductive Desc.Value.Renamed (s t : Slang) : Value → Value → Prop
  | same {v : Value} (plain : v.array? = none) : Renamed s t v v
  | address (stem : String) : Renamed s t (.address (stem ++ s.name)) (.address (stem ++ t.name))
  | cstring (stem : String) : Renamed s t (.cstring (stem ++ s.name)) (.cstring (stem ++ t.name))

/-- The same statement, but for the language at the end of the name of an array. -/
structure Desc.Assignment.Renamed (s t : Slang) (a c : Assignment) : Prop where
  place : a.place = c.place
  value : a.value.Renamed s t c.value

/-- Lines that are the same, or end in the names of their languages and are the same up to there. -/
def Desc.LineRenamed (s t : Slang) (line other : String) : Prop :=
  line = other ∨ ∃ stem, line = stem ++ s.name ∧ other = stem ++ t.name

namespace Family

variable {family : Family} {as bs : List Assignment}

theorem common_append : family.common (as ++ bs) = family.common as ++ family.common bs :=
  List.filter_append _ _

/-- Statements that the family makes only to bind names leave nothing. -/
theorem common_eq_nil (h : ∀ a ∈ as, family.binds a.place = true) : family.common as = [] := by
  refine List.filter_eq_nil_iff.mpr fun a ha => ?_
  simp [h a ha]

theorem isBinding_of_binds {place : Place} (h : family.binds place = true) :
    place.isBinding = true := by
  unfold binds at h
  split at h <;> first | rfl | simp at h

/-- Statements at other places are left as they are, whatever the family. -/
theorem common_eq_self (h : as.all (!·.place.isBinding) = true) : family.common as = as := by
  refine List.filter_eq_self.mpr fun a ha => ?_
  have hplace := List.all_eq_true.mp h a ha
  cases hbinds : family.binds a.place with
  | false => rfl
  | true => simp [isBinding_of_binds hbinds] at hplace

/-- A family that binds nothing leaves all as it is. -/
theorem common_of_plain (h : ∀ place, family.binds place = false) : family.common as = as := by
  refine List.filter_eq_self.mpr fun a _ => ?_
  simp [h a.place]

theorem common_cons {a : Assignment} (h : a.place.isBinding = false) :
    family.common (a :: as) = a :: family.common as := by
  rw [← List.singleton_append, common_append, common_eq_self (by simp [h])]
  rfl

end Family

namespace Desc

variable {s t : Slang} {as bs : List Assignment}

/-- Statements that refer to no array are the same for all languages. -/
theorem renamed_of_arrays_eq_nil (h : arrays as = []) :
    List.Forall₂ (Assignment.Renamed s t) as as := by
  refine List.forall₂_same.mpr fun a ha => ⟨rfl, ?_⟩
  exact .same (arrays_eq_nil.mp h a ha)

theorem arrays_common {family : Family} (h : arrays as = []) : arrays (family.common as) = [] :=
  arrays_eq_nil.mpr fun a ha => arrays_eq_nil.mp h a (List.mem_of_mem_filter ha)

/-- A line ends as the value does that it assigns. -/
theorem line_of_render_append {indent front back : String} {a : Assignment}
    (h : a.value.render = front ++ back) :
    a.line indent = indent ++ a.place.text ++ " = " ++ front ++ back := by
  unfold Assignment.line
  rw [h, String.append_assoc, String.append_assoc, String.append_assoc, String.append_assoc,
    String.append_assoc]

theorem Value.Renamed.render {v w : Value} (h : v.Renamed s t w) : v.render = w.render ∨
    ∃ front, v.render = front ++ s.name ∧ w.render = front ++ t.name := by
  cases h with
  | same => exact Or.inl rfl
  | address stem => exact Or.inr ⟨"&" ++ stem, String.append_assoc.symm, String.append_assoc.symm⟩
  | cstring stem =>
    exact Or.inr ⟨"transmute(cstring)&" ++ stem, String.append_assoc.symm,
      String.append_assoc.symm⟩

theorem lineRenamed_of_renamed {a c : Assignment} (h : a.Renamed s t c) (indent : String) :
    LineRenamed s t (a.line indent) (c.line indent) := by
  rcases h.value.render with hsame | ⟨front, hfront, hfront'⟩
  · left
    unfold Assignment.line
    rw [h.place, hsame]
  · right
    refine ⟨indent ++ a.place.text ++ " = " ++ front, line_of_render_append hfront, ?_⟩
    rw [h.place]
    exact line_of_render_append hfront'

end Desc

/-- The payload of a snippet from the same sources and bytecode is the same for all languages, but
for the language at the end of its name. -/
theorem Payload.ofSnippet_renamed {namePrefix snippet : String} {b : BackendOutput} {s t : Slang}
    {p q : Payload} (hp : Payload.ofSnippet namePrefix snippet { b with slang := s } = .ok p)
    (hq : Payload.ofSnippet namePrefix snippet { b with slang := t } = .ok q) :
    p.isBytecode = q.isBytecode ∧ p.data = q.data ∧
      ∃ stem, p.arrayName = stem ++ s.name ∧ q.arrayName = stem ++ t.name := by
  have hblobs (slang : Slang) : { b with slang := slang }.blob? snippet = b.blob? snippet := rfl
  have hsources (slang : Slang) : { b with slang := slang }.source? snippet = b.source? snippet :=
    rfl
  unfold Payload.ofSnippet at hp hq
  rw [hblobs, hsources] at hp hq
  cases hblob : b.blob? snippet with
  | some blob =>
    rw [hblob] at hp hq
    obtain rfl := Except.ok.inj hp
    obtain rfl := Except.ok.inj hq
    exact ⟨rfl, rfl, _, rfl, rfl⟩
  | none =>
    rw [hblob] at hp hq
    cases hsource : b.source? snippet with
    | some source =>
      rw [hsource] at hp hq
      obtain rfl := Except.ok.inj hp
      obtain rfl := Except.ok.inj hq
      exact ⟨rfl, rfl, _, rfl, rfl⟩
    | none =>
      rw [hsource] at hp
      simp at hp

namespace Emitter

variable {e f : Emitter} {tag : String} {r : StageReflection} {p q : Payload} {s t : Slang}

/-! ## What is bound, part by part -/

theorem binds_of_mem_attr {slot : Nat} {attr : Attr} {a : Assignment} (h : a ∈ e.attr slot attr) :
    e.family.binds a.place = true := by
  unfold Emitter.attr at h
  split at h
  · next hfamily =>
    obtain rfl := List.mem_singleton.mp h
    rw [hfamily]
    rfl
  · next hfamily =>
    rw [hfamily]
    simp only [List.mem_cons, List.not_mem_nil, or_false] at h
    rcases h with rfl | rfl <;> rfl
  · simp at h

theorem binds_of_mem_uniforms {slot : Nat} {b : UniformBlock} {a : Assignment}
    (h : a ∈ e.uniforms tag slot b) : e.family.binds a.place = true := by
  have hglsl : e.family = .glsl := by
    unfold uniforms at h
    split at h
    · simp at h
    · assumption
    · simp at h
  obtain ⟨index, field, hplace⟩ := place_of_mem_uniforms h
  rw [hglsl, hplace]
  rfl

theorem binds_of_mem_pairName {slot : Nat} {i : ImageSampler} {a : Assignment}
    (h : a ∈ e.pairName tag slot i) : e.family.binds a.place = true := by
  unfold pairName at h
  split at h
  · next hfamily =>
    obtain rfl := List.mem_singleton.mp h
    rw [hfamily]
    rfl
  · simp at h

/-- Of the statements of a block, its size and layout are left. -/
theorem common_block {slot : Nat} {b : UniformBlock} {part : List Assignment}
    (h : e.block tag slot b = .ok part) : e.family.common part =
      [⟨.stage tag (.block slot .size), .number (Layout.roundUp b.size 16)⟩,
        ⟨.stage tag (.block slot .layout), .tag (.known ".STD140")⟩] := by
  obtain ⟨-, rfl⟩ := block_eq_ok.mp h
  rw [Family.common_append, Family.common_eq_nil fun a => binds_of_mem_uniforms, List.append_nil]
  exact Family.common_eq_self rfl

/-- Of the statements of a pair, its use and its two slots are left. -/
theorem common_pair {slot : Nat} {i : ImageSampler} {part other : List Assignment}
    (h : e.pair tag r slot i = .ok part) (h' : f.pair tag r slot i = .ok other) :
    e.family.common part = f.family.common other := by
  obtain ⟨image, sampler, himage, hsampler, rfl⟩ := pair_eq_ok.mp h
  obtain ⟨image', sampler', himage', hsampler', rfl⟩ := pair_eq_ok.mp h'
  rw [himage] at himage'
  rw [hsampler] at hsampler'
  obtain rfl := Except.ok.inj himage'
  obtain rfl := Except.ok.inj hsampler'
  have hname (g : Emitter) : g.family.common (g.pairName tag slot i) = [] :=
    Family.common_eq_nil fun a => binds_of_mem_pairName
  rw [Family.common_append, Family.common_append, hname e, hname f, Family.common_eq_self rfl,
    Family.common_eq_self rfl]

theorem common_code : e.family.common (e.code tag p) =
    if p.isBytecode then [⟨.stage tag .bytecodePtr, .address p.arrayName⟩,
      ⟨.stage tag .bytecodeSize, .number p.data.length⟩]
    else [⟨.stage tag .source, .cstring p.arrayName⟩] := by
  unfold code
  split
  · exact Family.common_eq_self rfl
  · -- only HLSL has a compile target, and binds it
    have htarget : e.family.common ((e.target? tag).toList.map fun target =>
        (⟨.stage tag .target, .text target⟩ : Assignment)) = [] := by
      refine Family.common_eq_nil fun a ha => ?_
      obtain ⟨target, htarget, rfl⟩ := List.mem_map.mp ha
      unfold target? at htarget
      split at htarget
      · next hfamily => rw [hfamily]; rfl
      · simp at htarget
    rw [Family.common_cons rfl, htarget]

/-! ## What is left of a stage -/

/-- What is left of the parts for the same resources is the same together. -/
theorem common_flatten_eq {ε α : Type} {describe describe' : α → Except ε (List Assignment)}
    {xs : List α} {parts others : List (List Assignment)}
    (h : List.Forall₂ (fun x part => describe x = .ok part) xs parts)
    (h' : List.Forall₂ (fun x part => describe' x = .ok part) xs others)
    (heq : ∀ x part other, describe x = .ok part → describe' x = .ok other →
      e.family.common part = f.family.common other) :
    e.family.common parts.flatten = f.family.common others.flatten := by
  induction h generalizing others with
  | nil =>
    obtain rfl := List.forall₂_nil_left_iff.mp h'
    rfl
  | @cons x part xs parts hx _ ih =>
    obtain ⟨other, others, hx', hrest, rfl⟩ := List.forall₂_cons_left_iff.mp h'
    rw [List.flatten_cons, List.flatten_cons, Family.common_append, Family.common_append,
      heq x part other hx hx', ih hrest]

theorem common_images : e.family.common
    ((r.occupied Image).flatMap fun (slot, i) => image tag slot i) =
      (r.occupied Image).flatMap fun (slot, i) => image tag slot i := by
  refine Family.common_eq_self ?_
  simp [image, Place.isBinding]

theorem common_samplers : e.family.common
    ((r.occupied Sampler).flatMap fun (slot, s) => sampler tag slot s) =
      (r.occupied Sampler).flatMap fun (slot, s) => sampler tag slot s := by
  refine Family.common_eq_self ?_
  simp [sampler, Place.isBinding]

theorem common_stageRest {blocks pairs blocks' pairs' : List (List Assignment)}
    (hblocks : List.Forall₂ (fun sb part => e.block tag sb.1 sb.2 = .ok part)
      (r.occupied UniformBlock) blocks)
    (hpairs : List.Forall₂ (fun sp part => e.pair tag r sp.1 sp.2 = .ok part)
      (r.occupied ImageSampler) pairs)
    (hblocks' : List.Forall₂ (fun sb part => f.block tag sb.1 sb.2 = .ok part)
      (r.occupied UniformBlock) blocks')
    (hpairs' : List.Forall₂ (fun sp part => f.pair tag r sp.1 sp.2 = .ok part)
      (r.occupied ImageSampler) pairs') :
    e.family.common (stageRest tag r blocks pairs) =
      f.family.common (stageRest tag r blocks' pairs') := by
  have hb : e.family.common blocks.flatten = f.family.common blocks'.flatten :=
    common_flatten_eq hblocks hblocks' fun _ _ _ h h' =>
      (common_block h).trans (common_block h').symm
  have hp : e.family.common pairs.flatten = f.family.common pairs'.flatten :=
    common_flatten_eq hpairs hpairs' fun _ _ _ h h' => common_pair h h'
  unfold stageRest
  rw [Family.common_cons rfl, Family.common_cons rfl]
  simp only [Family.common_append, hb, hp, common_images, common_samplers]

/-- What is left of the code is the same for payloads that differ in the ends of their names. -/
theorem code_renamed (hbytecode : p.isBytecode = q.isBytecode) (hdata : p.data = q.data)
    {stem : String} (hp : p.arrayName = stem ++ s.name) (hq : q.arrayName = stem ++ t.name) :
    List.Forall₂ (Assignment.Renamed s t) (e.family.common (e.code tag p))
      (f.family.common (f.code tag q)) := by
  rw [common_code, common_code, hbytecode, hdata, hp, hq]
  split
  · exact .cons ⟨rfl, .address stem⟩ (.cons ⟨rfl, .same rfl⟩ .nil)
  · exact .cons ⟨rfl, .cstring stem⟩ .nil

/-- What is left of a stage is the same for payloads that differ in the ends of their names. -/
theorem stage_renamed {as bs : List Assignment} (h : e.stage tag r p = .ok as)
    (h' : f.stage tag r q = .ok bs) (hbytecode : p.isBytecode = q.isBytecode)
    (hdata : p.data = q.data) {stem : String} (hp : p.arrayName = stem ++ s.name)
    (hq : q.arrayName = stem ++ t.name) :
    List.Forall₂ (Assignment.Renamed s t) (e.family.common as) (f.family.common bs) := by
  obtain ⟨blocks, pairs, hblocks, hpairs, rfl⟩ := stage_eq_ok.mp h
  obtain ⟨blocks', pairs', hblocks', hpairs', rfl⟩ := stage_eq_ok.mp h'
  rw [stageBody_eq, stageBody_eq, Family.common_append, Family.common_append]
  refine List.rel_append (code_renamed hbytecode hdata hp hq) ?_
  rw [common_stageRest hblocks hpairs hblocks' hpairs']
  exact renamed_of_arrays_eq_nil (arrays_common (arrays_stageRest hblocks' hpairs'))

/-! ## What is left of a program -/

theorem common_attrs (slots : List (Nat × Attr)) :
    e.family.common (slots.flatMap fun (slot, a) => e.attr slot a) = [] := by
  refine Family.common_eq_nil fun a ha => ?_
  obtain ⟨sa, -, ha⟩ := List.mem_flatMap.mp ha
  exact binds_of_mem_attr ha

theorem programStage_renamed {namePrefix : String} {program : Program} {b : BackendOutput}
    {stage : ProgramStage} {source : StageSource} {as bs : List Assignment}
    (h : e.programStage namePrefix program { b with slang := s } stage source = .ok as)
    (h' : f.programStage namePrefix program { b with slang := t } stage source = .ok bs) :
    List.Forall₂ (Assignment.Renamed s t) (e.family.common as) (f.family.common bs) := by
  obtain ⟨p, hp, h⟩ := programStage_eq_ok.mp h
  obtain ⟨q, hq, h'⟩ := programStage_eq_ok.mp h'
  obtain ⟨hbytecode, hdata, stem, hstem, hstem'⟩ := Payload.ofSnippet_renamed hp hq
  exact stage_renamed h h' hbytecode hdata hstem hstem'

/-- Without their bindings the descriptions of a program for two languages are the same. -/
theorem program_renamed {namePrefix : String} {program : Program} {b : BackendOutput}
    {as bs : List Assignment} (h : e.program namePrefix program { b with slang := s } = .ok as)
    (h' : f.program namePrefix program { b with slang := t } = .ok bs) :
    List.Forall₂ (Assignment.Renamed s t) (e.family.common as) (f.family.common bs) := by
  obtain ⟨vs, fs, hvs, hfs⟩ := sources_of_program h
  obtain ⟨vertex, fragment, hvertex, hfragment, rfl⟩ := (program_eq_ok hvs hfs).mp h
  -- the sources do not depend on the language
  have hvs' : { b with slang := t }.source? (program.snippet .vertex) = some vs := hvs
  have hfs' : { b with slang := t }.source? (program.snippet .fragment) = some fs := hfs
  obtain ⟨vertex', fragment', hvertex', hfragment', rfl⟩ := (program_eq_ok hvs' hfs').mp h'
  simp only [Family.common_append, common_attrs, List.nil_append]
  refine List.rel_append (List.rel_append ?_ ?_) ?_
  · exact programStage_renamed hvertex hvertex'
  · exact programStage_renamed hfragment hfragment'
  · rw [Family.common_cons rfl, Family.common_cons rfl]
    exact renamed_of_arrays_eq_nil rfl

/-! ## Compile targets -/

/-- How many compile targets are assigned to a stage. -/
def targetCount (stage : ProgramStage) (as : List Assignment) : Nat :=
  as.countP (·.place = .stage stage.tag .target)

variable {stage : ProgramStage} {as bs : List Assignment}

theorem targetCount_append :
    targetCount stage (as ++ bs) = targetCount stage as + targetCount stage bs :=
  List.countP_append

theorem targetCount_eq_zero (h : ∀ a ∈ as, a.place ≠ .stage stage.tag .target) :
    targetCount stage as = 0 :=
  List.countP_eq_zero.mpr fun a ha => by simpa using h a ha

/-- HLSL has a compile target for source, and none for bytecode. -/
theorem targetCount_code (h : e.family = .hlsl) :
    targetCount stage (e.code stage.tag p) = if p.isBytecode then 0 else 1 := by
  unfold code target?
  rw [h]
  split
  · simp [targetCount]
  · simp [targetCount]

theorem targetCount_stage (hfamily : e.family = .hlsl) (h : e.stage stage.tag r p = .ok as) :
    targetCount stage as = if p.isBytecode then 0 else 1 := by
  obtain ⟨blocks, pairs, hblocks, hpairs, rfl⟩ := stage_eq_ok.mp h
  rw [stageBody_eq, targetCount_append, targetCount_code hfamily]
  refine Nat.add_eq_left.mpr (targetCount_eq_zero fun a ha htarget => ?_)
  obtain ⟨place, hplace, ha⟩ := place_of_mem_stageRest hblocks hpairs ha
  obtain ⟨-, rfl⟩ : stage.tag = stage.tag ∧ StagePlace.target = place := by
    simpa [htarget] using ha
  exact hplace (by decide)

/-- The description of one stage has no compile target of the other. -/
theorem targetCount_other {other : ProgramStage} (hne : other ≠ stage)
    (h : e.stage other.tag r p = .ok as) : targetCount stage as = 0 := by
  refine targetCount_eq_zero fun a ha htarget => ?_
  obtain ⟨place, ha⟩ := place_of_mem_stage h ha
  rw [htarget] at ha
  cases stage <;> cases other <;> simp [ProgramStage.tag] at ha hne

/-- An HLSL program has one compile target for each stage without bytecode. -/
theorem targetCount_program {namePrefix : String} {program : Program} {b : BackendOutput}
    (hfamily : e.family = .hlsl) (h : e.program namePrefix program b = .ok as) :
    targetCount stage as = if (b.blob? (program.snippet stage)).isSome then 0 else 1 := by
  obtain ⟨vs, fs, hvs, hfs⟩ := sources_of_program h
  obtain ⟨asV, asF, hV, hF, rfl⟩ := (program_eq_ok hvs hfs).mp h
  obtain ⟨vertex, hvertex, hV⟩ := programStage_eq_ok.mp hV
  obtain ⟨fragment, hfragment, hF⟩ := programStage_eq_ok.mp hF
  have hattrs : targetCount stage
      ((vs.reflection.occupied Attr).flatMap fun (slot, a) => e.attr slot a) = 0 := by
    refine targetCount_eq_zero fun a ha htarget => ?_
    obtain ⟨sa, -, ha⟩ := List.mem_flatMap.mp ha
    obtain ⟨field, hfield⟩ := place_of_mem_attr ha
    simp [htarget] at hfield
  have hlabel : targetCount stage
      [⟨.label, .text (namePrefix ++ program.name ++ "_shader")⟩] = 0 :=
    targetCount_eq_zero fun a ha => by simp [List.mem_singleton.mp ha]
  simp only [targetCount_append, hattrs, hlabel, Nat.zero_add, Nat.add_zero]
  cases stage with
  | vertex =>
    rw [targetCount_stage hfamily hV, targetCount_other (by decide) hF,
      Payload.isBytecode_eq hvertex, Nat.add_zero]
  | fragment =>
    rw [targetCount_stage hfamily hF, targetCount_other (by decide) hV,
      Payload.isBytecode_eq hfragment, Nat.zero_add]

/-! ## Families -/

theorem ofSlang_eq_ok {slang : Slang} {family : Family} (h : slang.family = family.name) :
    ofSlang slang = .ok ⟨family, slang, h⟩ := by
  have hname : Family.ofName? slang.family = some family := by
    rw [h]
    cases family <;> rfl
  unfold ofSlang
  rw [hname]
  exact dif_pos h

/-- Languages of a family and of WGSL have emitters, which describe the same programs. Without the
bindings of the family the two descriptions from the same sources and bytecode are the same
statements, and the same lines at any indentation, but for the language at the end of the names of
arrays. Metal has no bindings, and HLSL one compile target for each stage without bytecode. -/
theorem program_differs_in_bindings {family : Family} (hs : s.family = family.name)
    (ht : t.family = Family.wgsl.name) (namePrefix : String) (program : Program)
    (b : BackendOutput) :
    ∃ e f : Emitter, ofSlang s = .ok e ∧ ofSlang t = .ok f ∧
      ((∃ as, e.program namePrefix program { b with slang := s } = .ok as) ↔
        ∃ cs, f.program namePrefix program { b with slang := t } = .ok cs) ∧
      ∀ as cs, e.program namePrefix program { b with slang := s } = .ok as →
        f.program namePrefix program { b with slang := t } = .ok cs →
        List.Forall₂ (Assignment.Renamed s t) (family.common as) cs ∧
        (∀ indent, List.Forall₂ (LineRenamed s t)
          ((family.common as).map (Assignment.line indent)) (cs.map (Assignment.line indent))) ∧
        (family = .metal → family.common as = as) ∧
        (family = .hlsl → ∀ stage : ProgramStage, targetCount stage as =
          if (b.blob? (program.snippet stage)).isSome then 0 else 1) := by
  refine ⟨_, _, ofSlang_eq_ok hs, ofSlang_eq_ok ht, ?_, fun as cs has hcs => ?_⟩
  · -- the languages differ in nothing that decides whether there is a description
    constructor
    · rintro ⟨as, has⟩
      obtain ⟨vs, fs, hvs, hfs⟩ := sources_of_program has
      have hdescribes := (exists_program_eq_ok _ namePrefix hvs hfs).mp ⟨as, has⟩
      exact (exists_program_eq_ok _ namePrefix (b := { b with slang := t }) hvs hfs).mpr hdescribes
    · rintro ⟨cs, hcs⟩
      obtain ⟨vs, fs, hvs, hfs⟩ := sources_of_program hcs
      have hdescribes := (exists_program_eq_ok _ namePrefix hvs hfs).mp ⟨cs, hcs⟩
      exact (exists_program_eq_ok _ namePrefix (b := { b with slang := s }) hvs hfs).mpr hdescribes
  · have hrenamed : List.Forall₂ (Assignment.Renamed s t) (family.common as) cs := by
      have hplain : Family.wgsl.common cs = cs := Family.common_of_plain fun _ => rfl
      rw [← hplain]
      exact program_renamed has hcs
    refine ⟨hrenamed, fun indent => ?_, ?_, ?_⟩
    · rw [List.forall₂_map_left_iff, List.forall₂_map_right_iff]
      exact hrenamed.imp fun a c h => lineRenamed_of_renamed h indent
    · rintro rfl
      exact Family.common_of_plain fun _ => rfl
    · rintro rfl stage
      have htarget : targetCount stage as = if ({ b with slang := s }.blob?
          (program.snippet stage)).isSome then 0 else 1 := targetCount_program rfl has
      exact htarget

/-! ## A program with bytecode for one stage -/

def directX : Slang := ⟨"hlsl5", "hlsl", ".D3D11", 5⟩

def webGpu : Slang := ⟨"wgsl", "wgsl", ".WGPU", 0⟩

def mixedProgram : Program := ⟨"p", "v", "f", 1⟩

/-- An attribute and a block for the vertex shader, which has bytecode, and a pair of image and
sampler for the fragment shader, which has none. -/
def mixedOutput : BackendOutput where
  slang := webGpu
  sources := [
    ⟨"v", "v", {
      stage := "vs"
      inputs := [{ slot := 0, name := "pos" }]
      uniformBlocks := [{ slot := 0, size := 16, structName := "params",
                          uniforms := [{ name := "tint", type := "float4", offset := 0 }] }] }⟩,
    ⟨"f", "f", {
      stage := "fs"
      images := [{ slot := 0, name := "tex" }]
      samplers := [{ slot := 0, name := "smp" }]
      imageSamplers := [⟨0, "tex_smp", "tex", "smp"⟩] }⟩]
  blobs := [⟨"v", [1, 2]⟩]

theorem mixed_differs_in_bindings :
    directX.family = Family.hlsl.name ∧ webGpu.family = Family.wgsl.name ∧
    ∃ e f : Emitter, ofSlang directX = .ok e ∧ ofSlang webGpu = .ok f ∧
      ∃ as cs, e.program "" mixedProgram { mixedOutput with slang := directX } = .ok as ∧
        f.program "" mixedProgram { mixedOutput with slang := webGpu } = .ok cs ∧
        List.Forall₂ (Assignment.Renamed directX webGpu) (Family.hlsl.common as) cs ∧
        targetCount .vertex as = 0 ∧ targetCount .fragment as = 1 := by
  have hhlsl : directX.family = Family.hlsl.name := rfl
  have hwgsl : webGpu.family = Family.wgsl.name := rfl
  obtain ⟨e, f, he, hf, hboth, hdiffers⟩ :=
    program_differs_in_bindings hhlsl hwgsl "" mixedProgram mixedOutput
  have hok : (e.program "" mixedProgram { mixedOutput with slang := directX }).toBool = true := by
    obtain rfl : e = ⟨.hlsl, directX, rfl⟩ := Except.ok.inj (he.symm.trans (ofSlang_eq_ok hhlsl))
    decide +kernel
  obtain ⟨as, has⟩ := exists_eq_ok_of_toBool hok
  obtain ⟨cs, hcs⟩ := hboth.mp ⟨as, has⟩
  obtain ⟨hrenamed, -, -, htargets⟩ := hdiffers as cs has hcs
  exact ⟨hhlsl, hwgsl, e, f, he, hf, as, cs, has, hcs, hrenamed, htargets rfl .vertex,
    htargets rfl .fragment⟩

end Emitter

end ShaderBindings
