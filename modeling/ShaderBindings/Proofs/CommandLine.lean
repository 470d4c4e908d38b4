/-
  Which values a command line gives to which options (`CommandLine.given`): the one attached to
  an option, or else the word behind it. Taking the words from left to right collects the host
  type mappings in that order (`ctypes_ofWords`). Of the other options only what a configuration
  needs is said here.
-/
import ShaderBindings.CommandLine.Arguments
import ShaderBindings.Proofs.Fallible

namespace ShaderBindings.CommandLine

open Fallible

/-! ## Words with an equals sign -/

theorem splitAtEquals_append {name : List Char} (h : '=' ∉ name) (value : List Char) :
    splitAtEquals (name ++ '=' :: value) = (String.ofList name, some (String.ofList value)) := by
  have hname : ∀ c ∈ name, decide (c ≠ '=') = true := fun c hc => by
    simpa using fun heq : c = '=' => h (heq ▸ hc)
  unfold splitAtEquals
  rw [List.takeWhile_append_of_pos hname, List.dropWhile_append_of_pos hname]
  simp

theorem eq_of_splitAtEquals {cs : List Char} {name value : String}
    (h : splitAtEquals cs = (name, some value)) : cs = name.toList ++ '=' :: value.toList := by
  unfold splitAtEquals at h
  split at h
  · simp at h
  · next c rest hdrop =>
    obtain ⟨rfl, hvalue⟩ := Prod.mk.injEq .. ▸ h
    obtain rfl := Option.some.inj hvalue
    have hc : c = '=' := by
      have hhead := List.head?_dropWhile_not (fun c => decide (c ≠ '=')) cs
      rw [hdrop] at hhead
      simpa using hhead
    rw [hc] at hdrop
    rw [String.toList_ofList, String.toList_ofList, ← hdrop, List.takeWhile_append_dropWhile]

/-! ## Values in order -/

/-- Whether an option is of no use without a value. -/
def OptionName.takesValue : OptionName → Bool
  | .help | .listSlangs => false
  | _ => true

/-- The options that have values, each with its value, in order. -/
def given : List Token → List (OptionName × String)
  | .option o (some value) :: rest => (o, value) :: given rest
  | .option o none :: .value value :: rest =>
    if o.takesValue then (o, value) :: given rest else given rest
  | _ :: rest => given rest
  | [] => []

/-- The values of one option, in order. -/
def valuesOf (o : OptionName) (ts : List Token) : List String :=
  ((given ts).filter (·.1 = o)).map Prod.snd

theorem valuesOf_option {o p : OptionName} {value : String} {rest : List Token} :
    valuesOf o (.option p (some value) :: rest) =
      (if p = o then [value] else []) ++ valuesOf o rest := by
  unfold valuesOf
  rw [given, List.filter_cons]
  split <;> simp_all

/-- An option that needs a value has the word behind it. -/
theorem given_needy {o : OptionName} (h : o.takesValue = true) (value : String)
    (rest : List Token) :
    given (.option o none :: .value value :: rest) = given (.option o (some value) :: rest) := by
  rw [given, given, if_pos h]

/-- An option that needs no value leaves the word behind it alone. -/
theorem given_flag {o : OptionName} (h : o.takesValue = false) (rest : List Token) :
    given (.option o none :: rest) = given rest := by
  match rest with
  | [] => rfl
  | .value _ :: _ => simp [given, h]
  | .option _ _ :: _ => simp [given]
  | .stray :: _ => simp [given]

namespace Arguments

/-- The setting for a value that may be any text. -/
def textSetting (value : String) : Setting String := if value = "--" then .blank else .value value

theorem readValue_ok (value : String) : readValue .ok value = .ok (textSetting value) := by
  unfold readValue textSetting
  split <;> rfl

theorem textSetting_eq_value {value s : String} (h : textSetting value = .value s) : value = s := by
  unfold textSetting at h
  split at h
  · simp at h
  · simpa using h

theorem eq_of_map_textSetting {values texts : List String}
    (h : values.map textSetting = texts.map Setting.value) : values = texts := by
  induction values generalizing texts with
  | nil => exact (List.map_eq_nil_iff.mp h.symm).symm
  | cons value rest ih =>
    cases texts with
    | nil => simp at h
    | cons text more =>
      obtain ⟨hvalue, hrest⟩ := List.cons.inj h
      rw [textSetting_eq_value hvalue, ih hrest]

/-! ## Taking words -/

/-- An option with a value adds to the host type mappings if it is one. -/
theorem ctypes_withValue {args done : Arguments} {value : String} {o : OptionName}
    (h : args.withValue value o = .ok done) :
    done.ctypes = args.ctypes ++ (if o = .ctype then [value] else []).map textSetting := by
  cases o with
  | ctype =>
    unfold withValue at h
    rw [readValue_ok, ok_bind] at h
    obtain rfl := pure_eq_ok.mp h
    rfl
  | help | listSlangs => simp [withValue] at h
  | input | output | slang | module | genver | errfmt =>
    obtain ⟨setting, -, h⟩ := bind_eq_ok.mp h
    obtain rfl := pure_eq_ok.mp h
    exact (List.append_nil _).symm

theorem withFlag?_eq_none {args : Arguments} {o : OptionName} :
    args.withFlag? o = none ↔ o.takesValue = true := by
  cases o <;> simp [withFlag?, OptionName.takesValue]

theorem ctypes_withFlag? {args done : Arguments} {o : OptionName}
    (h : args.withFlag? o = some (.ok done)) : done.ctypes = args.ctypes := by
  cases o <;> simp [withFlag?] at h
  subst h
  rfl

/-- The host type mappings are those before and the values given to them, in order. -/
theorem ctypes_take {args done : Arguments} {leftOver : Bool} {ts : List Token}
    (h : args.take leftOver ts = .ok done) :
    done.ctypes = args.ctypes ++ (valuesOf .ctype ts).map textSetting := by
  fun_induction take args leftOver ts with
  | case1 => simp at h
  | case2 =>
    obtain rfl := Except.ok.inj h
    exact (List.append_nil _).symm
  | case3 args leftOver text rest ih => exact ih h
  | case4 args leftOver rest ih => exact ih h
  | case5 args leftOver o value rest ih =>
    obtain ⟨next, hnext, h⟩ := bind_eq_ok.mp h
    rw [ih next h, ctypes_withValue hnext, valuesOf_option, List.map_append, List.append_assoc]
  | case6 args leftOver o rest taken htaken ih =>
    obtain ⟨next, rfl, h⟩ := bind_eq_ok.mp h
    have hflag : o.takesValue = false := by
      rw [← Bool.not_eq_true, ← withFlag?_eq_none, htaken]
      simp
    rw [ih next h, ctypes_withFlag? htaken, valuesOf, valuesOf, given_flag hflag]
  | case7 args leftOver o hneedy value rest ih =>
    obtain ⟨next, hnext, h⟩ := bind_eq_ok.mp h
    have hgiven := given_needy (withFlag?_eq_none.mp hneedy) value rest
    rw [ih next h, ctypes_withValue hnext, valuesOf, valuesOf, hgiven, ← valuesOf, ← valuesOf,
      valuesOf_option, List.map_append, List.append_assoc]
  | case8 => simp at h

/-- The host type mappings of a command line are the values it gives to them, in order. -/
theorem ctypes_ofWords {words : List String} {args : Arguments} (h : ofWords words = .ok args) :
    ∃ ts, tokens words = some ts ∧ args.ctypes = (valuesOf .ctype ts).map textSetting := by
  unfold ofWords at h
  split at h
  · next ts hts => exact ⟨ts, hts, ctypes_take h⟩
  · simp at h

end Arguments

end ShaderBindings.CommandLine
