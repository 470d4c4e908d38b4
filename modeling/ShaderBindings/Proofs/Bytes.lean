/-
  Bytes written as hexadecimal text are read back as they were (`ofHex_toHex`), and so is text
  written as bytes (`text?_eq_some`); its ASCII characters can be counted in its bytes
  (`count_ofText`), which is how the line feeds of a written file are counted.
-/
import ShaderBindings.Bytes.Hex

namespace ShaderBindings.Bytes

/-- The digits that are written, with the values that they are read as. -/
theorem hexDigit_read (n : Nat) (h : n < 16) : hexValue? (Nat.digitChar n) = some n ∧
    Text.isAsciiBlank (Nat.digitChar n) = false ∧ (Nat.digitChar n).toNat < 0x80 := by
  have hall : ∀ n < 16, hexValue? (Nat.digitChar n) = some n ∧
      Text.isAsciiBlank (Nat.digitChar n) = false ∧ (Nat.digitChar n).toNat < 0x80 := by decide
  exact hall n h

theorem ofNibbles_div_mod (b : UInt8) : ofNibbles (b.toNat / 16) (b.toNat % 16) = b := by
  unfold ofNibbles
  rw [Nat.div_add_mod]
  exact UInt8.ofNat_toNat

theorem toList_toHex (bytes : Bytes) : (toHex bytes).toList =
    bytes.flatMap fun b => [Nat.digitChar (b.toNat / 16), Nat.digitChar (b.toNat % 16)] := by
  simp [toHex, hexByte, List.flatMap_map]

/-- Each byte is read from its two digits. -/
theorem hexPairs_toHex (bytes : Bytes) (position : Nat) :
    hexPairs position (toHex bytes).toList = .ok bytes := by
  rw [toList_toHex]
  induction bytes generalizing position with
  | nil => rfl
  | cons b rest ih =>
    have hb := UInt8.toNat_lt b
    obtain ⟨hhigh, hblank, -⟩ := hexDigit_read (b.toNat / 16) (by omega)
    obtain ⟨hlow, -, -⟩ := hexDigit_read (b.toNat % 16) (by omega)
    rw [List.flatMap_cons, List.cons_append, List.cons_append, List.nil_append]
    unfold hexPairs
    simp only [hblank, hhigh, hlow, ih, ofNibbles_div_mod, Bool.false_eq_true, if_false,
      Except.map]

theorem ofHex_toHex (bytes : Bytes) : ofHex (toHex bytes) = .ok bytes := by
  have hascii : (toHex bytes).toList.findIdx? (fun c => decide (0x80 ≤ c.toNat)) = none := by
    rw [List.findIdx?_eq_none_iff, toList_toHex]
    intro c hc
    obtain ⟨b, -, hc⟩ := List.mem_flatMap.mp hc
    have hb := UInt8.toNat_lt b
    have hhigh := (hexDigit_read (b.toNat / 16) (by omega)).2.2
    have hlow := (hexDigit_read (b.toNat % 16) (by omega)).2.2
    simp only [List.mem_cons, List.not_mem_nil, or_false] at hc
    rcases hc with rfl | rfl
    · exact decide_eq_false (by omega)
    · exact decide_eq_false (by omega)
  unfold ofHex
  rw [hascii]
  exact hexPairs_toHex bytes 0

/-! ## Text as bytes -/

theorem toByteArray_eq (s : String) : (⟨(ofText s).toArray⟩ : ByteArray) = s.toByteArray := by
  rw [← String.ofList_toList (s := s), String.toByteArray_ofList]
  refine ByteArray.ext ?_
  rw [List.utf8Encode, List.data_toByteArray, String.ofList_toList]
  rfl

/-- Bytes are read as the text whose bytes they are, and as nothing else. -/
theorem text?_eq_some {bytes : Bytes} {s : String} : text? bytes = some s ↔ bytes = ofText s := by
  constructor
  · intro h
    unfold text? String.fromUTF8? at h
    split at h
    · next hvalid =>
      obtain rfl := Option.some.inj h
      exact (congrArg (fun b => b.data.toList) (toByteArray_eq (.fromUTF8 ⟨_⟩ hvalid))).symm
    · simp at h
  · rintro rfl
    unfold text?
    rw [toByteArray_eq, String.fromUTF8?, dif_pos s.isValidUTF8]
    rfl

/-- In UTF-8 a byte below 128 stands for the character with its number and for nothing else. -/
theorem count_utf8EncodeChar {k : UInt8} (hk : k.toNat < 128) (c : Char) :
    (String.utf8EncodeChar c).count k = if c.toNat = k.toNat then 1 else 0 := by
  have hbyte (n : Nat) : UInt8.ofNat n = k ↔ n % 256 = k.toNat := by
    rw [← UInt8.toNat_inj]
    simp
  change _ = if c.val.toNat = k.toNat then 1 else 0
  unfold String.utf8EncodeChar
  generalize c.val.toNat = n
  dsimp only
  split
  · simp only [List.count_singleton, beq_iff_eq, hbyte, Nat.mod_eq_of_lt (show n < 256 by omega)]
  · -- from here on all bytes are at least 128
    have hfar : n ≠ k.toNat := by omega
    rw [if_neg hfar, List.count_eq_zero]
    split
    · simp only [List.mem_cons, List.not_mem_nil, or_false, eq_comm (a := k), hbyte]
      omega
    · split
      · simp only [List.mem_cons, List.not_mem_nil, or_false, eq_comm (a := k), hbyte]
        omega
      · simp only [List.mem_cons, List.not_mem_nil, or_false, eq_comm (a := k), hbyte]
        omega

/-- A character below 128 is as often in a text as its byte is in the bytes of the text. -/
theorem count_ofText {c : Char} (hc : c.toNat < 128) (s : String) :
    (ofText s).count (UInt8.ofNat c.toNat) = s.toList.count c := by
  have hbyte : (UInt8.ofNat c.toNat).toNat = c.toNat := by
    simp [Nat.mod_eq_of_lt (show c.toNat < 256 by omega)]
  unfold ofText
  induction s.toList with
  | nil => rfl
  | cons d ds ih =>
    rw [List.flatMap_cons, List.count_append, ih, count_utf8EncodeChar (by omega), hbyte,
      List.count_cons, Nat.add_comm]
    simp only [beq_iff_eq, Char.toNat_inj]

/-- The line feeds of a text are those of its bytes. -/
theorem count_newline_ofText (s : String) : (ofText s).count 10 = s.toList.count '\n' :=
  count_ofText (c := '\n') (by decide) s

end ShaderBindings.Bytes
