/-
# What is encoded can be decoded

A byte sequence is written with triples for the bytes that a set names, and reading the triples
back gives the sequence again, provided that the escape sign itself is one of these bytes.  The
written form is plain ASCII, so that it has one byte for each character, and an encoding that
asks for none of its characters leaves it alone.
-/

import Mathlib.Data.List.Basic
import SettingsBroker.Text.Percent

namespace SettingsBroker.Text

variable {set : EncodeSet} {text : List Char} {bytes rest : Bytes} {b : UInt8} {c : Char}

/-! ## Text in ASCII -/

theorem toList_toByteArray (bytes : Bytes) : bytes.toByteArray.toList = bytes := by
  have hloop : ∀ (array : ByteArray) (i : Nat) (before : Bytes),
      ByteArray.toList.loop array i before = before.reverse ++ array.data.toList.drop i := by
    intro array i before
    fun_induction ByteArray.toList.loop array i before with
    | case1 i before hlt ih =>
      have hi : i < array.data.toList.length := by simpa using hlt
      rw [ih, List.drop_eq_getElem_cons hi]
      simp [ByteArray.get!, hlt]
    | case2 i before hge =>
      rw [List.drop_eq_nil_of_le (by simpa using Nat.le_of_not_lt hge), List.append_nil]
  rw [ByteArray.toList, hloop]
  simp

theorem utf8_ofList (text : List Char) :
    utf8 (String.ofList text) = text.flatMap String.utf8EncodeChar := by
  rw [utf8, String.toUTF8_eq_toByteArray, String.toByteArray_ofList, List.utf8Encode,
    toList_toByteArray]

/-- The bytes of a text in ASCII, one for each character. -/
def asciiBytes (text : List Char) : Bytes :=
  text.map fun c => UInt8.ofNat c.toNat

theorem utf8EncodeChar_of_ascii (h : c.toNat < 0x80) :
    String.utf8EncodeChar c = [UInt8.ofNat c.toNat] :=
  if_pos (Nat.le_of_lt_succ h)

theorem utf8_of_ascii (h : ∀ c ∈ text, c.toNat < 0x80) :
    utf8 (String.ofList text) = asciiBytes text := by
  rw [utf8_ofList, asciiBytes, List.map_eq_flatMap]
  exact List.flatMap_congr fun c hc => utf8EncodeChar_of_ascii (h c hc)

theorem toNat_ofNat_of_ascii (h : c.toNat < 0x80) : (UInt8.ofNat c.toNat).toNat = c.toNat := by
  rw [UInt8.toNat_ofNat', Nat.mod_eq_of_lt (by omega)]

/-- A character that a set does not ask for stands for itself. -/
theorem percentChar_of_not_set (hascii : c.toNat < 0x80)
    (hset : set (UInt8.ofNat c.toNat) = false) : percentChar set c = [c] := by
  have hbyte : utf8 (String.singleton c) = [UInt8.ofNat c.toNat] := by
    rw [String.singleton_eq_ofList, utf8_ofList, List.flatMap_singleton,
      utf8EncodeChar_of_ascii hascii]
  have hlow : ¬ 0x80 ≤ UInt8.ofNat c.toNat := by
    rw [UInt8.le_iff_toNat_le, toNat_ofNat_of_ascii hascii]
    exact Nat.not_le_of_lt hascii
  rw [percentChar, hbyte, percentEncode, List.flatMap_singleton, percentByte, hset]
  simp [hlow, toNat_ofNat_of_ascii hascii]

theorem flatMap_percentChar_of_not_set
    (h : ∀ c ∈ text, c.toNat < 0x80 ∧ set (UInt8.ofNat c.toNat) = false) :
    text.flatMap (percentChar set) = text := by
  calc text.flatMap (percentChar set)
      = text.flatMap ([·]) :=
        List.flatMap_congr fun c hc => percentChar_of_not_set (h c hc).1 (h c hc).2
    _ = text := by simp

/-! ## Characters of a written byte sequence -/

theorem hexDigit_ascii {n : Nat} (h : n < 16) : (hexDigit n).toNat < 0x80 := by
  revert n
  decide

/-- A byte is written as a triple or, in ASCII, as the character that it stands for. -/
theorem percentByte_cases (set : EncodeSet) (b : UInt8) :
    percentByte set b = percentTriple b ∨
      ∃ c, percentByte set b = [c] ∧ c.toNat < 0x80 ∧ UInt8.ofNat c.toNat = b ∧
        set b = false := by
  rw [percentByte]
  split
  · exact Or.inl rfl
  · next hplain =>
    simp only [Bool.or_eq_true, decide_eq_true_eq, not_or, Bool.not_eq_true,
      UInt8.le_iff_toNat_le] at hplain
    obtain ⟨hlow, hset⟩ := hplain
    have hlow : b.toNat < 0x80 := Nat.lt_of_not_le hlow
    have hnat : (Char.ofNat b.toNat).toNat = b.toNat := by
      rw [Char.ofNat, dif_pos (Or.inl (by omega))]
      rfl
    exact Or.inr ⟨_, rfl, by rwa [hnat], by rw [hnat, UInt8.ofNat_toNat], hset⟩

/-- What a byte is written with: the escape sign, digits, or the character that it stands for
where the set does not ask for it. -/
theorem mem_percentByte (h : c ∈ percentByte set b) :
    c.toNat < 0x80 ∧
      (c = '%' ∨ (∃ n < 16, c = hexDigit n) ∨ (UInt8.ofNat c.toNat = b ∧ set b = false)) := by
  have hb : b.toNat < 256 := b.toNat_lt
  obtain htriple | ⟨plain, hplain, hascii, hbyte, hset⟩ := percentByte_cases set b
  · simp only [htriple, percentTriple, List.mem_cons, List.not_mem_nil, or_false] at h
    obtain rfl | rfl | rfl := h
    · exact ⟨by decide, Or.inl rfl⟩
    · exact ⟨hexDigit_ascii (by omega), Or.inr (Or.inl ⟨_, by omega, rfl⟩)⟩
    · exact ⟨hexDigit_ascii (by omega), Or.inr (Or.inl ⟨_, by omega, rfl⟩)⟩
  · rw [hplain, List.mem_singleton] at h
    rw [h]
    exact ⟨hascii, Or.inr (Or.inr ⟨hbyte, hset⟩)⟩

/-- Only a character in ASCII has a byte in ASCII. -/
theorem toNat_eq_of_mem_utf8EncodeChar (hb : b ∈ String.utf8EncodeChar c)
    (hlow : b.toNat < 0x80) : c.toNat = b.toNat := by
  have hc : c.val.toNat < 0x110000 := by
    have hvalid := c.valid
    unfold UInt32.isValidChar Nat.isValidChar at hvalid
    omega
  simp only [String.utf8EncodeChar] at hb
  split at hb
  · rw [List.mem_singleton] at hb
    rw [hb, UInt8.toNat_ofNat']
    show c.val.toNat = _
    omega
  · exfalso
    split at hb
    · simp only [List.mem_cons, List.not_mem_nil, or_false] at hb
      obtain rfl | rfl := hb <;> rw [UInt8.toNat_ofNat'] at hlow <;> omega
    · split at hb
      · simp only [List.mem_cons, List.not_mem_nil, or_false] at hb
        obtain rfl | rfl | rfl := hb <;> rw [UInt8.toNat_ofNat'] at hlow <;> omega
      · simp only [List.mem_cons, List.not_mem_nil, or_false] at hb
        obtain rfl | rfl | rfl | rfl := hb <;> rw [UInt8.toNat_ofNat'] at hlow <;> omega

/-- The characters that file names are written with. -/
def IsNameCharacter (c : Char) : Prop :=
  c.toNat < 0x80 ∧ (c = '%' ∨ EncodeSet.pathSegment (UInt8.ofNat c.toNat) = false)

theorem isNameCharacter_of_mem (h : c ∈ percentEncode EncodeSet.pathSegment bytes) :
    IsNameCharacter c := by
  obtain ⟨b, -, hc⟩ := List.mem_flatMap.mp h
  obtain ⟨hascii, hsign | ⟨n, hn, rfl⟩ | ⟨rfl, hset⟩⟩ := mem_percentByte hc
  · exact ⟨hascii, Or.inl hsign⟩
  · have hdigits : ∀ n < 16,
        EncodeSet.pathSegment (UInt8.ofNat (hexDigit n).toNat) = false := by decide +kernel
    exact ⟨hascii, Or.inr (hdigits n hn)⟩
  · exact ⟨hascii, Or.inr hset⟩

/-! ## Reading triples back -/

theorem hexValue?_hexDigit {n : Nat} (h : n < 16) :
    hexValue? (UInt8.ofNat (hexDigit n).toNat) = some (UInt8.ofNat n) := by
  revert n
  decide

theorem percentDecode_cons_of_ne (h : b ≠ 0x25) (rest : Bytes) :
    percentDecode (b :: rest) = b :: percentDecode rest := by
  rw [percentDecode.eq_def]
  simp [h]

theorem percentDecode_percentByte (hsign : set 0x25 = true) (b : UInt8) (rest : Bytes) :
    percentDecode (asciiBytes (percentByte set b) ++ rest) = b :: percentDecode rest := by
  have hb : b.toNat < 256 := b.toNat_lt
  obtain htriple | ⟨c, hplain, -, hbyte, hset⟩ := percentByte_cases set b
  · have hvalue : UInt8.ofNat (b.toNat / 16) * 16 + UInt8.ofNat (b.toNat % 16) = b := by
      apply UInt8.toNat_inj.mp
      simp only [UInt8.toNat_add, UInt8.toNat_mul, UInt8.toNat_ofNat', UInt8.reduceToNat]
      omega
    have hescape : UInt8.ofNat '%'.toNat = 0x25 := rfl
    simp only [htriple, percentTriple, asciiBytes, List.map_cons, List.map_nil, List.cons_append,
      List.nil_append]
    rw [percentDecode, hescape, if_pos (beq_self_eq_true _)]
    simp only [hexValue?_hexDigit (show b.toNat / 16 < 16 by omega),
      hexValue?_hexDigit (show b.toNat % 16 < 16 by omega), hvalue]
  · have hother : b ≠ 0x25 := by
      rintro rfl
      rw [hsign] at hset
      cases hset
    rw [hplain, asciiBytes, List.map_singleton, hbyte, List.singleton_append,
      percentDecode_cons_of_ne hother]

/-- What is encoded can be decoded where the escape sign is encoded too. -/
theorem percentDecode_percentEncode (hsign : set 0x25 = true) (bytes : Bytes) :
    percentDecode (utf8 (String.ofList (percentEncode set bytes))) = bytes := by
  have hascii : ∀ c ∈ percentEncode set bytes, c.toNat < 0x80 := by
    intro c hc
    obtain ⟨b, -, hc⟩ := List.mem_flatMap.mp hc
    exact (mem_percentByte hc).1
  rw [utf8_of_ascii hascii]
  clear hascii
  induction bytes with
  | nil => simp [percentEncode, asciiBytes, percentDecode]
  | cons b bytes ih =>
    have hcons : asciiBytes (percentEncode set (b :: bytes)) =
        asciiBytes (percentByte set b) ++ asciiBytes (percentEncode set bytes) := by
      simp [asciiBytes, percentEncode]
    rw [hcons, percentDecode_percentByte hsign, ih]

end SettingsBroker.Text
