import SwapArchive.Text.Utf8

/-!
# Reading what has been encoded

The bytes of a text are read back as the characters of the text. A byte below 128 is a character
by itself, and no such byte is part of another character.
-/

namespace SwapArchive.Text

variable {c : Char} {n : Nat}

theorem toNat_byte (h : n < 256) : (UInt8.ofNat n).toNat = n := by
  rw [UInt8.toNat_ofNat']
  exact Nat.mod_eq_of_lt h

theorem followingBits?_byte (h : n < 64) : followingBits? (UInt8.ofNat (128 + n)) = some n := by
  rw [followingBits?, toNat_byte (by omega), if_pos (by omega), Nat.add_sub_cancel_left]

theorem charOf?_toNat {least : Nat} (h : least ≤ c.toNat) (hn : n = c.toNat) :
    charOf? least n = some c := by
  have hValid : c.toNat.isValidChar := c.valid
  rw [hn, charOf?, if_pos ⟨h, hValid⟩, Char.ofNat_toNat]

theorem toNat_lt (c : Char) : c.toNat < 1114112 := by
  have hValid : c.toNat.isValidChar := c.valid
  rw [Nat.isValidChar] at hValid
  omega

/-- **A character is read back from its bytes**, whatever follows them. -/
theorem decodeChar?_encodeChar (c : Char) (rest : List UInt8) :
    decodeChar? (encodeChar c ++ rest) = some (c, rest) := by
  have hBound := toNat_lt c
  unfold encodeChar
  simp only []
  -- One case for each number of bytes. The bytes are taken up by rewriting, one after the other,
  -- since the kernel would count the least code point down to compare the whole readings.
  split
  · next h1 =>
    have hByte : (UInt8.ofNat c.toNat).toNat = c.toNat := toNat_byte (by omega)
    simp only [List.cons_append, List.nil_append, decodeChar?, hByte, if_pos h1,
      charOf?_toNat (Nat.zero_le _) rfl, Option.map_some]
  split
  · next h1 h2 =>
    have hLead : (UInt8.ofNat (192 + c.toNat / 64)).toNat = 192 + c.toNat / 64 :=
      toNat_byte (by omega)
    simp only [List.cons_append, List.nil_append, decodeChar?, hLead]
    rw [if_neg (by omega), if_neg (by omega), if_pos (by omega), followingBits?_byte (by omega)]
    rw [Option.bind_eq_bind, Option.bind_some,
      charOf?_toNat (c := c) (by omega) (by omega), Option.map_some]
  split
  · next h1 h2 h3 =>
    have hLead : (UInt8.ofNat (224 + c.toNat / 4096)).toNat = 224 + c.toNat / 4096 :=
      toNat_byte (by omega)
    simp only [List.cons_append, List.nil_append, decodeChar?, hLead]
    rw [if_neg (by omega), if_neg (by omega), if_neg (by omega), if_pos (by omega),
      followingBits?_byte (by omega), followingBits?_byte (by omega)]
    rw [Option.bind_eq_bind, Option.bind_some, Option.bind_some,
      charOf?_toNat (c := c) (by omega) (by omega), Option.map_some]
  · next h1 h2 h3 =>
    have hLead : (UInt8.ofNat (240 + c.toNat / 262144)).toNat = 240 + c.toNat / 262144 :=
      toNat_byte (by omega)
    simp only [List.cons_append, List.nil_append, decodeChar?, hLead]
    rw [if_neg (by omega), if_neg (by omega), if_neg (by omega), if_neg (by omega),
      if_pos (by omega), followingBits?_byte (by omega), followingBits?_byte (by omega),
      followingBits?_byte (by omega)]
    rw [Option.bind_eq_bind, Option.bind_some, Option.bind_some, Option.bind_some,
      charOf?_toNat (c := c) (by omega) (by omega), Option.map_some]

theorem toNat_ofUInt8 (b : UInt8) : (Char.ofUInt8 b).toNat = b.toNat := rfl

theorem encodeChar_of_ascii (h : c.toNat < 128) : encodeChar c = [UInt8.ofNat c.toNat] := by
  rw [encodeChar]
  exact if_pos h

theorem ofUInt8_byte (h : c.toNat < 128) : Char.ofUInt8 (UInt8.ofNat c.toNat) = c := by
  apply Char.toNat_inj.1
  rw [toNat_ofUInt8, toNat_byte (by omega)]

/-- The first byte of a character, seen as a character, is that character, or both are beyond
those of one byte. -/
theorem exists_encodeChar (c : Char) : ∃ b rest, encodeChar c = b :: rest ∧
    (Char.ofUInt8 b = c ∨ 128 ≤ c.toNat ∧ 128 ≤ (Char.ofUInt8 b).toNat) := by
  have hBound := toNat_lt c
  by_cases hAscii : c.toNat < 128
  · exact ⟨_, _, encodeChar_of_ascii hAscii, .inl (ofUInt8_byte hAscii)⟩
  · have hLead {n : Nat} (hLow : 128 ≤ n) (hHigh : n < 256) :
        128 ≤ (Char.ofUInt8 (UInt8.ofNat n)).toNat := by
      rw [toNat_ofUInt8, toNat_byte hHigh]
      exact hLow
    unfold encodeChar
    simp only [if_neg hAscii]
    split
    · exact ⟨_, _, rfl, .inr ⟨by omega, hLead (by omega) (by omega)⟩⟩
    split
    · exact ⟨_, _, rfl, .inr ⟨by omega, hLead (by omega) (by omega)⟩⟩
    · exact ⟨_, _, rfl, .inr ⟨by omega, hLead (by omega) (by omega)⟩⟩

end SwapArchive.Text
