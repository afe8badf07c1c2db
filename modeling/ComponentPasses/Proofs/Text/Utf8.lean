import ComponentPasses.Text.Utf8

/-!
# A text that is written is read back

The bytes of a text are those of its characters one after the other, so it is enough that the bytes
of a character are read as the character, whatever comes after them (`decodeFrom_utf8EncodeChar`).

The first octet of several says between which bounds the next one is.  These rule out the octets of
a surrogate, of a character beyond the last, and of one that fewer octets write; those of a
character lie within them.
-/

namespace ComponentPasses.Text

variable {position v : Nat} {rest : List UInt8}

/-! ## 1. Octets -/

theorem toNat_octet {n : Nat} (h : n < 256) : (UInt8.ofNat n).toNat = n := by
  rw [UInt8.toNat_ofNat', Nat.mod_eq_of_lt h]

/-- An octet within the bounds adds six bits. -/
theorem continueCharacter_octet {count low high code used n : Nat} (least : low ≤ n)
    (greatest : n ≤ high) (octet : n < 256) :
    continueCharacter (count + 1) low high code used (UInt8.ofNat n :: rest) =
      continueCharacter count 0x80 0xbf (code * 64 + (n - 0x80)) (used + 1) rest := by
  rw [continueCharacter, toNat_octet octet, if_pos ⟨least, greatest⟩]

/-- What a first octet and those after it come to is a character; the rest is read after them. -/
theorem decodeFrom_lead {n bits count low high code : Nat} (octet : n < 256) (large : 0x80 ≤ n)
    (lead : leadByte? n = some (bits, count, low, high))
    (reads : continueCharacter count low high bits 1 rest = .character code) :
    decodeFrom position 0 (UInt8.ofNat n :: rest) =
      (decodeFrom (position + 1) count rest).map (Char.ofNat code :: ·) := by
  rw [decodeFrom, toNat_octet octet, if_neg (Nat.not_lt.mpr large), lead]
  simp only [reads]
  rfl

theorem leadByte?_two {n : Nat} (least : 0xc2 ≤ n) (greatest : n < 0xe0) :
    leadByte? n = some (n - 0xc0, 1, 0x80, 0xbf) := by
  rw [leadByte?, if_neg (Nat.not_lt.mpr least), if_pos greatest]

/-- The first of three octets lets the second pass, since the character is no surrogate. -/
theorem exists_leadByte?_three (least : 0x800 ≤ v) (greatest : v < 0x10000)
    (valid : v.isValidChar) :
    ∃ low high, leadByte? (v / 4096 % 16 + 224) = some (v / 4096 % 16, 2, low, high) ∧
      low ≤ v / 64 % 64 + 128 ∧ v / 64 % 64 + 128 ≤ high := by
  rw [leadByte?, if_neg (by omega), if_neg (by omega)]
  by_cases first : v / 4096 % 16 + 224 = 0xe0
  · exact ⟨_, _, by rw [if_pos first, show v / 4096 % 16 = 0 by omega], by omega, by omega⟩
  by_cases beforeSurrogates : v / 4096 % 16 + 224 = 0xed
  · refine ⟨_, _, by rw [if_neg first, if_pos beforeSurrogates,
      show v / 4096 % 16 = 0xd by omega], by omega, ?_⟩
    rcases valid with below | above <;> omega
  · exact ⟨0x80, 0xbf, by rw [if_neg first, if_neg beforeSurrogates, if_pos (by omega),
      Nat.add_sub_cancel], by omega, by omega⟩

/-- The first of four octets lets the second pass, since the character is not beyond the last. -/
theorem exists_leadByte?_four (least : 0x10000 ≤ v) (greatest : v < 0x110000) :
    ∃ low high, leadByte? (v / 262144 % 8 + 240) = some (v / 262144 % 8, 3, low, high) ∧
      low ≤ v / 4096 % 64 + 128 ∧ v / 4096 % 64 + 128 ≤ high := by
  rw [leadByte?, if_neg (by omega), if_neg (by omega), if_neg (by omega), if_neg (by omega),
    if_neg (by omega)]
  by_cases first : v / 262144 % 8 + 240 = 0xf0
  · exact ⟨_, _, by rw [if_pos first, show v / 262144 % 8 = 0 by omega], by omega, by omega⟩
  by_cases last : v / 262144 % 8 + 240 = 0xf4
  · exact ⟨_, _, by rw [if_neg first, if_neg (by omega), if_pos last,
      show v / 262144 % 8 = 4 by omega], by omega, by omega⟩
  · exact ⟨0x80, 0xbf, by rw [if_neg first, if_pos (by omega), Nat.add_sub_cancel],
      by omega, by omega⟩

/-! ## 2. Texts -/

/-- The octets of a character are read as the character, and reading goes on after them. -/
theorem decodeFrom_utf8EncodeChar (c : Char) :
    decodeFrom position 0 (String.utf8EncodeChar c ++ rest) =
      (decodeFrom (position + (String.utf8EncodeChar c).length) 0 rest).map (c :: ·) := by
  have valid : c.val.toNat.isValidChar := c.valid
  have same : Char.ofNat c.val.toNat = c := Char.ofNat_toNat c
  unfold String.utf8EncodeChar
  generalize c.val.toNat = v at *
  subst same
  dsimp only
  split
  case isTrue one =>
    rw [List.singleton_append, decodeFrom, toNat_octet (by omega), if_pos (by omega)]
    rfl
  case isFalse more =>
  split
  case isTrue two =>
    have reads : continueCharacter 1 0x80 0xbf (v / 64 % 32 + 192 - 0xc0) 1
        (UInt8.ofNat (v % 64 + 128) :: rest) = .character v := by
      have code : (v / 64 % 32 + 192 - 0xc0) * 64 + (v % 64 + 128 - 0x80) = v := by omega
      rw [continueCharacter_octet (by omega) (by omega) (by omega), continueCharacter, code]
    exact decodeFrom_lead (by omega) (by omega) (leadByte?_two (by omega) (by omega)) reads
  case isFalse more =>
  split
  case isTrue three =>
    obtain ⟨low, high, lead, least, greatest⟩ :=
      exists_leadByte?_three (by omega) (by omega) valid
    have reads : continueCharacter 2 low high (v / 4096 % 16) 1
        (UInt8.ofNat (v / 64 % 64 + 128) :: UInt8.ofNat (v % 64 + 128) :: rest) =
          .character v := by
      have code : (v / 4096 % 16 * 64 + (v / 64 % 64 + 128 - 0x80)) * 64 +
          (v % 64 + 128 - 0x80) = v := by omega
      rw [continueCharacter_octet least greatest (by omega),
        continueCharacter_octet (by omega) (by omega) (by omega), continueCharacter, code]
    exact decodeFrom_lead (by omega) (by omega) lead reads
  case isFalse four =>
    have within : v < 0x110000 := by rcases valid with below | above <;> omega
    obtain ⟨low, high, lead, least, greatest⟩ := exists_leadByte?_four (by omega) within
    have reads : continueCharacter 3 low high (v / 262144 % 8) 1
        (UInt8.ofNat (v / 4096 % 64 + 128) :: UInt8.ofNat (v / 64 % 64 + 128) ::
          UInt8.ofNat (v % 64 + 128) :: rest) = .character v := by
      have code : ((v / 262144 % 8 * 64 + (v / 4096 % 64 + 128 - 0x80)) * 64 +
          (v / 64 % 64 + 128 - 0x80)) * 64 + (v % 64 + 128 - 0x80) = v := by omega
      rw [continueCharacter_octet least greatest (by omega),
        continueCharacter_octet (by omega) (by omega) (by omega),
        continueCharacter_octet (by omega) (by omega) (by omega), continueCharacter, code]
    exact decodeFrom_lead (by omega) (by omega) lead reads

theorem decodeFrom_flatMap (position : Nat) (s : List Char) :
    decodeFrom position 0 (s.flatMap String.utf8EncodeChar) = .ok s := by
  induction s generalizing position with
  | nil => rfl
  | cons c rest ih =>
    rw [List.flatMap_cons, decodeFrom_utf8EncodeChar, ih]
    rfl

/-- **A text that is written is read back.** -/
theorem decodeUtf8_toUTF8 (s : String) : decodeUtf8 s.toUTF8.data.toList = .ok s := by
  have bytes : s.toUTF8.data.toList = s.toList.flatMap String.utf8EncodeChar := by
    rw [String.toUTF8, ← String.utf8Encode_toList, List.utf8Encode, List.toList_data_toByteArray]
  rw [decodeUtf8, bytes, decodeFrom_flatMap]
  exact congrArg Except.ok String.ofList_toList

end ComponentPasses.Text
