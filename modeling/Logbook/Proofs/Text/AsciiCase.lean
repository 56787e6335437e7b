import Logbook.Proofs.Text.LetterCase
import Logbook.Proofs.Text.Utf8Repair

/-! The case of ASCII letters in bytes is their case in the text that the bytes are read as.
Every ASCII byte is a character by itself, and none has a part in any other character, so the
letters can be made small before the bytes are read or afterwards.
-/

namespace Logbook.Text.Utf8

/-- The byte of the small letter for that of a capital letter of ASCII; any other byte stays. -/
def smallByte (byte : UInt8) : UInt8 :=
  if 0x41 ≤ byte ∧ byte ≤ 0x5A then byte + 0x20 else byte

-----------------------------------------------------------------------------------------
-- Single bytes
-----------------------------------------------------------------------------------------

theorem smallByte_of_beyond {byte : UInt8} (beyond : 0x80 ≤ byte.toNat)
    : smallByte byte = byte := by
  have other : ¬(0x41 ≤ byte ∧ byte ≤ 0x5A) := by
    simp only [UInt8.le_iff_toNat_le, UInt8.reduceToNat]
    omega
  rw [smallByte, if_neg other]

/-- An ASCII byte stays one, and it is the small form of the character that it was. -/
theorem smallByte_ascii {byte : UInt8} (ascii : byte.toNat < 0x80)
    : (smallByte byte).toNat < 0x80
      ∧ Char.ofNat (smallByte byte).toNat = (Char.ofNat byte.toNat).toLower := by
  have each
      : ∀ code < 0x80,
          (smallByte (UInt8.ofNat code)).toNat < 0x80
          ∧ Char.ofNat (smallByte (UInt8.ofNat code)).toNat = (Char.ofNat code).toLower := by
    decide
  have one := each byte.toNat ascii
  rwa [UInt8.ofNat_toNat] at one

theorem isContinuation_smallByte (byte : UInt8)
    : isContinuation (smallByte byte) = isContinuation byte := by
  by_cases ascii : byte.toNat < 0x80
  · rw [isContinuation_of_ascii ascii, isContinuation_of_ascii (smallByte_ascii ascii).1]
  · rw [smallByte_of_beyond (Nat.le_of_not_lt ascii)]

theorem admitsSecond_smallByte (lead second : UInt8)
    : admitsSecond lead (smallByte second) = admitsSecond lead second := by
  by_cases ascii : second.toNat < 0x80
  · rw [admitsSecond_of_ascii ascii, admitsSecond_of_ascii (smallByte_ascii ascii).1]
  · rw [smallByte_of_beyond (Nat.le_of_not_lt ascii)]

/-- Only a byte beyond ASCII continues a character, and it stays as it is. -/
theorem smallByte_of_isContinuation {byte : UInt8} (continues : isContinuation byte = true)
    : smallByte byte = byte :=
  smallByte_of_beyond (isContinuation_iff.mp continues).1

-----------------------------------------------------------------------------------------
-- Characters and texts
-----------------------------------------------------------------------------------------

/-- The null character and the characters beyond ASCII are no capital letters of ASCII. -/
theorem NullOrBeyondAscii.toLower_eq {c : Char} (h : NullOrBeyondAscii c) : c.toLower = c := by
  refine (toLower_eq_or_mem_capitals c).resolve_right fun capital => ?_
  rw [asciiCapitals, List.mem_range'_1] at capital
  unfold NullOrBeyondAscii at h
  omega

/-- A character is completed by the same bytes, by induction on the completion. -/
theorem completeChar_map_smallByte (bits owed : Nat) (rest : List UInt8)
    : completeChar bits owed (rest.map smallByte)
      = ((completeChar bits owed rest).1, (completeChar bits owed rest).2.map smallByte) := by
  fun_induction completeChar bits owed rest with
  | case1 bits rest => rw [completeChar]
  | case2 bits owed =>
      rw [List.map_nil, completeChar]
  | case3 bits owed byte rest continues ih =>
      rw [List.map_cons, smallByte_of_isContinuation continues, completeChar, if_pos continues, ih]
  | case4 bits owed byte rest stops =>
      rw [List.map_cons, completeChar, isContinuation_smallByte, if_neg stops]

/-- What is no ASCII byte begins the same character. -/
theorem readChar_map_smallByte_of_beyond {lead : UInt8} (beyond : 0x80 ≤ lead.toNat)
    (rest : List UInt8)
    : readChar lead (rest.map smallByte)
      = ((readChar lead rest).1, (readChar lead rest).2.map smallByte) := by
  have noAscii : ¬lead < 0x80 := by
    simp only [UInt8.lt_iff_toNat_lt, UInt8.reduceToNat]
    omega
  unfold readChar
  rw [if_neg noAscii, if_neg noAscii]
  cases rest with
  | nil => cases leadBits? lead <;> rfl
  | cons second rest =>
      cases leadBits? lead with
      | none => rfl
      | some announced =>
          by_cases admits : admitsSecond lead second = true
          · have same : smallByte second = second :=
              smallByte_of_beyond (admitsSecond_iff.mp admits).1.1
            simp only [List.map_cons, same, admits, if_true, completeChar_map_smallByte]
          · simp only [List.map_cons, admitsSecond_smallByte, admits]
            rfl

theorem readChar_map_smallByte (lead : UInt8) (rest : List UInt8)
    : readChar (smallByte lead) (rest.map smallByte)
      = ((readChar lead rest).1.toLower, (readChar lead rest).2.map smallByte) := by
  by_cases ascii : lead.toNat < 0x80
  · obtain ⟨still, small⟩ := smallByte_ascii ascii
    rw [readChar_ascii still, readChar_ascii ascii, small]
  · have beyond := Nat.le_of_not_lt ascii
    have stays : NullOrBeyondAscii (readChar lead rest).1 :=
      readChar_eq_ofNat.elim id fun own => own ▸ nullOrBeyondAscii_ofNat beyond
    rw [smallByte_of_beyond beyond, readChar_map_smallByte_of_beyond beyond, stays.toLower_eq]

/-- The letters of ASCII are made small in the bytes or in the text, by induction on the reading. -/
theorem decode_map_smallByte (bytes : List UInt8)
    : decode (bytes.map smallByte) = (decode bytes).map Char.toLower := by
  induction bytes using charStep.induction with
  | nil => simp [decode]
  | cons lead rest ih =>
      have same : charStep.read lead rest = readChar lead rest := rfl
      rw [same] at ih
      rw [List.map_cons, decode_cons, decode_cons, readChar_map_smallByte, ih, List.map_cons]

end Logbook.Text.Utf8
