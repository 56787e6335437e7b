import Logbook.Text.Utf8
import Mathlib.Algebra.Group.Nat.Defs

/-! Encoded text is decoded as it was, and decoding makes no ASCII character up.
A character of more than one byte is beyond ASCII whatever bytes complete it, so the line ends and
tabs of a decoded text are bytes of the source.
-/

namespace Logbook.Text.Utf8

-----------------------------------------------------------------------------------------
-- Bytes as numbers
-----------------------------------------------------------------------------------------

theorem isContinuation_iff {byte : UInt8}
    : isContinuation byte = true ↔ 0x80 ≤ byte.toNat ∧ byte.toNat ≤ 0xBF := by
  simp [isContinuation, UInt8.le_iff_toNat_le]

theorem admitsSecond_iff {lead second : UInt8}
    : admitsSecond lead second = true
      ↔ (0x80 ≤ second.toNat ∧ second.toNat ≤ 0xBF)
        ∧ (lead.toNat = 0xE0 → 0xA0 ≤ second.toNat)
        ∧ (lead.toNat = 0xED → second.toNat ≤ 0x9F)
        ∧ (lead.toNat = 0xF0 → 0x90 ≤ second.toNat)
        ∧ (lead.toNat = 0xF4 → second.toNat ≤ 0x8F) := by
  simp only [admitsSecond, Bool.and_eq_true, isContinuation_iff, Bool.or_eq_true, bne_iff_ne,
    ne_eq, decide_eq_true_eq, UInt8.le_iff_toNat_le, ← UInt8.toNat_inj, UInt8.reduceToNat]
  omega

theorem leadBits?_eq (lead : UInt8)
    : leadBits? lead
      = if 0xC2 ≤ lead.toNat ∧ lead.toNat ≤ 0xDF then
          some (lead.toNat % 0x20, 1)
        else if 0xE0 ≤ lead.toNat ∧ lead.toNat ≤ 0xEF then
          some (lead.toNat % 0x10, 2)
        else if 0xF0 ≤ lead.toNat ∧ lead.toNat ≤ 0xF4 then
          some (lead.toNat % 0x08, 3)
        else
          none := by
  simp [leadBits?, UInt8.le_iff_toNat_le]

/-- A byte below 256 is the number it was made from. -/
theorem toNat_ofNat_byte {n : Nat} (h : n < 0x100) : (UInt8.ofNat n).toNat = n :=
  UInt8.toNat_ofNat_of_lt' h

/-- The byte that holds the last six bits of a number behind a lead byte. -/
def tailByte (n : Nat) : UInt8 := UInt8.ofNat (n % 0x40 + 0x80)

@[simp]
theorem toNat_tailByte (n : Nat) : (tailByte n).toNat = n % 0x40 + 0x80 := by
  rw [tailByte, UInt8.toNat_ofNat_of_lt' (by simp [UInt8.size]; omega)]

theorem completeChar_tailByte (bits owed n : Nat) (rest : List UInt8)
    : completeChar bits (owed + 1) (tailByte n :: rest)
      = completeChar (bits * 0x40 + n % 0x40) owed rest := by
  have continuation : isContinuation (tailByte n) = true := by
    rw [isContinuation_iff, toNat_tailByte]
    omega
  have share : (tailByte n).toNat % 0x40 = n % 0x40 := by
    rw [toNat_tailByte]
    omega
  rw [completeChar, if_pos continuation, share]

/-- A lead byte and an admitted second byte begin a character that the other bytes complete. -/
theorem readChar_tailByte {lead : UInt8} {bits owed n : Nat} {rest : List UInt8}
    (found : leadBits? lead = some (bits, owed)) (admits : admitsSecond lead (tailByte n) = true)
    : readChar lead (tailByte n :: rest)
      = completeChar (bits * 0x40 + n % 0x40) (owed - 1) rest := by
  have beyond : ¬lead < 0x80 := by
    intro ascii
    have small : lead.toNat < 0x80 := by simpa [UInt8.lt_iff_toNat_lt] using ascii
    have noLead : leadBits? lead = none := by
      rw [leadBits?_eq, if_neg (by omega), if_neg (by omega), if_neg (by omega)]
    rw [noLead] at found
    cases found
  have share : (tailByte n).toNat % 0x40 = n % 0x40 := by
    rw [toNat_tailByte]
    omega
  unfold readChar
  rw [if_neg beyond]
  simp only [found, admits, if_true, share]

-----------------------------------------------------------------------------------------
-- Lead bytes of encoded characters
-----------------------------------------------------------------------------------------

section Leads

variable {n : Nat}

theorem leadBits?_two (first : 0x7F < n) (last : n ≤ 0x7FF)
    : leadBits? (UInt8.ofNat (n / 0x40 % 0x20 + 0xC0)) = some (n / 0x40, 1) := by
  rw [leadBits?_eq, toNat_ofNat_byte (by omega), if_pos (by omega)]
  congr 2
  omega

theorem admitsSecond_two (n : Nat)
    : admitsSecond (UInt8.ofNat (n / 0x40 % 0x20 + 0xC0)) (tailByte n) = true := by
  rw [admitsSecond_iff, toNat_ofNat_byte (by omega), toNat_tailByte]
  omega

theorem leadBits?_three (last : n ≤ 0xFFFF)
    : leadBits? (UInt8.ofNat (n / 0x1000 % 0x10 + 0xE0)) = some (n / 0x1000, 2) := by
  rw [leadBits?_eq, toNat_ofNat_byte (by omega), if_neg (by omega), if_pos (by omega)]
  congr 2
  omega

theorem admitsSecond_three (first : 0x7FF < n) (last : n ≤ 0xFFFF)
    (noSurrogate : n < 0xD800 ∨ 0xDFFF < n)
    : admitsSecond (UInt8.ofNat (n / 0x1000 % 0x10 + 0xE0)) (tailByte (n / 0x40)) = true := by
  rw [admitsSecond_iff, toNat_ofNat_byte (by omega), toNat_tailByte]
  omega

theorem leadBits?_four (last : n < 0x110000)
    : leadBits? (UInt8.ofNat (n / 0x40000 % 0x08 + 0xF0)) = some (n / 0x40000, 3) := by
  rw [leadBits?_eq, toNat_ofNat_byte (by omega), if_neg (by omega), if_neg (by omega),
    if_pos (by omega)]
  congr 2
  omega

theorem admitsSecond_four (first : 0xFFFF < n) (last : n < 0x110000)
    : admitsSecond (UInt8.ofNat (n / 0x40000 % 0x08 + 0xF0)) (tailByte (n / 0x1000)) = true := by
  rw [admitsSecond_iff, toNat_ofNat_byte (by omega), toNat_tailByte]
  omega

end Leads

-----------------------------------------------------------------------------------------
-- Encoded characters are decoded
-----------------------------------------------------------------------------------------

theorem readChar_one {n : Nat} (last : n ≤ 0x7F) (rest : List UInt8)
    : readChar (UInt8.ofNat n) rest = (Char.ofNat n, rest) := by
  have ascii : UInt8.ofNat n < 0x80 := by
    rw [UInt8.lt_iff_toNat_lt, toNat_ofNat_byte (by omega)]
    exact Nat.lt_succ_of_le last
  unfold readChar
  rw [if_pos ascii, toNat_ofNat_byte (by omega)]

theorem readChar_two {n : Nat} (first : 0x7F < n) (last : n ≤ 0x7FF) (rest : List UInt8)
    : readChar (UInt8.ofNat (n / 0x40 % 0x20 + 0xC0)) (tailByte n :: rest)
      = (Char.ofNat n, rest) := by
  have whole : n / 0x40 * 0x40 + n % 0x40 = n := by omega
  rw [readChar_tailByte (leadBits?_two first last) (admitsSecond_two n), whole]
  rfl

theorem readChar_three {n : Nat} (first : 0x7FF < n) (last : n ≤ 0xFFFF)
    (noSurrogate : n < 0xD800 ∨ 0xDFFF < n) (rest : List UInt8)
    : readChar (UInt8.ofNat (n / 0x1000 % 0x10 + 0xE0))
        (tailByte (n / 0x40) :: tailByte n :: rest)
      = (Char.ofNat n, rest) := by
  have whole : (n / 0x1000 * 0x40 + n / 0x40 % 0x40) * 0x40 + n % 0x40 = n := by omega
  rw [readChar_tailByte (leadBits?_three last) (admitsSecond_three first last noSurrogate),
    completeChar_tailByte, whole]
  rfl

theorem readChar_four {n : Nat} (first : 0xFFFF < n) (last : n < 0x110000) (rest : List UInt8)
    : readChar (UInt8.ofNat (n / 0x40000 % 0x08 + 0xF0))
        (tailByte (n / 0x1000) :: tailByte (n / 0x40) :: tailByte n :: rest)
      = (Char.ofNat n, rest) := by
  have whole
      : ((n / 0x40000 * 0x40 + n / 0x1000 % 0x40) * 0x40 + n / 0x40 % 0x40) * 0x40 + n % 0x40
        = n := by
    omega
  rw [readChar_tailByte (leadBits?_four last) (admitsSecond_four first last),
    completeChar_tailByte, completeChar_tailByte, whole]
  rfl

theorem utf8EncodeChar_eq (c : Char)
    : String.utf8EncodeChar c
      = if c.toNat ≤ 0x7F then
          [UInt8.ofNat c.toNat]
        else if c.toNat ≤ 0x7FF then
          [UInt8.ofNat (c.toNat / 0x40 % 0x20 + 0xC0), tailByte c.toNat]
        else if c.toNat ≤ 0xFFFF then
          [
            UInt8.ofNat (c.toNat / 0x1000 % 0x10 + 0xE0),
            tailByte (c.toNat / 0x40),
            tailByte c.toNat
          ]
        else
          [
            UInt8.ofNat (c.toNat / 0x40000 % 0x08 + 0xF0),
            tailByte (c.toNat / 0x1000),
            tailByte (c.toNat / 0x40),
            tailByte c.toNat
          ] :=
  rfl

/-- The bytes of a character are read back as that character, whatever follows them. -/
theorem readChar_utf8EncodeChar (c : Char) (rest : List UInt8)
    : ∃ lead tail,
        String.utf8EncodeChar c = lead :: tail ∧ readChar lead (tail ++ rest) = (c, rest) := by
  have valid : c.toNat < 0xD800 ∨ 0xDFFF < c.toNat ∧ c.toNat < 0x110000 := c.valid
  have same : (c, rest) = (Char.ofNat c.toNat, rest) := by rw [Char.ofNat_toNat]
  rw [utf8EncodeChar_eq, same]
  by_cases one : c.toNat ≤ 0x7F
  · rw [if_pos one]
    exact ⟨_, _, rfl, readChar_one one rest⟩
  rw [if_neg one]
  by_cases two : c.toNat ≤ 0x7FF
  · rw [if_pos two]
    exact ⟨_, _, rfl, readChar_two (by omega) two rest⟩
  rw [if_neg two]
  by_cases three : c.toNat ≤ 0xFFFF
  · rw [if_pos three]
    exact ⟨_, _, rfl, readChar_three (by omega) three (by omega) rest⟩
  · rw [if_neg three]
    exact ⟨_, _, rfl, readChar_four (by omega) (by omega) rest⟩

theorem encode_cons (c : Char) (text : List Char)
    : encode (c :: text) = String.utf8EncodeChar c ++ encode text :=
  List.flatMap_cons

theorem encode_append (left right : List Char)
    : encode (left ++ right) = encode left ++ encode right :=
  List.flatMap_append

theorem decode_cons (lead : UInt8) (rest : List UInt8)
    : decode (lead :: rest) = (readChar lead rest).1 :: decode (readChar lead rest).2 :=
  charStep.readAll_cons lead rest

theorem decode_utf8EncodeChar_append (c : Char) (rest : List UInt8)
    : decode (String.utf8EncodeChar c ++ rest) = c :: decode rest := by
  obtain ⟨lead, tail, bytes, read⟩ := readChar_utf8EncodeChar c rest
  rw [bytes, List.cons_append, decode_cons, read]

/-- Encoded text is decoded as it was, character by character. -/
theorem decode_encode (text : List Char) : decode (encode text) = text := by
  induction text with
  | nil => exact charStep.readAll_nil
  | cons c text ih => rw [encode_cons, decode_utf8EncodeChar_append, ih]

theorem le_of_mem_utf8EncodeChar {c : Char} {byte : UInt8} (beyond : 0x7F < c.toNat)
    (hb : byte ∈ String.utf8EncodeChar c)
    : 0x80 ≤ byte.toNat := by
  rw [utf8EncodeChar_eq, if_neg (by omega)] at hb
  split at hb
  · simp [← UInt8.toNat_inj] at hb
    omega
  · split at hb
    · simp [← UInt8.toNat_inj] at hb
      omega
    · simp [← UInt8.toNat_inj] at hb
      omega

/-- A byte below 128 among the bytes of a text is a character of the text by itself. -/
theorem mem_of_mem_encode {text : List Char} {byte : UInt8} (hb : byte ∈ encode text)
    (ascii : byte.toNat < 0x80)
    : Char.ofNat byte.toNat ∈ text := by
  obtain ⟨c, hc, hb⟩ := List.mem_flatMap.mp hb
  by_cases one : c.toNat ≤ 0x7F
  · rw [utf8EncodeChar_eq, if_pos one] at hb
    rw [List.mem_singleton.mp hb, toNat_ofNat_byte (by omega), Char.ofNat_toNat]
    exact hc
  · have := le_of_mem_utf8EncodeChar (by omega) hb
    omega

-----------------------------------------------------------------------------------------
-- ASCII characters are bytes of the source
-----------------------------------------------------------------------------------------

/-- The character is the null character or beyond ASCII, as all characters of more than one byte
and the replacement are.
-/
def NullOrBeyondAscii (c : Char) : Prop := c.toNat = 0 ∨ 0x80 ≤ c.toNat

/-- A number that is no code point is read as the null character. -/
theorem toNat_ofNat_cases (n : Nat) : (Char.ofNat n).toNat = 0 ∨ (Char.ofNat n).toNat = n := by
  by_cases valid : n.isValidChar
  · rw [Char.ofNat, dif_pos valid]
    exact .inr rfl
  · rw [Char.ofNat, dif_neg valid]
    exact .inl rfl

theorem nullOrBeyondAscii_ofNat {n : Nat} (h : 0x80 ≤ n) : NullOrBeyondAscii (Char.ofNat n) :=
  (toNat_ofNat_cases n).imp_right fun same => by rwa [same]

theorem nullOrBeyondAscii_replacement : NullOrBeyondAscii replacement :=
  nullOrBeyondAscii_ofNat (by decide)

/-- The bits read so far stay where they are or move up with every byte owed. -/
theorem nullOrBeyondAscii_completeChar {bits owed : Nat} (rest : List UInt8)
    (h : 0x80 ≤ bits * 0x40 ^ owed)
    : NullOrBeyondAscii (completeChar bits owed rest).1 := by
  induction owed generalizing bits rest with
  | zero => exact nullOrBeyondAscii_ofNat (by simpa using h)
  | succ owed ih =>
      cases rest with
      | nil => exact nullOrBeyondAscii_replacement
      | cons byte rest =>
          rw [completeChar]
          split
          · -- The bits move up by one byte, and one byte less is owed.
            refine ih rest (Nat.le_trans h ?_)
            rw [Nat.pow_succ, Nat.mul_comm (0x40 ^ owed), ← Nat.mul_assoc]
            exact Nat.mul_le_mul_right _ (Nat.le_add_right _ _)
          · exact nullOrBeyondAscii_replacement

/-- A lead byte and an admitted second byte leave no room for an overlong form. -/
theorem bits_of_admitsSecond {lead second : UInt8} {bits owed : Nat}
    (found : leadBits? lead = some (bits, owed)) (admits : admitsSecond lead second = true)
    : 0x80 ≤ (bits * 0x40 + second.toNat % 0x40) * 0x40 ^ (owed - 1) := by
  have second := admitsSecond_iff.mp admits
  rw [leadBits?_eq] at found
  split at found
  · cases found
    omega
  · split at found
    · cases found
      omega
    · split at found
      · cases found
        omega
      · cases found

/-- An ASCII character other than the null character is read off a byte of its own. -/
theorem readChar_eq_ofNat {lead : UInt8} {rest : List UInt8}
    : NullOrBeyondAscii (readChar lead rest).1
      ∨ (readChar lead rest).1 = Char.ofNat lead.toNat := by
  unfold readChar
  split
  · exact .inr rfl
  · refine .inl ?_
    split
    · next found =>
        split
        · next admits =>
            exact nullOrBeyondAscii_completeChar _ (bits_of_admitsSecond found admits)
        · exact nullOrBeyondAscii_replacement
    · exact nullOrBeyondAscii_replacement

theorem completeChar_rest_subset (bits owed : Nat) (rest : List UInt8)
    : (completeChar bits owed rest).2 ⊆ rest := by
  induction owed generalizing bits rest with
  | zero => exact List.Subset.refl _
  | succ owed ih =>
      cases rest with
      | nil => exact List.Subset.refl _
      | cons byte rest =>
          rw [completeChar]
          split
          · exact List.Subset.trans (ih _ rest) (List.subset_cons_self _ _)
          · exact List.Subset.refl _

theorem readChar_rest_subset (lead : UInt8) (rest : List UInt8)
    : (readChar lead rest).2 ⊆ rest := by
  unfold readChar
  split
  · exact List.Subset.refl _
  · split
    · split
      · exact List.Subset.trans (completeChar_rest_subset _ _ _) (List.subset_cons_self _ _)
      · exact List.Subset.refl _
    · exact List.Subset.refl _

/-- Every ASCII character of decoded bytes but the null character is one of the bytes, by
induction on the reading.
-/
theorem mem_of_mem_decode {c : Char} {bytes : List UInt8} (hc : c ∈ decode bytes)
    (ascii : ¬NullOrBeyondAscii c)
    : UInt8.ofNat c.toNat ∈ bytes := by
  induction bytes using charStep.induction with
  | nil => simp [decode] at hc
  | cons lead rest ih =>
      rw [decode, Step.readAll_cons] at hc
      rcases List.mem_cons.mp hc with first | later
      · have own : c = Char.ofNat lead.toNat := by
          rcases readChar_eq_ofNat with beyond | own
          · exact absurd (first ▸ beyond) ascii
          · exact first.trans own
        have code : c.toNat = lead.toNat := by
          rcases toNat_ofNat_cases lead.toNat with null | same
          · exact absurd (.inl (own ▸ null)) ascii
          · rw [own, same]
        rw [code, UInt8.ofNat_toNat]
        exact List.mem_cons_self
      · exact List.mem_cons_of_mem _ (readChar_rest_subset lead rest (ih later))

end Logbook.Text.Utf8
