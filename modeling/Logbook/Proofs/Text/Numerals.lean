import Logbook.Text.Blank
import Logbook.Text.Decimal
import Mathlib.Algebra.Group.Nat.Defs

/-! Numerals and their values.
A number may be written with zeros in front, which do not change the value that is read. A reader
with a limit counts exactly the numerals whose value is within it.
-/

namespace Logbook.Text

/-- No digit is white space, by the ranges of code points. -/
theorem isBlank_eq_false_of_isDigit {c : Char} (h : c.isDigit = true) : isBlank c = false := by
  have bounds : 48 ≤ c.toNat ∧ c.toNat ≤ 57 := Char.isDigit_iff_toNat.mp h
  simp only [isBlank, Bool.or_eq_false_iff, Bool.and_eq_false_iff, decide_eq_false_iff_not,
    beq_eq_false_iff_ne]
  omega

theorem isDigit_of_mem_digits {n : Nat} {c : Char} (h : c ∈ digits n) : c.isDigit = true :=
  Nat.isDigit_of_mem_toDigits (by decide) (by decide) h

@[simp]
theorem digitsValue_digits (n : Nat) : digitsValue (digits n) = n :=
  Nat.ofDigitChars_ten_toDigits

theorem length_digits_le {n k : Nat} (hk : 0 < k) (h : n < 10 ^ k) : (digits n).length ≤ k :=
  (Nat.length_toDigits_le_iff (by decide) hk).mpr h

-----------------------------------------------------------------------------------------
-- Numerals with zeros in front
-----------------------------------------------------------------------------------------

/-- The digits of a number behind any zeros. -/
def IsNumeral (n : Nat) (numeral : List Char) : Prop :=
  ∃ zeros, numeral = List.replicate zeros '0' ++ digits n

theorem isNumeral_digits (n : Nat) : IsNumeral n (digits n) := ⟨0, rfl⟩

theorem isNumeral_paddedDigits (width n : Nat) : IsNumeral n (paddedDigits width n) := ⟨_, rfl⟩

namespace IsNumeral

variable {n : Nat} {numeral : List Char}

theorem isDigit (h : IsNumeral n numeral) {c : Char} (hc : c ∈ numeral) : c.isDigit = true := by
  obtain ⟨zeros, rfl⟩ := h
  rcases List.mem_append.mp hc with zero | digit
  · rw [List.eq_of_mem_replicate zero]
    rfl
  · exact isDigit_of_mem_digits digit

theorem ne_nil (h : IsNumeral n numeral) : numeral ≠ [] := by
  obtain ⟨zeros, rfl⟩ := h
  intro empty
  exact Nat.toDigits_ne_nil (List.append_eq_nil_iff.mp empty).2

theorem lt_of_length_le (h : IsNumeral n numeral) {width : Nat} (positive : 0 < width)
    (fits : numeral.length ≤ width)
    : n < 10 ^ width := by
  obtain ⟨zeros, rfl⟩ := h
  rw [List.length_append] at fits
  exact (Nat.length_toDigits_le_iff (by decide) positive).mp (Nat.le_of_add_left_le fits)

/-- Zeros in front do not change the value of a numeral. -/
theorem digitsValue_eq (h : IsNumeral n numeral) : digitsValue numeral = n := by
  obtain ⟨zeros, rfl⟩ := h
  rw [digitsValue, Nat.ofDigitChars_append, Nat.ofDigitChars_replicate_zero, Nat.mul_zero]
  exact digitsValue_digits n

end IsNumeral

theorem length_paddedDigits_le {width n : Nat} (hw : 0 < width) (h : n < 10 ^ width)
    : (paddedDigits width n).length ≤ width := by
  rw [paddedDigits, List.length_leftpad]
  exact Nat.max_le.mpr ⟨Nat.le_refl width, length_digits_le hw h⟩

/-- Reading on never makes a value smaller, by induction on the numeral. -/
theorem le_ofDigitChars (numeral : List Char) (start : Nat)
    : start ≤ Nat.ofDigitChars 10 numeral start := by
  induction numeral generalizing start with
  | nil => simp
  | cons c rest ih =>
      rw [Nat.ofDigitChars_cons]
      have := ih (10 * start + (c.toNat - '0'.toNat))
      omega

/-- Once the limit is passed no further digit is counted. -/
theorem foldl_appendDigit_none (limit : Nat) (numeral : List Char)
    : numeral.foldl (appendDigit limit) none = none := by
  induction numeral with
  | nil => rfl
  | cons c rest ih => exact ih

/-- A reader with a limit that starts within it gets the value of the whole numeral exactly when
that is within the limit too; each digit passes the limit for good or keeps the start within it.
-/
theorem foldl_appendDigit (limit : Nat) (numeral : List Char) (start : Nat) (h : start ≤ limit)
    : numeral.foldl (appendDigit limit) (some start)
      = if Nat.ofDigitChars 10 numeral start ≤ limit then
          some (Nat.ofDigitChars 10 numeral start)
        else
          none := by
  induction numeral generalizing start with
  | nil => simp [h]
  | cons c rest ih =>
      rw [List.foldl_cons, Nat.ofDigitChars_cons]
      by_cases within : 10 * start + (c.toNat - '0'.toNat) ≤ limit
      · rw [appendDigit, if_pos within, ih _ within]
      · have grows := le_ofDigitChars rest (10 * start + (c.toNat - '0'.toNat))
        rw [appendDigit, if_neg within, foldl_appendDigit_none, if_neg (by omega)]

/-- A numeral is read with a limit exactly when its value is within the limit. -/
theorem digitsUpTo?_eq (limit : Nat) (numeral : List Char)
    : digitsUpTo? limit numeral
      = if digitsValue numeral ≤ limit then some (digitsValue numeral) else none :=
  foldl_appendDigit limit numeral 0 (Nat.zero_le limit)

/-- An integer is written with digits and the minus sign only. -/
theorem not_mem_signedDigits {n : Int} {c : Char} (sign : c ≠ '-') (digit : c.isDigit = false)
    : c ∉ signedDigits n := by
  have magnitude : c ∉ digits n.natAbs := by
    intro member
    rw [isDigit_of_mem_digits member] at digit
    contradiction
  unfold signedDigits
  split
  · simp [sign, magnitude]
  · exact magnitude

end Logbook.Text
