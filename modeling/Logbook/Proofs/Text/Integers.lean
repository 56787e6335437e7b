import Logbook.Proofs.Text.Numerals
import Mathlib.Data.List.Induction

/-! The texts that are 32-bit integers.
Such a text is a numeral with at most one sign in front of it, and the integer is its value. The
reader accepts these texts and no others, so what is written of an integer is read back.
-/

namespace Logbook.Text

-----------------------------------------------------------------------------------------
-- Digits and nothing else
-----------------------------------------------------------------------------------------

/-- A digit is the one that is written for its value. -/
theorem digits_of_isDigit {c : Char} (h : c.isDigit = true)
    : c.toNat - '0'.toNat < 10 ∧ digits (c.toNat - '0'.toNat) = [c] := by
  have bounds : 48 ≤ c.toNat ∧ c.toNat ≤ 57 := Char.isDigit_iff_toNat.mp h
  have small : c.toNat - 48 < 10 := by omega
  refine ⟨small, ?_⟩
  have same : (Nat.digitChar (c.toNat - 48)).toNat = c.toNat := by
    rw [Nat.toNat_digitChar_of_lt_ten small]
    omega
  change Nat.toDigits 10 (c.toNat - 48) = [c]
  rw [Nat.toDigits_of_lt_base small, Char.toNat_inj.mp same]

/-- One more digit at the end of a numeral. -/
theorem digitsValue_append_singleton (front : List Char) (c : Char)
    : digitsValue (front ++ [c]) = 10 * digitsValue front + (c.toNat - '0'.toNat) := by
  rw [digitsValue, Nat.ofDigitChars_append, Nat.ofDigitChars_cons, Nat.ofDigitChars_nil]
  rfl

/-- Digits, if there are any, are a numeral of their value. The last one ends a longer number,
unless all digits before it are zeros.
-/
theorem isNumeral_digitsValue {numeral : List Char} (all : ∀ c ∈ numeral, c.isDigit = true)
    (nonempty : numeral ≠ [])
    : IsNumeral (digitsValue numeral) numeral := by
  induction numeral using List.reverseRecOn with
  | nil => exact absurd rfl nonempty
  | append_singleton front c ih =>
      obtain ⟨front_all, last⟩ := List.forall_mem_append.mp all
      obtain ⟨small, written⟩ := digits_of_isDigit (last c List.mem_cons_self)
      rw [digitsValue_append_singleton, ← written]
      generalize c.toNat - '0'.toNat = d at small
      by_cases empty : front = []
      · subst empty
        exact ⟨0, by simp [digitsValue]⟩
      obtain ⟨zeros, cut⟩ := ih front_all empty
      by_cases zero : digitsValue front = 0
      · rw [zero] at cut ⊢
        refine ⟨zeros + 1, ?_⟩
        rw [cut, List.replicate_succ', Nat.mul_zero, Nat.zero_add]
        rfl
      · have longer
            : digits (digitsValue front) ++ digits d = digits (10 * digitsValue front + d) :=
          Nat.toDigits_append_toDigits (by decide) (Nat.pos_of_ne_zero zero) small
        refine ⟨zeros, ?_⟩
        calc
          front ++ digits d
              = (List.replicate zeros '0' ++ digits (digitsValue front)) ++ digits d := by
            rw [← cut]
          _ = List.replicate zeros '0' ++ (digits (digitsValue front) ++ digits d) :=
            List.append_assoc _ _ _
          _ = List.replicate zeros '0' ++ digits (10 * digitsValue front + d) := by
            rw [longer]

theorem naturalUpTo?_eq_some_iff {limit n : Nat} {text : List Char}
    : naturalUpTo? limit text = some n ↔ IsNumeral n text ∧ n ≤ limit := by
  unfold naturalUpTo?
  constructor
  · intro read
    split at read
    · next digits =>
        obtain ⟨nonempty, all⟩ : text ≠ [] ∧ ∀ c ∈ text, c.isDigit = true := by
          simpa using digits
        rw [digitsUpTo?_eq] at read
        split at read
        · next within =>
            cases read
            exact ⟨isNumeral_digitsValue all nonempty, within⟩
        · cases read
    · cases read
  · rintro ⟨numeral_of, within⟩
    have all : text.all Char.isDigit = true :=
      List.all_eq_true.mpr fun c hc => numeral_of.isDigit hc
    simp [numeral_of.ne_nil, all, digitsUpTo?_eq, numeral_of.digitsValue_eq, within]

-----------------------------------------------------------------------------------------
-- Integers
-----------------------------------------------------------------------------------------

/-- The text is the integer in decimal: at most one sign, then digits with any zeros in front. -/
inductive WritesInt32 (n : Int32) : List Char → Prop
  | unsigned {numeral : List Char} {magnitude : Nat} (numeral_of : IsNumeral magnitude numeral)
    (value : n.toInt = magnitude)
    : WritesInt32 n numeral
  | plus {numeral : List Char} {magnitude : Nat} (numeral_of : IsNumeral magnitude numeral)
    (value : n.toInt = magnitude)
    : WritesInt32 n ('+' :: numeral)
  | minus {numeral : List Char} {magnitude : Nat} (numeral_of : IsNumeral magnitude numeral)
    (value : n.toInt = -(magnitude : Int))
    : WritesInt32 n ('-' :: numeral)

/-- An integer is written with digits, behind a sign or without one. -/
theorem WritesInt32.isDigit_or_sign {n : Int32} {text : List Char} (h : WritesInt32 n text)
    {c : Char} (hc : c ∈ text)
    : c.isDigit = true ∨ c = '+' ∨ c = '-' := by
  cases h with
  | unsigned numeral_of _ => exact .inl (numeral_of.isDigit hc)
  | plus numeral_of _ =>
      rcases List.mem_cons.mp hc with sign | digit
      · exact .inr (.inl sign)
      · exact .inl (numeral_of.isDigit digit)
  | minus numeral_of _ =>
      rcases List.mem_cons.mp hc with sign | digit
      · exact .inr (.inr sign)
      · exact .inl (numeral_of.isDigit digit)

/-- An integer is written without white space. -/
theorem WritesInt32.isBlank_eq_false {n : Int32} {text : List Char} (h : WritesInt32 n text)
    {c : Char} (hc : c ∈ text)
    : isBlank c = false := by
  rcases h.isDigit_or_sign hc with digit | rfl | rfl
  · exact isBlank_eq_false_of_isDigit digit
  · rfl
  · rfl

/-- A numeral does not begin with a sign. -/
theorem IsNumeral.ne_cons {n : Nat} {numeral rest : List Char} (h : IsNumeral n numeral)
    {sign : Char} (mark : sign.isDigit = false)
    : numeral ≠ sign :: rest := by
  rintro rfl
  have digit := h.isDigit List.mem_cons_self
  rw [mark] at digit
  cases digit

theorem countUpTo?_of_isNumeral {limit n : Nat} {numeral : List Char} (h : IsNumeral n numeral)
    : countUpTo? limit numeral = naturalUpTo? limit numeral := by
  unfold countUpTo?
  split
  · exact absurd rfl (h.ne_cons rfl)
  · rfl

theorem int32?_minus (rest : List Char)
    : int32? ('-' :: rest)
      = (naturalUpTo? 2147483648 rest).map fun n : Nat => Int32.ofInt (-(n : Int)) := by
  rw [int32?]
  cases naturalUpTo? 2147483648 rest <;> rfl

theorem int32?_of_not_minus {text : List Char} (h : ∀ rest, text ≠ '-' :: rest)
    : int32? text
      = (countUpTo? 2147483647 text).map fun n : Nat => Int32.ofInt (n : Int) := by
  unfold int32?
  split
  · exact absurd rfl (h _)
  · cases countUpTo? 2147483647 text <;> rfl

/-- An accepted text has a sign or none, and the value of its digits is within the range that the
reader allows behind that sign.
-/
theorem writesInt32_of_int32? {text : List Char} {n : Int32} (read : int32? text = some n)
    : WritesInt32 n text := by
  by_cases minus : ∃ rest, text = '-' :: rest
  · obtain ⟨rest, rfl⟩ := minus
    rw [int32?_minus] at read
    obtain ⟨magnitude, counted, rfl⟩ := Option.map_eq_some_iff.mp read
    obtain ⟨numeral_of, within⟩ := naturalUpTo?_eq_some_iff.mp counted
    exact .minus numeral_of (Int32.toInt_ofInt_of_le (by omega) (by omega))
  · rw [int32?_of_not_minus (not_exists.mp minus)] at read
    obtain ⟨magnitude, counted, rfl⟩ := Option.map_eq_some_iff.mp read
    unfold countUpTo? at counted
    split at counted
    · next rest =>
        obtain ⟨numeral_of, within⟩ := naturalUpTo?_eq_some_iff.mp counted
        exact .plus numeral_of (Int32.toInt_ofInt_of_le (by omega) (by omega))
    · obtain ⟨numeral_of, within⟩ := naturalUpTo?_eq_some_iff.mp counted
      exact .unsigned numeral_of (Int32.toInt_ofInt_of_le (by omega) (by omega))

/-- Every integer is within the range that the reader allows behind its sign. -/
theorem WritesInt32.int32?_eq {text : List Char} {n : Int32} (h : WritesInt32 n text)
    : int32? text = some n := by
  have least := n.le_toInt
  have greatest := n.toInt_lt
  cases h with
  | @unsigned numeral magnitude numeral_of value =>
      have counted := naturalUpTo?_eq_some_iff.mpr ⟨numeral_of, (by omega : _ ≤ 2147483647)⟩
      rw [int32?_of_not_minus fun _ => numeral_of.ne_cons rfl, countUpTo?_of_isNumeral numeral_of,
        counted, Option.map_some, ← value, Int32.ofInt_toInt]
  | @plus numeral magnitude numeral_of value =>
      have counted := naturalUpTo?_eq_some_iff.mpr ⟨numeral_of, (by omega : _ ≤ 2147483647)⟩
      rw [int32?_of_not_minus (by simp), countUpTo?, counted, Option.map_some, ← value,
        Int32.ofInt_toInt]
  | @minus numeral magnitude numeral_of value =>
      have counted := naturalUpTo?_eq_some_iff.mpr ⟨numeral_of, (by omega : _ ≤ 2147483648)⟩
      rw [int32?_minus, counted, Option.map_some, ← value, Int32.ofInt_toInt]

theorem int32?_eq_some_iff {text : List Char} {n : Int32}
    : int32? text = some n ↔ WritesInt32 n text :=
  ⟨writesInt32_of_int32?, WritesInt32.int32?_eq⟩

theorem writesInt32_signedDigits (n : Int32) : WritesInt32 n (signedDigits n.toInt) := by
  have numeral_of := isNumeral_digits n.toInt.natAbs
  unfold signedDigits
  split
  · exact .minus numeral_of (by omega)
  · exact .unsigned numeral_of (by omega)

end Logbook.Text
