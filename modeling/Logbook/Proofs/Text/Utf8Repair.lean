import Logbook.Proofs.Text.Splitting
import Logbook.Proofs.Text.Utf8RoundTrip

/-! Bytes repaired: what is no text is replaced, once, by well formed bytes.
A character that is not complete ends before an ASCII byte, so ASCII bytes cut a byte sequence in
the same places before and after the repair.
-/

namespace Logbook.Text.Utf8

/-- The bytes of the text that a byte sequence is read as. -/
def repaired (bytes : List UInt8) : List UInt8 := encode (decode bytes)

theorem decode_repaired (bytes : List UInt8) : decode (repaired bytes) = decode bytes :=
  decode_encode (decode bytes)

@[simp]
theorem repaired_nil : repaired [] = [] := by
  rw [repaired, decode, charStep.readAll_nil]
  rfl

@[simp]
theorem isEmpty_repaired (bytes : List UInt8) : (repaired bytes).isEmpty = bytes.isEmpty := by
  cases bytes with
  | nil => rw [repaired_nil]
  | cons lead rest =>
      obtain ⟨first, tail, encoded, -⟩ := readChar_utf8EncodeChar (readChar lead rest).1 []
      rw [repaired, decode_cons, encode_cons, encoded]
      rfl

-----------------------------------------------------------------------------------------
-- ASCII bytes cut decoded text
-----------------------------------------------------------------------------------------

section Ascii

variable {mark : UInt8} (ascii : mark.toNat < 0x80)

include ascii

theorem isContinuation_of_ascii : isContinuation mark = false := by
  rw [Bool.eq_false_iff, Ne, isContinuation_iff]
  omega

theorem admitsSecond_of_ascii (lead : UInt8) : admitsSecond lead mark = false := by
  rw [admitsSecond, isContinuation_of_ascii ascii]
  rfl

/-- What begins a character and is not completed before an ASCII byte is not completed by it, by
induction on the completion.
-/
theorem completeChar_append (bits owed : Nat) (front rest : List UInt8)
    : completeChar bits owed (front ++ mark :: rest)
      = (
          (completeChar bits owed front).1,
          (completeChar bits owed front).2 ++ mark :: rest
        ) := by
  have other := isContinuation_of_ascii ascii
  fun_induction completeChar bits owed front with
  | case1 bits front => rw [completeChar]
  | case2 bits owed =>
      rw [List.nil_append, completeChar, other]
      rfl
  | case3 bits owed byte front continues ih =>
      rw [List.cons_append, completeChar, if_pos continues, ih]
  | case4 bits owed byte front stops =>
      rw [List.cons_append, completeChar, if_neg stops]

/-- No character reaches across an ASCII byte. -/
theorem readChar_append (lead : UInt8) (front rest : List UInt8)
    : readChar lead (front ++ mark :: rest)
      = ((readChar lead front).1, (readChar lead front).2 ++ mark :: rest) := by
  have refused := admitsSecond_of_ascii ascii lead
  unfold readChar
  split
  · rfl
  · cases front with
    | nil => cases leadBits? lead <;> simp [refused]
    | cons second front =>
        cases leadBits? lead with
        | none => rfl
        | some announced =>
            by_cases admits : admitsSecond lead second = true
            · simp only [List.cons_append, admits, if_true, completeChar_append ascii]
            · simp only [List.cons_append, admits]
              rfl

theorem readChar_ascii (rest : List UInt8)
    : readChar mark rest = (Char.ofNat mark.toNat, rest) := by
  have small : mark < 0x80 := UInt8.lt_iff_toNat_lt.mpr ascii
  unfold readChar
  rw [if_pos small]

/-- An ASCII byte is decoded by itself, and what stands in front of it as if nothing followed, by
induction on the reading of what stands in front.
-/
theorem decode_append_ascii (front rest : List UInt8)
    : decode (front ++ mark :: rest)
      = decode front ++ Char.ofNat mark.toNat :: decode rest := by
  induction front using charStep.induction with
  | nil =>
      rw [List.nil_append, decode_cons, readChar_ascii ascii, decode, decode, charStep.readAll_nil]
      rfl
  | cons lead front ih =>
      have same : charStep.read lead front = readChar lead front := rfl
      rw [same] at ih
      rw [List.cons_append, decode_cons, decode_cons, readChar_append ascii, ih]
      rfl

theorem toNat_ofNat_ascii : (Char.ofNat mark.toNat).toNat = mark.toNat := by
  have valid : mark.toNat.isValidChar := .inl (by omega)
  rw [Char.ofNat, dif_pos valid]
  rfl

theorem repaired_append_ascii (front rest : List UInt8)
    : repaired (front ++ mark :: rest) = repaired front ++ mark :: repaired rest := by
  have single : String.utf8EncodeChar (Char.ofNat mark.toNat) = [mark] := by
    have code := toNat_ofNat_ascii ascii
    rw [utf8EncodeChar_eq, if_pos (by omega), code, UInt8.ofNat_toNat]
  rw [repaired, decode_append_ascii ascii, encode_append, encode_cons, single]
  rfl

/-- The repair brings no ASCII byte but the null byte. -/
theorem mem_of_mem_repaired {bytes : List UInt8} (member : mark ∈ repaired bytes)
    (noNull : mark ≠ 0)
    : mark ∈ bytes := by
  have code := toNat_ofNat_ascii ascii
  have nonzero : mark.toNat ≠ 0 := fun zero => noNull (UInt8.toNat_inj.mp zero)
  have own : ¬NullOrBeyondAscii (Char.ofNat mark.toNat) := by
    unfold NullOrBeyondAscii
    omega
  have found := mem_of_mem_decode (mem_of_mem_encode member ascii) own
  rwa [code, UInt8.ofNat_toNat] at found

/-- Repaired bytes are cut into the repaired pieces, by induction on the cuts. -/
theorem splitOn_repaired (noNull : mark ≠ 0) (bytes : List UInt8)
    : (repaired bytes).splitOn mark = (bytes.splitOn mark).map repaired := by
  have kept {bytes : List UInt8} (absent : mark ∉ bytes) : mark ∉ repaired bytes :=
    fun member => absent (mem_of_mem_repaired ascii member noNull)
  induction bytes using cuts_induction mark with
  | uncut bytes absent =>
      rw [List.splitOn_eq_singleton (kept absent), List.splitOn_eq_singleton absent]
      rfl
  | cut front rest absent ih =>
      rw [repaired_append_ascii ascii, List.splitOn_append_cons_self_of_not_mem (kept absent), ih,
        List.splitOn_append_cons_self_of_not_mem absent]
      rfl

end Ascii

end Logbook.Text.Utf8
