import Logbook.Text.Reading

/-! Texts as UTF-8 bytes, and bytes read as text whether or not they are well formed.
Each longest run of bytes that begins a character but does not complete one is read as a single
replacement character.
-/

namespace Logbook.Text.Utf8

/-- The character that stands for bytes that are no text. -/
def replacement : Char := Char.ofNat 0xFFFD

/-- A byte that may come third or fourth in a character. -/
def isContinuation (byte : UInt8) : Bool := 0x80 ≤ byte && byte ≤ 0xBF

/-- The second bytes that a lead byte admits: those that spell neither an overlong form, nor a
surrogate, nor a number beyond the last code point. -/
def admitsSecond (lead second : UInt8) : Bool :=
  isContinuation second
    && (lead != 0xE0 || 0xA0 ≤ second) && (lead != 0xED || second ≤ 0x9F)
    && (lead != 0xF0 || 0x90 ≤ second) && (lead != 0xF4 || second ≤ 0x8F)

/-- What a lead byte announces: its share of the code point and how many bytes follow. -/
def leadBits? (lead : UInt8) : Option (Nat × Nat) :=
  if 0xC2 ≤ lead && lead ≤ 0xDF then
    some (lead.toNat % 0x20, 1)
  else if 0xE0 ≤ lead && lead ≤ 0xEF then
    some (lead.toNat % 0x10, 2)
  else if 0xF0 ≤ lead && lead ≤ 0xF4 then
    some (lead.toNat % 0x08, 3)
  else
    none

/-- Completes a character that still owes `owed` continuation bytes. -/
def completeChar (bits : Nat) : Nat → List UInt8 → Char × List UInt8
  | 0, rest => (Char.ofNat bits, rest)
  | _ + 1, [] => (replacement, [])
  | owed + 1, byte :: rest =>
      if isContinuation byte then
        completeChar (bits * 0x40 + byte.toNat % 0x40) owed rest
      else
        (replacement, byte :: rest)

/-- Reads the character that begins with `lead`, or one replacement for what begins a character
and does not complete it. -/
def readChar (lead : UInt8) (rest : List UInt8) : Char × List UInt8 :=
  if lead < 0x80 then
    (Char.ofNat lead.toNat, rest)
  else
    match leadBits? lead, rest with
    | some (bits, owed), second :: more =>
        if admitsSecond lead second then
          completeChar (bits * 0x40 + second.toNat % 0x40) (owed - 1) more
        else
          (replacement, rest)
    | _, _ => (replacement, rest)

theorem completeChar_rest_length (bits owed : Nat) (rest : List UInt8)
    : (completeChar bits owed rest).2.length ≤ rest.length := by
  fun_induction completeChar bits owed rest with
  | case1 | case2 | case4 => simp
  | case3 bits owed byte rest _ ih => exact Nat.le_succ_of_le ih

theorem readChar_rest_length (lead : UInt8) (rest : List UInt8)
    : (readChar lead rest).2.length ≤ rest.length := by
  unfold readChar
  split
  · exact Nat.le_refl _
  · split
    · split
      · exact Nat.le_succ_of_le (completeChar_rest_length _ _ _)
      · exact Nat.le_refl _
    · exact Nat.le_refl _

/-- One character off the front of a byte sequence. -/
def charStep : Step UInt8 Char :=
  {
    read := readChar,
    shortens := readChar_rest_length,
  }

/-- The text of any byte sequence. -/
def decode (bytes : List UInt8) : List Char := charStep.readAll bytes

/-- The UTF-8 bytes of a text. -/
def encode (text : List Char) : List UInt8 := text.flatMap String.utf8EncodeChar

/-- How many UTF-8 bytes a text takes. -/
def byteLength (text : List Char) : Nat := text.foldl (fun size c => size + c.utf8Size) 0

/-- The text of a byte sequence that is well formed as a whole. -/
def decodeStrict? (bytes : List UInt8) : Option (List Char) :=
  let text := decode bytes
  if encode text = bytes then some text else none

end Logbook.Text.Utf8
