import Logbook.Proofs.Text.Utf8RoundTrip
import Mathlib.Data.List.Basic

/-! What the reader of bytes replaces.
Where no character stands at the front of a byte sequence, the longest part that still begins one is
replaced, or else a single byte. This leaves one reading to every byte sequence, the decoded one.
-/

namespace Logbook.Text.Utf8

-----------------------------------------------------------------------------------------
-- Readings of byte sequences
-----------------------------------------------------------------------------------------

/-- The bytes are the first ones of some character, or all of them. -/
def Begins (bytes : List UInt8) : Prop := ∃ c : Char, bytes <+: String.utf8EncodeChar c

/-- No character stands at the front of the bytes, and `part` is the longest part there that begins
one, or a single byte.
-/
structure IllFormed (part rest : List UInt8) : Prop where
  noChar : ∀ c : Char, ¬String.utf8EncodeChar c <+: part ++ rest
  begins : part.length = 1 ∨ Begins part
  nonempty : part ≠ []
  longest : ∀ longer, longer <+: part ++ rest → Begins longer → longer <+: part

/-- The text is a reading of the bytes: each character that is at the front is read as itself, and
each longest ill formed part as one replacement.
-/
inductive ReadAs : List UInt8 → List Char → Prop
  | empty : ReadAs [] []
  | char (c : Char) {rest : List UInt8} {text : List Char} (behind : ReadAs rest text)
    : ReadAs (String.utf8EncodeChar c ++ rest) (c :: text)
  | replaced {part rest : List UInt8} {text : List Char} (illFormed : IllFormed part rest)
    (behind : ReadAs rest text)
    : ReadAs (part ++ rest) (replacement :: text)

-----------------------------------------------------------------------------------------
-- The bytes of characters
-----------------------------------------------------------------------------------------

/-- The bytes may follow the lead byte in a character. -/
def Follow (lead : UInt8) : List UInt8 → Prop
  | [] => True
  | second :: more => admitsSecond lead second = true ∧ ∀ byte ∈ more, isContinuation byte = true

theorem Follow.of_prefix {lead : UInt8} {front tail : List UInt8} (h : Follow lead tail)
    (shorter : front <+: tail)
    : Follow lead front := by
  cases front with
  | nil => trivial
  | cons second more =>
      obtain ⟨behind, rfl⟩ := shorter
      exact ⟨h.1, fun byte member => h.2 byte (List.mem_append_left behind member)⟩

/-- A byte of six bits is told by the number that they are. -/
theorem tailByte_eq (byte : UInt8) {n : Nat} (continuation : isContinuation byte = true)
    (bits : n % 0x40 = byte.toNat % 0x40)
    : tailByte n = byte := by
  have range := isContinuation_iff.mp continuation
  rw [← UInt8.toNat_inj, toNat_tailByte]
  omega

theorem ofNat_eq (byte : UInt8) {n : Nat} (same : n = byte.toNat) : UInt8.ofNat n = byte := by
  rw [same, UInt8.ofNat_toNat]

theorem exists_char {n : Nat} (valid : n < 0xD800 ∨ 0xDFFF < n ∧ n < 0x110000)
    : ∃ c : Char, c.toNat = n :=
  ⟨Char.ofNat n, by rw [Char.ofNat, dif_pos valid]; rfl⟩

/-- A character is one ASCII byte, or a lead byte and as many bytes as it announces. -/
theorem follow_of_utf8EncodeChar {c : Char} {lead : UInt8} {tail : List UInt8}
    (encoded : String.utf8EncodeChar c = lead :: tail)
    : (lead.toNat < 0x80 ∧ tail = [])
      ∨ ∃ bits, leadBits? lead = some (bits, tail.length) ∧ Follow lead tail := by
  have valid : c.toNat < 0xD800 ∨ 0xDFFF < c.toNat ∧ c.toNat < 0x110000 := c.valid
  have continuation (n : Nat) : isContinuation (tailByte n) = true := by
    rw [isContinuation_iff, toNat_tailByte]
    omega
  rw [utf8EncodeChar_eq] at encoded
  by_cases one : c.toNat ≤ 0x7F
  · rw [if_pos one] at encoded
    cases encoded
    rw [toNat_ofNat_byte (by omega)]
    exact .inl ⟨by omega, rfl⟩
  rw [if_neg one] at encoded
  refine .inr ?_
  by_cases two : c.toNat ≤ 0x7FF
  · rw [if_pos two] at encoded
    cases encoded
    exact ⟨_, leadBits?_two (by omega) two, admitsSecond_two _, by simp⟩
  rw [if_neg two] at encoded
  by_cases three : c.toNat ≤ 0xFFFF
  · rw [if_pos three] at encoded
    cases encoded
    refine ⟨_, leadBits?_three three, admitsSecond_three (by omega) three (by omega), ?_⟩
    simp [continuation]
  · rw [if_neg three] at encoded
    cases encoded
    refine ⟨_, leadBits?_four (by omega), admitsSecond_four (by omega) (by omega), ?_⟩
    simp [continuation]

section Assembled

variable {lead second third fourth : UInt8}

theorem exists_char_two (range : 0xC2 ≤ lead.toNat ∧ lead.toNat ≤ 0xDF)
    (admits : admitsSecond lead second = true)
    : ∃ c : Char, String.utf8EncodeChar c = [lead, second] := by
  have bounds := admitsSecond_iff.mp admits
  obtain ⟨c, code⟩ := exists_char (n := lead.toNat % 0x20 * 0x40 + second.toNat % 0x40)
    (by omega)
  refine ⟨c, ?_⟩
  rw [utf8EncodeChar_eq, if_neg (by omega), if_pos (by omega), ofNat_eq lead (by omega),
    tailByte_eq second (isContinuation_iff.mpr bounds.1) (by omega)]

theorem exists_char_three (range : 0xE0 ≤ lead.toNat ∧ lead.toNat ≤ 0xEF)
    (admits : admitsSecond lead second = true) (last : isContinuation third = true)
    : ∃ c : Char, String.utf8EncodeChar c = [lead, second, third] := by
  have bounds := admitsSecond_iff.mp admits
  obtain ⟨c, code⟩ := exists_char
    (n := (lead.toNat % 0x10 * 0x40 + second.toNat % 0x40) * 0x40 + third.toNat % 0x40)
    (by omega)
  refine ⟨c, ?_⟩
  rw [utf8EncodeChar_eq, if_neg (by omega), if_neg (by omega), if_pos (by omega),
    ofNat_eq lead (by omega),
    tailByte_eq second (isContinuation_iff.mpr bounds.1) (by omega),
    tailByte_eq third last (by omega)]

theorem exists_char_four (range : 0xF0 ≤ lead.toNat ∧ lead.toNat ≤ 0xF4)
    (admits : admitsSecond lead second = true) (next : isContinuation third = true)
    (last : isContinuation fourth = true)
    : ∃ c : Char, String.utf8EncodeChar c = [lead, second, third, fourth] := by
  have bounds := admitsSecond_iff.mp admits
  obtain ⟨c, code⟩ := exists_char
    (n := ((lead.toNat % 0x08 * 0x40 + second.toNat % 0x40) * 0x40 + third.toNat % 0x40) * 0x40
      + fourth.toNat % 0x40)
    (by omega)
  refine ⟨c, ?_⟩
  rw [utf8EncodeChar_eq, if_neg (by omega), if_neg (by omega), if_neg (by omega),
    ofNat_eq lead (by omega),
    tailByte_eq second (isContinuation_iff.mpr bounds.1) (by omega),
    tailByte_eq third next (by omega), tailByte_eq fourth last (by omega)]

end Assembled

/-- As many bytes as a lead byte announces make up a character with it. -/
theorem exists_utf8EncodeChar {lead : UInt8} {tail : List UInt8} {bits : Nat}
    (found : leadBits? lead = some (bits, tail.length)) (follow : Follow lead tail)
    : ∃ c : Char, String.utf8EncodeChar c = lead :: tail := by
  rw [leadBits?_eq] at found
  split at found
  · next range =>
      obtain ⟨second, rfl⟩ := List.length_eq_one_iff.mp (Prod.mk.inj (Option.some.inj found)).2.symm
      exact exists_char_two range follow.1
  · split at found
    · next range =>
        obtain ⟨second, third, rfl⟩ :=
          List.length_eq_two.mp (Prod.mk.inj (Option.some.inj found)).2.symm
        exact exists_char_three range follow.1 (follow.2 third (by simp))
    · split at found
      · next range =>
          obtain ⟨second, third, fourth, rfl⟩ :=
            List.length_eq_three.mp (Prod.mk.inj (Option.some.inj found)).2.symm
          exact exists_char_four range follow.1 (follow.2 third (by simp))
            (follow.2 fourth (by simp))
      · cases found

-----------------------------------------------------------------------------------------
-- What begins a character
-----------------------------------------------------------------------------------------

theorem Begins.of_prefix {front bytes : List UInt8} (h : Begins bytes) (shorter : front <+: bytes)
    : Begins front := by
  obtain ⟨c, begins⟩ := h
  exact ⟨c, shorter.trans begins⟩

/-- A lead byte beyond ASCII begins a character with what may follow it, up to what it announces. -/
theorem begins_cons_iff {lead : UInt8} {front : List UInt8} (beyond : 0x80 ≤ lead.toNat)
    (nonempty : front ≠ [])
    : Begins (lead :: front)
      ↔ ∃ bits owed,
          leadBits? lead = some (bits, owed) ∧ front.length ≤ owed ∧ Follow lead front := by
  constructor
  · rintro ⟨c, behind, encoded⟩
    rcases follow_of_utf8EncodeChar encoded.symm with ⟨ascii, -⟩ | ⟨bits, found, follow⟩
    · omega
    · exact ⟨bits, _, found, by simp, follow.of_prefix (List.prefix_append front behind)⟩
  · rintro ⟨bits, owed, found, bound, follow⟩
    let missing := List.replicate (owed - front.length) (0x80 : UInt8)
    have whole : (front ++ missing).length = owed := by
      simp only [missing, List.length_append, List.length_replicate]
      omega
    have goesOn : Follow lead (front ++ missing) := by
      cases front with
      | nil => exact absurd rfl nonempty
      | cons second more =>
          refine ⟨follow.1, List.forall_mem_append.mpr ⟨follow.2, fun byte member => ?_⟩⟩
          rw [List.eq_of_mem_replicate member]
          decide
    obtain ⟨c, encoded⟩ := exists_utf8EncodeChar (whole ▸ found) goesOn
    exact ⟨c, missing, encoded.symm⟩

/-- The longest part that begins a character is as long as it is when the next byte does not go on
with it.
-/
theorem prefix_of_begins {part rest longer : List UInt8}
    (stops : ∀ next ∈ rest.head?, ¬Begins (part ++ [next])) (front : longer <+: part ++ rest)
    (begins : Begins longer)
    : longer <+: part := by
  rcases List.prefix_or_prefix_of_prefix front (List.prefix_append part rest) with shorter | further
  · exact shorter
  · obtain ⟨more, rfl⟩ := further
    cases more with
    | nil => simp
    | cons next more =>
        obtain ⟨behind, rfl⟩ := (List.prefix_append_right_inj part).mp front
        refine absurd (begins.of_prefix ?_) (stops next (by simp))
        exact ⟨more, by simp⟩

-----------------------------------------------------------------------------------------
-- The decoded text is the reading
-----------------------------------------------------------------------------------------

/-- Bytes that continue a character are taken until none is owed, or the next one does not continue
it, by induction on the completion.
-/
theorem completeChar_cases (bits owed : Nat) (bytes : List UInt8)
    : ∃ taken rest,
        bytes = taken ++ rest
        ∧ (∀ byte ∈ taken, isContinuation byte = true)
        ∧ (taken.length = owed
            ∨ taken.length < owed
              ∧ completeChar bits owed bytes = (replacement, rest)
              ∧ ∀ next ∈ rest.head?, isContinuation next = false) := by
  fun_induction completeChar bits owed bytes with
  | case1 bits bytes => exact ⟨[], bytes, rfl, List.forall_mem_nil _, .inl rfl⟩
  | case2 bits owed => exact ⟨[], [], rfl, List.forall_mem_nil _, .inr ⟨by simp, rfl, by simp⟩⟩
  | case3 bits owed byte bytes continues ih =>
      obtain ⟨taken, rest, rfl, all, outcome⟩ := ih
      refine ⟨byte :: taken, rest, rfl, List.forall_mem_cons.mpr ⟨continues, all⟩, ?_⟩
      rcases outcome with complete | ⟨short, replaced, stops⟩
      · exact .inl (by rw [List.length_cons, complete])
      · exact .inr ⟨by simpa using short, replaced, stops⟩
  | case4 bits owed byte bytes stops =>
      refine ⟨[], byte :: bytes, rfl, List.forall_mem_nil _, .inr ⟨by simp, rfl, ?_⟩⟩
      simpa using stops

theorem one_le_of_leadBits? {lead : UInt8} {bits owed : Nat}
    (found : leadBits? lead = some (bits, owed))
    : 1 ≤ owed := by
  rw [leadBits?_eq] at found
  split_ifs at found <;> cases found <;> decide

/-- An ASCII byte is a character. -/
theorem beyond_of_noChar {lead : UInt8} {rest : List UInt8}
    (noChar : ∀ c : Char, ¬String.utf8EncodeChar c <+: lead :: rest)
    : 0x80 ≤ lead.toNat := by
  by_contra ascii
  obtain ⟨c, code⟩ := exists_char (n := lead.toNat) (by omega)
  refine noChar c ⟨rest, ?_⟩
  rw [utf8EncodeChar_eq, if_pos (by omega), code, UInt8.ofNat_toNat]
  rfl

/-- Bytes beyond ASCII begin a character only with a lead byte, and a second that it admits. -/
theorem Begins.admitsSecond {lead second : UInt8} (beyond : 0x80 ≤ lead.toNat)
    (h : Begins [lead, second])
    : leadBits? lead ≠ none ∧ admitsSecond lead second = true := by
  obtain ⟨bits, owed, found, -, follow⟩ := (begins_cons_iff beyond (List.cons_ne_nil _ _)).mp h
  exact ⟨Option.ne_none_iff_exists'.mpr ⟨_, found⟩, follow.1⟩

section Replaced

variable {lead : UInt8} {rest : List UInt8}

/-- A single byte is replaced when the next one does not go on with it. -/
theorem IllFormed.of_lead (noChar : ∀ c : Char, ¬String.utf8EncodeChar c <+: lead :: rest)
    (stops : ∀ next ∈ rest.head?, ¬Begins [lead, next])
    : IllFormed [lead] rest :=
  {
    noChar,
    begins := .inl rfl,
    nonempty := List.cons_ne_nil _ _,
    longest := fun _ => prefix_of_begins stops,
  }

/-- A character that lacks some of its bytes is replaced as a whole, up to the byte that does not
continue it.
-/
theorem IllFormed.of_broken_off {front : List UInt8} {bits owed : Nat} (nonempty : front ≠ [])
    (noChar : ∀ c : Char, ¬String.utf8EncodeChar c <+: lead :: front ++ rest)
    (found : leadBits? lead = some (bits, owed)) (bound : front.length ≤ owed)
    (follow : Follow lead front) (stops : ∀ next ∈ rest.head?, isContinuation next = false)
    : IllFormed (lead :: front) rest := by
  have beyond : 0x80 ≤ lead.toNat := beyond_of_noChar noChar
  have begins : Begins (lead :: front) :=
    (begins_cons_iff beyond nonempty).mpr ⟨bits, owed, found, bound, follow⟩
  have ends : ∀ next ∈ rest.head?, ¬Begins (lead :: front ++ [next]) := by
    intro next first further
    have longer : front ++ [next] ≠ [] := List.append_ne_nil_of_right_ne_nil _ (by simp)
    obtain ⟨_, _, _, _, goesOn⟩ := (begins_cons_iff beyond longer).mp further
    obtain ⟨second, more, rfl⟩ := List.exists_cons_of_ne_nil nonempty
    have continues := goesOn.2 next (by simp)
    rw [stops next first] at continues
    cases continues
  exact
    {
      noChar,
      begins := .inr begins,
      nonempty := List.cons_ne_nil _ _,
      longest := fun _ => prefix_of_begins ends,
    }

/-- Where no character stands at the front, the reader replaces the longest ill formed part. -/
theorem illFormed_of_noChar (noChar : ∀ c : Char, ¬String.utf8EncodeChar c <+: lead :: rest)
    : ∃ part,
        lead :: rest = part ++ (readChar lead rest).2
        ∧ (readChar lead rest).1 = replacement
        ∧ IllFormed part (readChar lead rest).2 := by
  have beyond := beyond_of_noChar noChar
  have large : ¬lead < 0x80 := by
    rw [UInt8.lt_iff_toNat_lt]
    exact Nat.not_lt.mpr beyond
  unfold readChar
  rw [if_neg large]
  cases found : leadBits? lead with
  | none =>
      refine ⟨[lead], rfl, rfl, .of_lead noChar fun next _ begins => ?_⟩
      exact (begins.admitsSecond beyond).1 found
  | some announced =>
      obtain ⟨bits, owed⟩ := announced
      cases rest with
      | nil => exact ⟨[lead], rfl, rfl, .of_lead noChar (by simp)⟩
      | cons second more =>
          by_cases admits : admitsSecond lead second = true
          · simp only [admits, if_true]
            have owes := one_le_of_leadBits? found
            obtain ⟨taken, behind, rfl, all, outcome⟩ :=
              completeChar_cases (bits * 0x40 + second.toNat % 0x40) (owed - 1) more
            have follow : Follow lead (second :: taken) := ⟨admits, all⟩
            have length : (second :: taken).length = taken.length + 1 := List.length_cons
            rcases outcome with complete | ⟨short, replaced, stops⟩
            · have whole : (second :: taken).length = owed := by omega
              obtain ⟨c, encoded⟩ := exists_utf8EncodeChar (whole ▸ found) follow
              exact absurd ⟨behind, by rw [encoded]; rfl⟩ (noChar c)
            · rw [replaced]
              refine ⟨lead :: second :: taken, rfl, rfl, ?_⟩
              exact .of_broken_off (List.cons_ne_nil _ _) noChar found (by omega) follow stops
          · simp only [admits]
            refine ⟨[lead], rfl, rfl, .of_lead noChar fun next first begins => ?_⟩
            obtain rfl : second = next := by simpa using first
            exact admits (begins.admitsSecond beyond).2

end Replaced

theorem readAs_decode (bytes : List UInt8) : ReadAs bytes (decode bytes) := by
  induction bytes using charStep.induction with
  | nil =>
      rw [decode, charStep.readAll_nil]
      exact .empty
  | cons lead rest ih =>
      by_cases front : ∃ c : Char, String.utf8EncodeChar c <+: lead :: rest
      · obtain ⟨c, behind, whole⟩ := front
        obtain ⟨first, tail, encoded, read⟩ := readChar_utf8EncodeChar c behind
        rw [encoded, List.cons_append] at whole
        obtain ⟨rfl, rfl⟩ := List.cons.inj whole
        have same : charStep.read first (tail ++ behind) = (c, behind) := read
        rw [same] at ih
        have split : first :: (tail ++ behind) = String.utf8EncodeChar c ++ behind := by
          rw [encoded, List.cons_append]
        rw [split, decode_utf8EncodeChar_append]
        exact .char c ih
      · obtain ⟨part, whole, replaced, illFormed⟩ :=
          illFormed_of_noChar fun c stands => front ⟨c, stands⟩
        rw [decode_cons, replaced, whole]
        exact .replaced illFormed ih

/-- Of two ill formed parts at the front of the same bytes neither is longer. -/
theorem IllFormed.length_le {part rest other behind : List UInt8} (h : IllFormed part rest)
    (h' : IllFormed other behind) (same : part ++ rest = other ++ behind)
    : part.length ≤ other.length := by
  rcases h.begins with single | begins
  · rw [single]
    exact List.length_pos_iff.mpr h'.nonempty
  · have front : part <+: other ++ behind := ⟨rest, same⟩
    exact (h'.longest part front begins).length_le

theorem IllFormed.decode_append {part rest : List UInt8} (h : IllFormed part rest)
    : decode (part ++ rest) = replacement :: decode rest := by
  obtain ⟨lead, front, rfl⟩ := List.exists_cons_of_ne_nil h.nonempty
  have noChar : ∀ c : Char, ¬String.utf8EncodeChar c <+: lead :: (front ++ rest) := h.noChar
  obtain ⟨other, whole, replaced, h'⟩ := illFormed_of_noChar noChar
  have length := Nat.le_antisymm (h.length_le h' whole) (h'.length_le h whole.symm)
  obtain ⟨-, behind⟩ := List.append_inj whole length
  rw [List.cons_append, decode_cons, replaced, ← behind]

/-- The decoded text is the only reading of the bytes. -/
theorem readAs_iff {bytes : List UInt8} {text : List Char}
    : ReadAs bytes text ↔ text = decode bytes := by
  constructor
  · intro reading
    induction reading with
    | empty => exact charStep.readAll_nil.symm
    | char c _ ih => rw [decode_utf8EncodeChar_append, ih]
    | replaced illFormed _ ih => rw [illFormed.decode_append, ih]
  · rintro rfl
    exact readAs_decode bytes

/-- A cut off character, one that is whole, half of a surrogate, and a byte that begins nothing. -/
example
    : decode [0xE2, 0x82, 0xE2, 0x82, 0xAC, 0xED, 0xA0, 0xFF]
      = [replacement, '€', replacement, replacement, replacement] := by
  decide +kernel

end Logbook.Text.Utf8
