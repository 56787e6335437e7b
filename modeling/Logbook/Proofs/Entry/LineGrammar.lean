import Logbook.Proofs.Entry.TaskFields

/-! The grammar of lines and the order in which its faults are reported.
A line of five fields may have tabs behind it. Too many bytes are reported first, then another
number of fields and last an event field without the number of its task; every other line is read.
-/

namespace Logbook.Entry

open Text

-----------------------------------------------------------------------------------------
-- Tabs behind the fields
-----------------------------------------------------------------------------------------

/-- A line is nothing but tabs, or it has a last character that is no tab. -/
theorem tabs_or_last (line : List Char)
    : (∃ tabs, line = List.replicate tabs '\t')
      ∨ ∃ front last tabs, last ≠ '\t' ∧ line = front ++ last :: List.replicate tabs '\t' := by
  induction line using List.reverseRecOn with
  | nil => exact .inl ⟨0, rfl⟩
  | append_singleton front c ih =>
      by_cases tab : c = '\t'
      · subst tab
        rcases ih with ⟨tabs, rfl⟩ | ⟨before, last, tabs, other, rfl⟩
        · exact .inl ⟨tabs + 1, List.replicate_succ'.symm⟩
        · refine .inr ⟨before, last, tabs + 1, other, ?_⟩
          rw [List.replicate_succ', List.append_assoc, List.cons_append]
      · exact .inr ⟨front, c, 0, tab, rfl⟩

/-- Tabs behind a line are not followed by fields. -/
theorem fieldsOfLine_append_tabs (line : List Char) (tabs : Nat)
    : fieldsOfLine (line ++ List.replicate tabs '\t') = fieldsOfLine line := by
  induction tabs with
  | zero => simp
  | succ tabs ih =>
      have split (front : List Char) : (front ++ ['\t']).splitOn '\t' = front.splitOn '\t' ++ [[]] :=
        List.splitOn_append_cons_self front []
      rw [List.replicate_succ', ← List.append_assoc, fieldsOfLine, split,
        dropTrailing_concat List.isEmpty_nil, ← fieldsOfLine, ih]

theorem fieldsOfLine_tabs (tabs : Nat) : fieldsOfLine (List.replicate tabs '\t') = [] :=
  fieldsOfLine_append_tabs [] tabs

theorem fieldsOfLine_concat {front : List Char} {last : Char} (other : last ≠ '\t')
    : fieldsOfLine (front ++ [last]) = (front ++ [last]).splitOn '\t' := by
  obtain ⟨pieces, piece, split⟩ := splitOn_concat other front
  rw [fieldsOfLine, split]
  exact dropTrailing_eq_self (by simp)

/-- The fields of a line are the parts between its tabs up to the last other character. -/
theorem fieldsOfLine_up_to_last {front : List Char} {last : Char} {tabs : Nat}
    (other : last ≠ '\t')
    : fieldsOfLine (front ++ last :: List.replicate tabs '\t')
      = (front ++ [last]).splitOn '\t' := by
  have cut : front ++ last :: List.replicate tabs '\t'
      = (front ++ [last]) ++ List.replicate tabs '\t' := by
    simp
  rw [cut, fieldsOfLine_append_tabs, fieldsOfLine_concat other]

/-- The fields of a line are any parts without tabs that it joins by tabs, as long as the last one is
not empty.
-/
theorem fieldsOfLine_eq_iff {line last : List Char} {parts : List (List Char)}
    : fieldsOfLine line = parts ++ [last]
      ↔ (∀ part ∈ parts ++ [last], '\t' ∉ part) ∧ last ≠ []
        ∧ ∃ tabs,
            line = ['\t'].intercalate (parts ++ [last]) ++ List.replicate tabs '\t' := by
  constructor
  · intro fields
    rcases tabs_or_last line with ⟨tabs, rfl⟩ | ⟨front, c, tabs, other, rfl⟩
    · rw [fieldsOfLine_tabs] at fields
      simp at fields
    · rw [fieldsOfLine_up_to_last other] at fields
      obtain ⟨pieces, piece, split⟩ := splitOn_concat other front
      have joined : ['\t'].intercalate ((front ++ [c]).splitOn '\t') = front ++ [c] :=
        List.intercalate_splitOn '\t'
      rw [fields] at joined
      refine ⟨fun part member tab => ?_, ?_, tabs, by rw [joined]; simp⟩
      · rw [← fields] at member
        exact (mem_of_mem_splitOn member tab).2 rfl
      · rw [split] at fields
        have same := (List.append_inj' fields rfl).2
        simp only [List.cons.injEq, and_true] at same
        rw [← same]
        simp
  · rintro ⟨noTab, nonempty, tabs, rfl⟩
    have notEmpty : last.isEmpty = false := by simpa using nonempty
    rw [fieldsOfLine_append_tabs, fieldsOfLine,
      List.splitOn_intercalate '\t' noTab (by simp)]
    exact dropTrailing_eq_self (by simp [notEmpty])

-----------------------------------------------------------------------------------------
-- The grammar
-----------------------------------------------------------------------------------------

/-- The line is five fields between tabs, the last one not empty, and any tabs behind them. -/
structure FiveFields (line address user time field status : List Char) : Prop where
  noTab : ∀ part ∈ [address, user, time, field, status], '\t' ∉ part
  nonempty : status ≠ []
  joined
    : ∃ tabs,
        line
        = ['\t'].intercalate [address, user, time, field, status] ++ List.replicate tabs '\t'

theorem fiveFields_iff {line address user time field status : List Char}
    : FiveFields line address user time field status
      ↔ fieldsOfLine line = [address, user, time, field, status] := by
  rw [show [address, user, time, field, status] = [address, user, time, field] ++ [status] from rfl,
    fieldsOfLine_eq_iff]
  exact ⟨fun h => ⟨h.noTab, h.nonempty, h.joined⟩, fun ⟨noTab, nonempty, joined⟩ =>
    ⟨noTab, nonempty, joined⟩⟩

/-- The number of fields that is found in a line: none among tabs, or else one more than there are
tabs in front of the last other character.
-/
inductive FieldsFound (line : List Char) : Nat → Prop
  | none (tabs : ∀ c ∈ line, c = '\t') : FieldsFound line 0
  | upTo {front : List Char} {last : Char} {tabs : Nat} (other : last ≠ '\t')
    (cut : line = front ++ last :: List.replicate tabs '\t')
    : FieldsFound line (front.count '\t' + 1)

theorem fieldsFound (line : List Char) : FieldsFound line (fieldsOfLine line).length := by
  rcases tabs_or_last line with ⟨tabs, rfl⟩ | ⟨front, last, tabs, other, rfl⟩
  · rw [fieldsOfLine_tabs]
    exact .none fun c member => List.eq_of_mem_replicate member
  · have count : (fieldsOfLine (front ++ last :: List.replicate tabs '\t')).length
        = front.count '\t' + 1 := by
      rw [fieldsOfLine_up_to_last other, length_splitOn, List.count_append,
        List.count_singleton, if_neg (by simpa using other), Nat.add_zero]
    rw [count]
    exact .upTo other rfl

/-- A line that is not five fields has another number of them. -/
theorem length_fieldsOfLine_ne_five {line : List Char}
    (others : ∀ address user time field status, ¬FiveFields line address user time field status)
    : (fieldsOfLine line).length ≠ 5 := by
  intro five
  match fields : fieldsOfLine line with
  | [address, user, time, field, status] =>
      exact others address user time field status (fiveFields_iff.mpr fields)
  | [] | [_] | [_, _] | [_, _, _] | [_, _, _, _] | _ :: _ :: _ :: _ :: _ :: _ :: _ =>
      rw [fields] at five
      simp at five

-----------------------------------------------------------------------------------------
-- What lines are read as
-----------------------------------------------------------------------------------------

/-- Only the fields of lines that fit have a part in what they are read as. -/
theorem ofLine_congr {limit other : Nat} {line next : String} (fits : line.utf8ByteSize ≤ limit)
    (nextFits : next.utf8ByteSize ≤ other)
    (same : fieldsOfLine line.toList = fieldsOfLine next.toList)
    : ofLine limit line = ofLine other next := by
  unfold ofLine
  rw [if_neg (Nat.not_lt.mpr fits), if_neg (Nat.not_lt.mpr nextFits), same]

/-- The field names a task event, and what is left of it without the name and all white space writes
no number.
-/
def LacksNumber (field : List Char) : Prop :=
  ∃ event : Event, event.NamedIn field ∧ ∀ task, ¬WritesInt32 task (glued (event.restOf field))

/-- Only a field that names a task event can be without a reading. -/
theorem lacksNumber_iff {field : List Char} : LacksNumber field ↔ Action.read? field = none := by
  constructor
  · rintro ⟨event, named, unwritten⟩
    exact named.read?_eq_none_iff.mpr unwritten
  · intro unread
    have lacks {event : Event} (named : event.NamedIn field) : LacksNumber field :=
      ⟨event, named, named.read?_eq_none_iff.mp unread⟩
    cases solve : occurs Event.solveTask.name.toList field with
    | true => exact lacks (.solveTask solve)
    | false =>
        cases done : occurs Event.doneTask.name.toList field with
        | true => exact lacks (.doneTask solve done)
        | false => simp [Action.read?, solve, done] at unread

/-- What a line is read as. -/
structure ReadByGrammar (limit : Nat) (line : String) : Prop where
  tooLarge
    : limit < line.utf8ByteSize
      → ofLine limit line = .error (.tooLarge line.utf8ByteSize limit)
  fieldCount
    : line.utf8ByteSize ≤ limit
      → (∀ address user time field status,
          ¬FiveFields line.toList address user time field status)
      → ∃ found,
          FieldsFound line.toList found
          ∧ found ≠ 5
          ∧ ofLine limit line = .error (.fieldCount 5 found)
  malformedTask
    : ∀ address user time field status,
        line.utf8ByteSize ≤ limit
        → FiveFields line.toList address user time field status
        → LacksNumber field
        → ofLine limit line = .error (.malformedTask (String.ofList field))
  entry
    : ∀ address user time field status,
        line.utf8ByteSize ≤ limit
        → FiveFields line.toList address user time field status
        → ¬LacksNumber field
        → ∃ action,
            Action.ReadAs field action
            ∧ ofLine limit line
              = .ok
                  {
                    address := String.ofList address,
                    user := String.ofList user,
                    time := Instant.read? time,
                    action,
                    status := (Status.ofName? (String.ofList status)).getD .unknown,
                  }
  padded
    : ∀ tabs longer,
        longer = line ++ String.ofList (List.replicate tabs '\t')
        → longer.utf8ByteSize ≤ limit
        → ofLine limit longer = ofLine limit line
  raised
    : line.utf8ByteSize ≤ limit
      → ∀ higher, limit ≤ higher → ofLine higher line = ofLine limit line

/-- Every line is read by the grammar: it is refused for the first fault that it has, and is an entry
of its fields when it has none.
-/
theorem readByGrammar (limit : Nat) (line : String) : ReadByGrammar limit line where
  tooLarge := ofLine_of_large
  fieldCount fits others :=
    ⟨_, fieldsFound line.toList, length_fieldsOfLine_ne_five others,
      ofLine_of_length_ne fits (length_fieldsOfLine_ne_five others)⟩
  malformedTask address user time field status fits five lacks := by
    rw [ofLine_of_fields fits (fiveFields_iff.mp five), lacksNumber_iff.mp lacks, Option.elim_none]
  entry address user time field status fits five numbered := by
    obtain ⟨action, read⟩ := Option.ne_none_iff_exists'.mp (mt lacksNumber_iff.mpr numbered)
    refine ⟨action, Action.readAs_of_read? read, ?_⟩
    rw [ofLine_of_fields fits (fiveFields_iff.mp five), read, Option.elim_some]
    rfl
  padded tabs longer appended fits := by
    subst appended
    have shorter : line.utf8ByteSize ≤ limit := by
      rw [String.utf8ByteSize_append] at fits
      exact Nat.le_of_add_right_le fits
    apply ofLine_congr fits shorter
    rw [String.toList_append, String.toList_ofList, fieldsOfLine_append_tabs]
  raised fits higher above := ofLine_congr (Nat.le_trans fits above) fits rfl

end Logbook.Entry
