import Logbook.Proofs.Intake.Reloading
import Logbook.Proofs.Query.CatalogAgreement
import Logbook.Proofs.Query.SetSemantics
import Logbook.Report
import Mathlib.Data.List.Nodup

/-! An answer shown one value per line can be taken back, line by line, from what is shown.
No value that an archive of sources gives holds a newline, since no stored text does, and every
value is written in a way that tells it from all others.
-/

namespace Logbook

-----------------------------------------------------------------------------------------
-- What is written of a value tells which it is
-----------------------------------------------------------------------------------------

theorem Event.name_inj {a b : Event} : a.name = b.name ↔ a = b := by
  cases a <;> cases b <;> decide

theorem Status.name_inj {a b : Status} : a.name = b.name ↔ a = b := by
  cases a <;> cases b <;> decide

theorem Instant.ofList_text_injective
    : Function.Injective fun t : Instant => String.ofList t.text := by
  have back : (fun line => read? line.toList) ∘ (fun t => String.ofList t.text) = some := by
    funext t
    rw [Function.comp_apply, String.toList_ofList, read?_text]
  have injective := Option.some_injective Instant
  rw [← back] at injective
  exact injective.of_comp

namespace Answer

/-- Each of the lines stands for the value in its place: the text itself, an instant that is read
from the line, or the only event or status of that name. Instants ascend as time goes.
-/
inductive ToldBy : Answer → List String → Prop
  | texts {values} : ToldBy (.texts values) values
  | times {values lines}
    (read : List.Forall₂ (fun line t => Instant.read? line.toList = some t) lines values)
    (ascending : values.Pairwise fun a b => a.components < b.components)
    : ToldBy (.times values) lines
  | events {values lines}
    (named
      : List.Forall₂ (fun line event => ∀ other : Event, other.name = line ↔ other = event) lines
          values)
    : ToldBy (.events values) lines
  | statuses {values lines}
    (named
      : List.Forall₂ (fun line status => ∀ other : Status, other.name = line ↔ other = status)
          lines values)
    : ToldBy (.statuses values) lines

theorem length_lines (answer : Answer) : answer.lines.length = answer.size := by
  cases answer with
  | texts values => rfl
  | times | events | statuses => exact List.length_map _

end Answer

namespace Archive

variable {archive : Archive} {query : Query} {answer : Answer}

/-- What is written of the values of an answer tells them all. -/
theorem Answered.toldBy_lines (answered : archive.Answered query answer)
    : answer.ToldBy answer.lines := by
  cases answered with
  | addresses | users => exact .texts
  | times select lists =>
      refine .times (List.forall₂_map_left_iff.mpr (List.forall₂_same.mpr fun t _ => ?_))
        lists.ascending
      rw [String.toList_ofList, Instant.read?_text]
  | events =>
      refine .events (List.forall₂_map_left_iff.mpr (List.forall₂_same.mpr fun event _ => ?_))
      exact fun other => Event.name_inj
  | statuses =>
      refine .statuses (List.forall₂_map_left_iff.mpr (List.forall₂_same.mpr fun status _ => ?_))
      exact fun other => Status.name_inj

/-- No two values of an answer are written alike. -/
theorem Answered.nodup_lines (answered : archive.Answered query answer)
    : answer.lines.Nodup := by
  cases answered with
  | addresses select lists | users select lists => exact lists.nodup
  | times select lists => exact .map Instant.ofList_text_injective lists.nodup
  | events select lists => exact .map (fun _ _ => Event.name_inj.mp) lists.nodup
  | statuses select lists => exact .map (fun _ _ => Status.name_inj.mp) lists.nodup

-----------------------------------------------------------------------------------------
-- No value holds a newline
-----------------------------------------------------------------------------------------

/-- The lines of an answer hold no newline where no free text of an entry does: all else that is
written is plain.
-/
theorem Answered.newline_not_mem_lines (answered : archive.Answered query answer)
    (clean
      : ∀ entry ∈ archive.entries,
          '\n' ∉ entry.address.toList ∧ '\n' ∉ entry.user.toList)
    : ∀ line ∈ answer.lines, '\n' ∉ line.toList := by
  have control : '\n' < ' ' := by decide
  intro line member
  cases answered with
  | addresses select lists =>
      obtain ⟨entry, stored, -, rfl⟩ := (lists.mem_iff line).mp member
      exact (clean entry stored).1
  | users select lists =>
      obtain ⟨entry, stored, -, rfl⟩ := (lists.mem_iff line).mp member
      exact (clean entry stored).2
  | times =>
      obtain ⟨t, -, rfl⟩ := List.mem_map.mp member
      rw [String.toList_ofList]
      exact (plain_instant t).not_mem control
  | events =>
      obtain ⟨event, -, rfl⟩ := List.mem_map.mp member
      exact (plain_event event).not_mem control
  | statuses =>
      obtain ⟨status, -, rfl⟩ := List.mem_map.mp member
      exact (plain_status status).not_mem control

end Archive

/-- The free texts of an entry that can be written out as a line hold no newline. -/
theorem Entry.Reloadable.newline_not_mem {entry : Entry} (h : entry.Reloadable)
    : '\n' ∉ entry.address.toList ∧ '\n' ∉ entry.user.toList := by
  have absent := h.noLineEnd.1
  rw [Entry.toList_line, List.mem_append, List.mem_cons, List.mem_append] at absent
  exact ⟨fun member => absent (.inl member), fun member => absent (.inr (.inr (.inl member)))⟩

-----------------------------------------------------------------------------------------
-- One value per line
-----------------------------------------------------------------------------------------

/-- The parts of a text between its newlines. -/
def partsAtNewlines (text : String) : List String :=
  (text.split '\n').toList.map String.Slice.copy

namespace Answer

/-- The parts of a text are what is written of the values of the answer, one of each: in the order
of the answer, no two alike, and each telling its value.
-/
structure OnePerLine (answer : Answer) (parts : List String) : Prop where
  lines : parts = answer.lines
  size : parts.length = answer.size
  distinct : parts.Nodup
  told : answer.ToldBy parts

/-- Nothing is shown of an answer without values. -/
theorem plain_of_size_eq_zero {answer : Answer} (empty : answer.size = 0)
    : answer.plain = "" := by
  have lines : answer.lines = [] :=
    List.eq_nil_of_length_eq_zero (answer.length_lines.trans empty)
  rw [plain, lines, String.intercalate_nil]

/-- What is shown of an answer with values is cut into their lines where none holds a newline. -/
theorem partsAtNewlines_plain {answer : Answer} (nonempty : answer.size ≠ 0)
    (clean : ∀ line ∈ answer.lines, '\n' ∉ line.toList)
    : partsAtNewlines answer.plain = answer.lines := by
  have lines : answer.lines ≠ [] := by
    intro lines
    rw [← answer.length_lines, lines] at nonempty
    exact nonempty rfl
  exact (String.toList_split_intercalate clean).trans (if_neg lines)

end Answer

/-- However an archive was taken in from sources, the plain text of an answer without values is
empty, and that of any other, cut at its newlines, has one part for each value.
-/
theorem Archive.shows_onePerLine (policy : Policy) (limit : Nat) (sources : List Source)
    {text : String} {query : Query} (parsed : Query.parse text = .ok query)
    : let archive := (Intake.session { policy, limit } (sources.map .source)).archive
      let answer := archive.answer query
      archive.ask text = .ok answer
      ∧ (answer.size = 0 → answer.render false = "")
      ∧ (answer.size ≠ 0 → answer.OnePerLine (partsAtNewlines (answer.render false))) := by
  intro archive answer
  have answered := archive.answered_answer query
  have start : Intake.AllStored Entry.Reloadable { policy, limit } := by simp [Intake.AllStored]
  have clean
      : ∀ entry ∈ archive.entries,
          '\n' ∉ entry.address.toList ∧ '\n' ∉ entry.user.toList := by
    intro entry member
    have stored := Array.mem_toList_iff.mp member
    exact (Intake.allStored_session sources start entry stored).newline_not_mem
  refine ⟨archive.ask_eq_answer parsed, Answer.plain_of_size_eq_zero, fun nonempty => ?_⟩
  have parts : partsAtNewlines (answer.render false) = answer.lines :=
    Answer.partsAtNewlines_plain nonempty (answered.newline_not_mem_lines clean)
  rw [parts]
  exact
    {
      lines := rfl,
      size := answer.length_lines,
      distinct := answered.nodup_lines,
      told := answered.toldBy_lines,
    }

/-- Two sources, of which the first is interrupted behind its only entry and the second breaks off.
Of the two times that are asked for, one is a sixtieth second and one is of a year that is written
with a sign.
-/
theorem Archive.shows_onePerLine_times
    : let sources : List Source :=
        [
          {
            name := "a",
            bytes :=
              0xFF :: Text.Utf8.encode
                "\tBo\t1.2.3 4:5:60\tLOGIN\tOK\r1\tBo\t\tSOLVE_TASK\tOK\n".toList,
          },
          {
            name := "b",
            bytes := Text.Utf8.encode "1\t\t31.12.+12345 0:0:0\tLOGIN\tOK\r\nlost".toList,
            breaksOff := true,
          }
        ]
      let text := "get date for status=\"OK\""
      let query : Query := { select := .time, condition := some (.status .ok) }
      let archive := (Intake.session { policy := .abort } (sources.map .source)).archive
      let answer := archive.answer query
      Query.parse text = .ok query
      ∧ answer.render false = "1.2.0003 4:5:60\n31.12.+12345 0:0:0"
      ∧ answer.size ≠ 0
      ∧ answer.OnePerLine (partsAtNewlines (answer.render false)) := by
  intro sources text query archive answer
  have parsed : Query.parse text = .ok query := by decide +kernel
  let leap : Instant :=
    {
      date := { year := 3, month := 2, day := 1, dayExists := by decide },
      hour := 4,
      minute := 5,
      second := 60,
    }
  let later : Instant :=
    {
      date := { year := 12345, month := 12, day := 31, dayExists := by decide },
      hour := 0,
      minute := 0,
      second := 0,
    }
  have found : (archive.select query.criteria).filterMap Entry.time = [leap, later] := by
    decide +kernel
  have answered : answer = .times [leap, later] := by
    have sorted : [leap, later].Pairwise fun a b => decide (a ≤ b) = true := by decide +kernel
    have times : archive.timesOf query.criteria = [leap, later] := by
      rw [Archive.timesOf, found, distinct, List.mergeSort_of_pairwise sorted]
      decide +kernel
    exact congrArg Answer.times times
  have shown : answer.render false = "1.2.0003 4:5:60\n31.12.+12345 0:0:0" := by
    rw [answered]
    decide +kernel
  have nonempty : answer.size ≠ 0 := by
    rw [answered]
    decide
  refine ⟨parsed, shown, nonempty, ?_⟩
  exact (Archive.shows_onePerLine .abort Entry.defaultLimit sources parsed).2.2 nonempty

end Logbook
