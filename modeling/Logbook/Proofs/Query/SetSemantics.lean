import Logbook.Proofs.Archive.Selection
import Logbook.Proofs.Instant.Chronology
import Logbook.Query.Answer

/-! An answer is the set that its query describes: the values that the selected attribute takes in
the entries that the query is about. What a query is about is said here without the criteria by
which an archive is searched.
-/

namespace Logbook

-----------------------------------------------------------------------------------------
-- What a query is about
-----------------------------------------------------------------------------------------

/-- The entry has the value that the condition gives to its attribute. -/
def Condition.HoldsOf (entry : Entry) : Condition → Prop
  | address value => entry.address = value
  | user value => entry.user = value
  | time value => entry.time = some value
  | event value => entry.event = value
  | status value => entry.status = value

/-- The instant is later than one bound of the window and earlier than the other. -/
def Window.Spans (w : Window) (t : Instant) : Prop :=
  (w.after.getD .earliest).components < t.components
  ∧ t.components < (w.before.getD .latest).components

/-- The query is about the entry: the entry meets the condition, and has a time in the window. -/
structure Query.IsAbout (query : Query) (entry : Entry) : Prop where
  condition : ∀ condition ∈ query.condition, condition.HoldsOf entry
  window : ∀ window ∈ query.window, ∃ t, entry.time = some t ∧ window.Spans t

theorem Window.contains_iff {w : Window} {time : Option Instant}
    : w.contains time = true ↔ ∃ t, time = some t ∧ w.Spans t := by
  cases time with
  | none => simp [contains]
  | some t =>
      simp [contains, Spans, lower, upper, Instant.lt_iff_components]

/-- The criteria of a condition are met where it holds, whatever window is added to them. -/
theorem Condition.admits_iff {condition : Condition} {window : Option Window} {entry : Entry}
    : Criteria.admits { condition.criteria with window } entry = true
      ↔ condition.HoldsOf entry ∧ window.all entry.isWithin = true := by
  cases condition <;>
    simp [criteria, Criteria.admits, HoldsOf, Entry.isFrom, Entry.isBy, Entry.isAt,
      Entry.isEvent, Entry.hasStatus]

theorem Query.admits_iff {query : Query} {entry : Entry}
    : query.criteria.admits entry = true ↔ query.IsAbout entry := by
  have within
      : query.window.all entry.isWithin = true
        ↔ ∀ window ∈ query.window, ∃ t, entry.time = some t ∧ window.Spans t := by
    cases query.window <;> simp [Entry.isWithin, Window.contains_iff]
  rw [criteria]
  cases given : query.condition with
  | none =>
      simp only [Option.map_none, Option.getD_none, Criteria.admits, Option.all_none,
        Bool.true_and, within]
      exact ⟨fun h => ⟨by simp [given], h⟩, fun h => h.window⟩
  | some condition =>
      simp only [Option.map_some, Option.getD_some, Condition.admits_iff, within]
      exact
        ⟨fun h => ⟨by simpa [given] using h.1, h.2⟩, fun h => ⟨h.condition _ given, h.window⟩⟩

-----------------------------------------------------------------------------------------
-- What an answer is
-----------------------------------------------------------------------------------------

/-- The numbers of the characters of a text. -/
def codePoints (text : String) : List Nat := text.toList.map Char.toNat

theorem codePoints_lt {a b : String} (h : a < b) : codePoints a < codePoints b :=
  List.map_lt (fun _ _ below => below) (String.lt_iff.mp h)

theorem Event.ctorIdx_lt {a b : Event} (h : a < b) : a.ctorIdx < b.ctorIdx := by
  revert h
  cases a <;> cases b <;> decide

theorem Status.ctorIdx_lt {a b : Status} (h : a < b) : a.ctorIdx < b.ctorIdx := by
  revert h
  cases a <;> cases b <;> decide

/-- A list of the values that are described, each once, ascending by a key. -/
structure Lists {α κ : Type} [LT κ] (key : α → κ) (described : α → Prop) (values : List α)
    : Prop where
  mem_iff : ∀ value, value ∈ values ↔ described value
  ascending : values.Pairwise fun a b => key a < key b

/-- Values that ascend are listed once each. -/
theorem Lists.nodup {α κ : Type} [LT κ] [Std.Irrefl fun a b : κ => a < b] {key : α → κ}
    {described : α → Prop} {values : List α} (lists : Lists key described values)
    : values.Nodup := by
  refine lists.ascending.imp fun {a b} below same => ?_
  rw [same] at below
  exact Std.Irrefl.irrefl (key b) below

/-- The answer lists the value that the entry has of the attribute. -/
def Answer.ListsValueOf (entry : Entry) : Attribute → Answer → Prop
  | .address, texts values => entry.address ∈ values
  | .user, texts values => entry.user ∈ values
  | .time, times values => ∃ t ∈ values, entry.time = some t
  | .event, events values => entry.event ∈ values
  | .status, statuses values => entry.status ∈ values
  | _, _ => False

namespace Archive

/-- The answer is the set that the query describes, and of the kind that it selects. Texts ascend by
code points, times as time goes, and the names by their place in the declaration.
-/
inductive Answered (archive : Archive) (query : Query) : Answer → Prop
  | addresses {values} (select : query.select = .address)
    (lists
      : Lists codePoints
          (fun value =>
            ∃ entry ∈ archive.entries, query.IsAbout entry ∧ entry.address = value)
          values)
    : Answered archive query (.texts values)
  | users {values} (select : query.select = .user)
    (lists
      : Lists codePoints
          (fun value => ∃ entry ∈ archive.entries, query.IsAbout entry ∧ entry.user = value)
          values)
    : Answered archive query (.texts values)
  | times {values} (select : query.select = .time)
    (lists
      : Lists Instant.components
          (fun t => ∃ entry ∈ archive.entries, query.IsAbout entry ∧ entry.time = some t)
          values)
    : Answered archive query (.times values)
  | events {values} (select : query.select = .event)
    (lists
      : Lists Event.ctorIdx
          (fun value => ∃ entry ∈ archive.entries, query.IsAbout entry ∧ entry.event = value)
          values)
    : Answered archive query (.events values)
  | statuses {values} (select : query.select = .status)
    (lists
      : Lists Status.ctorIdx
          (fun value =>
            ∃ entry ∈ archive.entries, query.IsAbout entry ∧ entry.status = value)
          values)
    : Answered archive query (.statuses values)

variable (archive : Archive) (query : Query)

/-- The values of the entries that meet the criteria of a query are listed in any order that the
order of the values implies.
-/
theorem lists_valuesOf {α κ : Type} [LE α] [DecidableLE α] [DecidableEq α] [LT α]
    [Std.IsLinearOrder α] [Std.LawfulOrderLT α] [LT κ] {key : α → κ}
    (key_lt : ∀ {a b : α}, a < b → key a < key b) (value : Entry → α)
    : Lists key
        (fun a => ∃ entry ∈ archive.entries, query.IsAbout entry ∧ value entry = a)
        (archive.valuesOf query.criteria value) := by
  refine { mem_iff := fun a => ?_, ascending := ?_ }
  · simp only [mem_valuesOf, Query.admits_iff]
  · exact (archive.ascending_valuesOf query.criteria value).imp key_lt

theorem lists_timesOf
    : Lists Instant.components
        (fun t => ∃ entry ∈ archive.entries, query.IsAbout entry ∧ entry.time = some t)
        (archive.timesOf query.criteria) := by
  refine { mem_iff := fun a => ?_, ascending := ?_ }
  · simp only [mem_timesOf, Query.admits_iff]
  · exact (archive.ascending_timesOf query.criteria).imp Instant.lt_iff_components.mp

theorem answered_answer : archive.Answered query (archive.answer query) := by
  rw [answer]
  cases select : query.select with
  | address => exact .addresses select (archive.lists_valuesOf query codePoints_lt _)
  | user => exact .users select (archive.lists_valuesOf query codePoints_lt _)
  | time => exact .times select (archive.lists_timesOf query)
  | event => exact .events select (archive.lists_valuesOf query Event.ctorIdx_lt _)
  | status => exact .statuses select (archive.lists_valuesOf query Status.ctorIdx_lt _)

-----------------------------------------------------------------------------------------
-- Entries without a time
-----------------------------------------------------------------------------------------

/-- The archive without the entries that have no time. -/
def dated (archive : Archive) : Archive :=
  { entries := archive.entries.filter fun entry => entry.time.isSome }

/-- Criteria that ask for a time select the same entries when those without one are left out. -/
theorem select_dated {criteria : Criteria}
    (timed : ∀ entry, criteria.admits entry = true → entry.time.isSome = true)
    : archive.dated.select criteria = archive.select criteria := by
  rw [select, dated, List.filter_filter, select]
  refine List.filter_congr fun entry _ => ?_
  cases admitted : criteria.admits entry with
  | false => rfl
  | true => rw [timed entry admitted, Bool.and_true]

theorem timesOf_dated (criteria : Criteria)
    : archive.dated.timesOf criteria = archive.timesOf criteria := by
  simp only [timesOf, select, dated, List.filterMap_filter]
  congr 2
  funext entry
  cases entry.time <;> simp

/-- A query with a window, or for times, is answered as if all entries without a time were left
out.
-/
theorem answer_dated (timed : query.window ≠ none ∨ query.select = .time)
    : archive.dated.answer query = archive.answer query := by
  rcases timed with windowed | select
  · have same : archive.dated.select query.criteria = archive.select query.criteria := by
      refine archive.select_dated fun entry admitted => ?_
      obtain ⟨window, given⟩ := Option.ne_none_iff_exists'.mp windowed
      obtain ⟨t, time, _⟩ := (Query.admits_iff.mp admitted).window window given
      rw [time, Option.isSome_some]
    simp only [answer, valuesOf, timesOf, same]
  · simp only [answer, select, timesOf_dated]

theorem listsValueOf_answer {entry : Entry} (member : entry ∈ archive.entries)
    (about : query.IsAbout entry) (select : query.select ≠ .time)
    : (archive.answer query).ListsValueOf entry query.select := by
  have admitted := Query.admits_iff.mpr about
  rw [answer]
  cases selected : query.select with
  | time => exact absurd selected select
  | address | user | event | status => exact mem_valuesOf.mpr ⟨entry, member, admitted, rfl⟩

/-- The answer to a query is the set that it describes. Without a window an entry without a time has
its part in every answer but one of times, and with a window in none.
-/
theorem answer_is_described_set (archive : Archive) (query : Query)
    : archive.Answered query (archive.answer query)
      ∧ (query.window = none
        → query.select ≠ .time
        → ∀ entry ∈ archive.entries,
            entry.time = none
            → (∀ condition ∈ query.condition, condition.HoldsOf entry)
            → (archive.answer query).ListsValueOf entry query.select)
      ∧ (query.window ≠ none ∨ query.select = .time
        → archive.answer query = archive.dated.answer query) := by
  refine ⟨archive.answered_answer query, ?_, fun timed => (archive.answer_dated query timed).symm⟩
  intro unwindowed select entry member _ holds
  refine archive.listsValueOf_answer query member ⟨holds, fun window given => ?_⟩ select
  rw [unwindowed] at given
  cases given

/-- Of two entries only the one without a time is of an unknown event. Asked for the users of such
events, the archive names its user; asked within the whole calendar, it names none.
-/
theorem answer_is_described_set_undated
    : let archive := ofLines ["1\tB\t2.1.2014 0:0:0\tLOGIN\tOK", "3\tA\tno date\tLOGOUT\tOK"]
      let query : Query := { select := .user, condition := some (.event .unknown) }
      let within : Query := { query with window := some .unbounded }
      archive.answer query = .texts ["A"]
      ∧ (archive.answer query).ListsValueOf
          { address := "3", user := "A", time := none, action := .unknown, status := .ok } .user
      ∧ archive.answer within = .texts []
      ∧ archive.answer within = archive.dated.answer within := by
  intro archive query within
  refine ⟨by decide +kernel, ?_, by decide +kernel, ?_⟩
  · refine (archive.answer_is_described_set query).2.1 rfl (by decide) _ (by decide +kernel) rfl ?_
    intro condition given
    cases given
    rfl
  · exact (archive.answer_is_described_set within).2.2 (.inl (by decide))

end Archive

end Logbook
