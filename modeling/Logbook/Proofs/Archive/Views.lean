import Logbook.Proofs.Archive.Merging

/-! The fixed questions of an archive are views of the same entries, and agree where they tell of
the same ones. What a view lists is said by the entries behind it, so that two views agree when the
same is said of both.
-/

namespace Logbook

theorem Status.mem_all (status : Status) : status ∈ all := by
  cases status <;> decide

/-- Only an entry with a time lies in a window. -/
theorem Window.exists_of_contains {window : Window} {time : Option Instant}
    (within : window.contains time = true)
    : ∃ t, time = some t := by
  cases time with
  | none => cases within
  | some t => exact ⟨t, rfl⟩

namespace Archive

variable {archive : Archive} {window : Window}

-----------------------------------------------------------------------------------------
-- Views and the entries behind them
-----------------------------------------------------------------------------------------

/-- Some entry in the window is as described. -/
def Tells (archive : Archive) (window : Window) (described : Entry → Prop) : Prop :=
  ∃ entry ∈ archive.entries, window.contains entry.time = true ∧ described entry

theorem mem_addressesOfUser {address user : String}
    : address ∈ archive.addressesOfUser user window
      ↔ archive.Tells window fun entry => entry.user = user ∧ entry.address = address := by
  simp [addressesOfUser, mem_valuesOf, Criteria.admits_iff, Tells, and_left_comm, and_assoc]

theorem mem_usersAt {address user : String}
    : user ∈ archive.usersAt address window
      ↔ archive.Tells window fun entry => entry.user = user ∧ entry.address = address := by
  simp [usersAt, mem_valuesOf, Criteria.admits_iff, Tells, and_left_comm, and_comm, and_assoc]

theorem mem_usersOfEvent {event : Event} {user : String}
    : user ∈ archive.usersOfEvent event window
      ↔ archive.Tells window fun entry => entry.user = user ∧ entry.event = event := by
  simp [usersOfEvent, mem_valuesOf, Criteria.admits_iff, Tells, and_left_comm, and_comm, and_assoc]

theorem mem_eventsOfUser {event : Event} {user : String}
    : event ∈ archive.eventsOfUser user window
      ↔ archive.Tells window fun entry => entry.user = user ∧ entry.event = event := by
  simp [eventsOfUser, mem_valuesOf, Criteria.admits_iff, Tells, and_left_comm, and_assoc]

/-- There is a time to list for every entry behind the list, as the entry lies in a window. -/
theorem timesOfUserEvent_ne_nil_iff {event : Event} {user : String}
    : archive.timesOfUserEvent user event window ≠ []
      ↔ archive.Tells window fun entry => entry.user = user ∧ entry.event = event := by
  constructor
  · intro present
    obtain ⟨t, listed⟩ := List.exists_mem_of_ne_nil _ present
    obtain ⟨entry, stored, admitted, _⟩ := mem_timesOf.mp listed
    have asked := Criteria.admits_iff.mp admitted
    exact ⟨entry, stored, by simpa [and_comm, and_assoc] using asked⟩
  · rintro ⟨entry, stored, within, same⟩
    obtain ⟨t, time⟩ := Window.exists_of_contains within
    refine List.ne_nil_of_mem (mem_timesOf.mpr ⟨entry, stored, ?_, time⟩)
    simpa [Criteria.admits_iff] using ⟨same.1, same.2, within⟩

/-- Entries are counted where, and only where, some entry is admitted. -/
theorem count_pos_iff {criteria : Criteria}
    : 0 < archive.count criteria
      ↔ ∃ entry ∈ archive.entries, criteria.admits entry = true := by
  simp only [count, List.length_pos_iff_exists_mem, mem_select]

/-- Of each entry one value is taken, so that there are no more values than entries. -/
theorem length_valuesOf_le {α : Type} [LE α] [DecidableLE α] [DecidableEq α] [LT α]
    [Std.IsLinearOrder α] [Std.LawfulOrderLT α] (criteria : Criteria) (value : Entry → α)
    : (archive.valuesOf criteria value).length ≤ archive.count criteria := by
  calc (archive.valuesOf criteria value).length
    _ = (archive.valueSet criteria value).card := archive.length_valuesOf criteria value
    _ ≤ ((archive.select criteria).map value).length := List.toFinset_card_le _
    _ = archive.count criteria := List.length_map _

-----------------------------------------------------------------------------------------
-- Views that agree
-----------------------------------------------------------------------------------------

/-- The users of an event are those of whom it is reported. -/
theorem mem_usersOfEvent_iff {event : Event} {user : String}
    : user ∈ archive.usersOfEvent event window ↔ event ∈ archive.eventsOfUser user window :=
  mem_usersOfEvent.trans mem_eventsOfUser.symm

/-- The fixed questions about a window agree with each other: what is told of a user is told of the
address and of the event, the addresses are those of all users, of all events and of all outcomes
put together, and the users of a task are there, and no more of them, when entries are counted.
-/
structure ViewsAgree (archive : Archive) (window : Window) : Prop where
  addressesOfUser (address user : String)
    : address ∈ archive.addressesOfUser user window ↔ user ∈ archive.usersAt address window
  eventsOfUser (event : Event) (user : String)
    : event ∈ archive.eventsOfUser user window
      ↔ archive.timesOfUserEvent user event window ≠ []
  loggedInUsers (user : String)
    : user ∈ archive.loggedInUsers window ↔ .login ∈ archive.eventsOfUser user window
  downloadingUsers (user : String)
    : user ∈ archive.downloadingUsers window
      ↔ .downloadPlugin ∈ archive.eventsOfUser user window
  writingUsers (user : String)
    : user ∈ archive.writingUsers window ↔ .writeMessage ∈ archive.eventsOfUser user window
  solvingUsers (user : String)
    : user ∈ archive.solvingUsers window ↔ .solveTask ∈ archive.eventsOfUser user window
  doneUsers (user : String)
    : user ∈ archive.doneUsers window ↔ .doneTask ∈ archive.eventsOfUser user window
  addresses_by_user
    : archive.addresses window
      = distinct (archive.allUsers.flatMap fun user => archive.addressesOfUser user window)
  addresses_by_event
    : archive.addresses window
      = distinct
          ((archive.events window).flatMap fun event => archive.addressesOfEvent event window)
  addresses_by_status
    : archive.addresses window
      = distinct (Status.all.flatMap fun status => archive.addressesOfStatus status window)
  solversOf (task : TaskId)
    : (archive.solversOf task window ≠ [] ↔ 0 < archive.solveCount task window)
      ∧ (archive.solversOf task window).length ≤ archive.solveCount task window
  doersOf (task : TaskId)
    : (archive.doersOf task window ≠ [] ↔ 0 < archive.doneCount task window)
      ∧ (archive.doersOf task window).length ≤ archive.doneCount task window

/-- The fixed questions agree on every archive and window. -/
theorem viewsAgree (archive : Archive) (window : Window) : archive.ViewsAgree window where
  addressesOfUser _ _ := mem_addressesOfUser.trans mem_usersAt.symm
  eventsOfUser _ _ := mem_eventsOfUser.trans timesOfUserEvent_ne_nil_iff.symm
  loggedInUsers _ := mem_usersOfEvent_iff
  downloadingUsers _ := mem_usersOfEvent_iff
  writingUsers _ := mem_usersOfEvent_iff
  solvingUsers _ := mem_usersOfEvent_iff
  doneUsers _ := mem_usersOfEvent_iff
  addresses_by_user := by
    refine valuesOf_eq_of_covers (fun entry stored => ?_) Entry.address
    have known : entry.user ∈ archive.allUsers :=
      mem_valuesOf.mpr ⟨entry, stored, by simp [Criteria.admits_iff], rfl⟩
    simp [Criteria.admits_iff, known]
  addresses_by_event := by
    refine valuesOf_eq_of_covers (fun entry stored => ?_) Entry.address
    have listed (within : window.contains entry.time = true)
        : entry.event ∈ archive.events window :=
      mem_valuesOf.mpr ⟨entry, stored, by simpa [Criteria.admits_iff] using within, rfl⟩
    simpa [Criteria.admits_iff] using listed
  addresses_by_status := by
    refine valuesOf_eq_of_covers (fun entry _ => ?_) Entry.address
    simp [Criteria.admits_iff, Status.mem_all]
  solversOf _ := ⟨valuesOf_ne_nil_iff.trans count_pos_iff.symm, length_valuesOf_le _ _⟩
  doersOf _ := ⟨valuesOf_ne_nil_iff.trans count_pos_iff.symm, length_valuesOf_le _ _⟩

end Archive

end Logbook
