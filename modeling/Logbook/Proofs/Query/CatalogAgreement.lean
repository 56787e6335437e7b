import Logbook.Catalog
import Logbook.Proofs.Query.Spelling
import Logbook.Query.Answer

/-! Query texts and the fixed questions of an archive.
A query about a window, written with the bounds of the window, is answered as the fixed question
is. Without a window a query is also about the entries that have no time.
-/

namespace Logbook

open Query

theorem Event.ofName?_name {event : Event} (named : event ≠ .unknown)
    : ofName? event.name = some event := by
  cases event with
  | unknown => contradiction
  | _ => decide

theorem Status.ofName?_name {status : Status} (named : status ≠ .unknown)
    : ofName? status.name = some status := by
  cases status with
  | unknown => contradiction
  | _ => decide

theorem Event.not_mem_name (event : Event) : '"' ∉ event.name.toList := by
  cases event <;> decide

theorem Status.not_mem_name (status : Status) : '"' ∉ status.name.toList := by
  cases status <;> decide

namespace Archive

theorem ask_eq_answer {text : String} {query : Query} (archive : Archive)
    (parsed : parse text = .ok query)
    : archive.ask text = .ok (archive.answer query) := by
  rw [ask, parsed]
  rfl

/-- Every fixed question that a query text can ask is answered in the same way by both: about a
window, about a user or an address in it, and about all users.
-/
structure AnswersAsCatalog (archive : Archive) (address user : String) (opening closing : Instant)
    : Prop where
  addresses
    : archive.ask (get .address ++ during opening closing)
      = .ok (.texts (archive.addresses (.between opening closing)))
  addressesOfUser
    : archive.ask (get .address ++ forValue .user user ++ during opening closing)
      = .ok (.texts (archive.addressesOfUser user (.between opening closing)))
  addressesOfEvent (event : Event) (named : event ≠ .unknown)
    : archive.ask (get .address ++ forValue .event event.name ++ during opening closing)
      = .ok (.texts (archive.addressesOfEvent event (.between opening closing)))
  addressesOfStatus (status : Status) (named : status ≠ .unknown)
    : archive.ask (get .address ++ forValue .status status.name ++ during opening closing)
      = .ok (.texts (archive.addressesOfStatus status (.between opening closing)))
  usersAt
    : archive.ask (get .user ++ forValue .address address ++ during opening closing)
      = .ok (.texts (archive.usersAt address (.between opening closing)))
  loggedInUsers
    : archive.ask (get .user ++ forValue .event "LOGIN" ++ during opening closing)
      = .ok (.texts (archive.loggedInUsers (.between opening closing)))
  downloadingUsers
    : archive.ask (get .user ++ forValue .event "DOWNLOAD_PLUGIN" ++ during opening closing)
      = .ok (.texts (archive.downloadingUsers (.between opening closing)))
  writingUsers
    : archive.ask (get .user ++ forValue .event "WRITE_MESSAGE" ++ during opening closing)
      = .ok (.texts (archive.writingUsers (.between opening closing)))
  solvingUsers
    : archive.ask (get .user ++ forValue .event "SOLVE_TASK" ++ during opening closing)
      = .ok (.texts (archive.solvingUsers (.between opening closing)))
  doneUsers
    : archive.ask (get .user ++ forValue .event "DONE_TASK" ++ during opening closing)
      = .ok (.texts (archive.doneUsers (.between opening closing)))
  events
    : archive.ask (get .event ++ during opening closing)
      = .ok (.events (archive.events (.between opening closing)))
  eventsAt
    : archive.ask (get .event ++ forValue .address address ++ during opening closing)
      = .ok (.events (archive.eventsAt address (.between opening closing)))
  eventsOfUser
    : archive.ask (get .event ++ forValue .user user ++ during opening closing)
      = .ok (.events (archive.eventsOfUser user (.between opening closing)))
  failedEvents
    : archive.ask (get .event ++ forValue .status "FAILED" ++ during opening closing)
      = .ok (.events (archive.failedEvents (.between opening closing)))
  errorEvents
    : archive.ask (get .event ++ forValue .status "ERROR" ++ during opening closing)
      = .ok (.events (archive.errorEvents (.between opening closing)))
  failureTimes
    : archive.ask (get .time ++ forValue .status "FAILED" ++ during opening closing)
      = .ok (.times (archive.failureTimes (.between opening closing)))
  errorTimes
    : archive.ask (get .time ++ forValue .status "ERROR" ++ during opening closing)
      = .ok (.times (archive.errorTimes (.between opening closing)))
  addressCount
    : (archive.ask (get .address ++ during opening closing)).map Answer.size
      = .ok (archive.addressCount (.between opening closing))
  userCount
    : (archive.ask (get .user ++ during opening closing)).map Answer.size
      = .ok (archive.userCount (.between opening closing))
  eventCount
    : (archive.ask (get .event ++ during opening closing)).map Answer.size
      = .ok (archive.eventCount (.between opening closing))
  eventCountOfUser
    : (archive.ask (get .event ++ forValue .user user ++ during opening closing)).map Answer.size
      = .ok (archive.eventCountOfUser user (.between opening closing))
  allUsers : archive.ask (get .user) = .ok (.texts archive.allUsers)

/-- Query texts and fixed questions agree on every archive and window, for all addresses and users
that can stand in a literal.
-/
theorem answersAsCatalog (archive : Archive) {address user : String} (opening closing : Instant)
    (unquoted_address : '"' ∉ address.toList) (unquoted_user : '"' ∉ user.toList)
    : archive.AnswersAsCatalog address user opening closing := by
  have during_window (select : Attribute) :=
    archive.ask_eq_answer (parse_get_during select opening closing)
  have for_value (select : Attribute) {about : Attribute} {literal : String}
      {condition : Condition} (gives : Gives about literal condition)
      (unquoted : '"' ∉ literal.toList) :=
    archive.ask_eq_answer (parse_get_forValue_during select opening closing gives unquoted)
  have for_address (select : Attribute) := for_value select (.address address) unquoted_address
  have for_user (select : Attribute) := for_value select (.user user) unquoted_user
  have for_event (select : Attribute) (event : Event) (named : event ≠ .unknown) :=
    for_value select (.event (Event.ofName?_name named)) event.not_mem_name
  have for_status (select : Attribute) (status : Status) (named : status ≠ .unknown) :=
    for_value select (.status (Status.ofName?_name named)) status.not_mem_name
  exact
    {
      addresses := during_window .address,
      addressesOfUser := for_user .address,
      addressesOfEvent := for_event .address,
      addressesOfStatus := for_status .address,
      usersAt := for_address .user,
      loggedInUsers := for_event .user .login (by decide),
      downloadingUsers := for_event .user .downloadPlugin (by decide),
      writingUsers := for_event .user .writeMessage (by decide),
      solvingUsers := for_event .user .solveTask (by decide),
      doneUsers := for_event .user .doneTask (by decide),
      events := during_window .event,
      eventsAt := for_address .event,
      eventsOfUser := for_user .event,
      failedEvents := for_status .event .failed (by decide),
      errorEvents := for_status .event .error (by decide),
      failureTimes := for_status .time .failed (by decide),
      errorTimes := for_status .time .error (by decide),
      addressCount := congrArg (Except.map Answer.size) (during_window .address),
      userCount := congrArg (Except.map Answer.size) (during_window .user),
      eventCount := congrArg (Except.map Answer.size) (during_window .event),
      eventCountOfUser := congrArg (Except.map Answer.size) (for_user .event),
      allUsers := archive.ask_eq_answer (parse_get .user),
    }

/-- A user may be called by the words of the grammar. -/
theorem answersAsCatalog_user_of_keywords
    : let archive := ofLines ["::1\t and date = Ω\t9.6.2013 12:22:51\tLOGIN\tOK"]
      ('"' ∉ "::1".toList ∧ '"' ∉ " and date = Ω".toList)
      ∧ archive.AnswersAsCatalog "::1" " and date = Ω" .earliest .latest
      ∧ archive.addressesOfUser " and date = Ω" (.between .earliest .latest) = ["::1"] := by
  intro archive
  have unquoted_address : '"' ∉ "::1".toList := by decide
  have unquoted_user : '"' ∉ " and date = Ω".toList := by decide
  refine ⟨⟨unquoted_address, unquoted_user⟩, ?_, by decide +kernel⟩
  exact archive.answersAsCatalog .earliest .latest unquoted_address unquoted_user

end Archive

end Logbook
