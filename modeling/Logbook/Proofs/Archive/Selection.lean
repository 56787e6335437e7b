import Logbook.Archive

/-! What the values and times are that an archive gives under criteria: those of the entries that
meet them, listed in ascending order. Such a list is decided by its members alone.
-/

namespace Logbook

/-- Two lists in the same strict order with the same members are the same list. -/
theorem eq_of_pairwise_of_mem_iff {α : Type} {before : α → α → Prop}
    (asymm : ∀ {a b}, before a b → ¬before b a) {xs ys : List α} (hx : xs.Pairwise before)
    (hy : ys.Pairwise before) (same : ∀ a, a ∈ xs ↔ a ∈ ys)
    : xs = ys := by
  have differ {a b : α} (h : before a b) : a ≠ b := fun equal => asymm h (equal ▸ h)
  have perm : xs.Perm ys := (List.perm_ext_iff_of_nodup (hx.imp differ) (hy.imp differ)).mpr same
  exact perm.eq_of_pairwise (fun a b _ _ ab ba => absurd ba (asymm ab)) hx hy

/-- An entry is admitted when it has each value that is asked for. -/
theorem Criteria.admits_iff {criteria : Criteria} {entry : Entry}
    : criteria.admits entry = true
      ↔ (∀ address ∈ criteria.address, entry.address = address)
        ∧ (∀ user ∈ criteria.user, entry.user = user)
        ∧ (∀ event ∈ criteria.event, entry.event = event)
        ∧ (∀ status ∈ criteria.status, entry.status = status)
        ∧ (∀ task ∈ criteria.task, entry.task? = some task)
        ∧ (∀ time ∈ criteria.time, entry.time = some time)
        ∧ ∀ window ∈ criteria.window, window.contains entry.time = true := by
  simp [admits, Option.all_eq_true, and_assoc, Entry.isFrom, Entry.isBy, Entry.isEvent,
    Entry.hasStatus, Entry.isAbout, Entry.isAt, Entry.isWithin]

/-- Criteria with a window admit only entries that lie in it. -/
theorem Criteria.contains_of_admits {criteria : Criteria} {window : Window} {entry : Entry}
    (asked : criteria.window = some window) (admitted : criteria.admits entry = true)
    : window.contains entry.time = true := by
  obtain ⟨_, _, _, _, _, _, within⟩ := admits_iff.mp admitted
  exact within window asked

namespace Archive

variable {archive : Archive} {criteria : Criteria}

theorem mem_select {entry : Entry}
    : entry ∈ archive.select criteria
      ↔ entry ∈ archive.entries ∧ criteria.admits entry = true :=
  List.mem_filter

section Values

variable {α : Type} [LE α] [DecidableLE α] [DecidableEq α]

theorem mem_valuesOf {value : Entry → α} {a : α}
    : a ∈ archive.valuesOf criteria value
      ↔ ∃ entry ∈ archive.entries, criteria.admits entry = true ∧ value entry = a := by
  simp only [valuesOf, mem_distinct, List.mem_map, mem_select, and_assoc]

theorem ascending_valuesOf [LT α] [Std.IsLinearOrder α] [Std.LawfulOrderLT α]
    (archive : Archive) (criteria : Criteria) (value : Entry → α)
    : (archive.valuesOf criteria value).Pairwise (· < ·) :=
  pairwise_distinct _

/-- Values are taken at all where some entry is admitted. -/
theorem valuesOf_ne_nil_iff {value : Entry → α}
    : archive.valuesOf criteria value ≠ []
      ↔ ∃ entry ∈ archive.entries, criteria.admits entry = true := by
  constructor
  · intro present
    obtain ⟨a, listed⟩ := List.exists_mem_of_ne_nil _ present
    obtain ⟨entry, stored, admitted, _⟩ := mem_valuesOf.mp listed
    exact ⟨entry, stored, admitted⟩
  · rintro ⟨entry, stored, admitted⟩
    exact List.ne_nil_of_mem (mem_valuesOf.mpr ⟨entry, stored, admitted, rfl⟩)

end Values

theorem mem_timesOf {t : Instant}
    : t ∈ archive.timesOf criteria
      ↔ ∃ entry ∈ archive.entries, criteria.admits entry = true ∧ entry.time = some t := by
  simp only [timesOf, mem_distinct, List.mem_filterMap, mem_select, and_assoc]

theorem ascending_timesOf (archive : Archive) (criteria : Criteria)
    : (archive.timesOf criteria).Pairwise (· < ·) :=
  pairwise_distinct _

section Parts

variable {ι : Type} {parts : List ι} {part : ι → Criteria}
  (covers
    : ∀ entry ∈ archive.entries,
        criteria.admits entry = true ↔ ∃ i ∈ parts, (part i).admits entry = true)

include covers

section Values

variable {α : Type} [LE α] [DecidableLE α] [DecidableEq α] [LT α] [Std.IsLinearOrder α]
  [Std.LawfulOrderLT α]

/-- When the parts admit together what the whole admits, what is found in the entries of the whole
is what is found in those of the parts put together.
-/
theorem distinct_found_eq (look : Entry → Option α)
    : distinct ((archive.select criteria).filterMap look)
      = distinct
          (parts.flatMap fun i => distinct ((archive.select (part i)).filterMap look)) := by
  refine eq_of_pairwise_of_mem_iff Std.not_gt_of_lt (pairwise_distinct _) (pairwise_distinct _)
    fun a => ?_
  simp only [mem_distinct, List.mem_filterMap, List.mem_flatMap, mem_select]
  constructor
  · rintro ⟨entry, ⟨stored, admitted⟩, found⟩
    obtain ⟨i, listed, parted⟩ := (covers entry stored).mp admitted
    exact ⟨i, listed, entry, ⟨stored, parted⟩, found⟩
  · rintro ⟨i, listed, entry, ⟨stored, parted⟩, found⟩
    exact ⟨entry, ⟨stored, (covers entry stored).mpr ⟨i, listed, parted⟩⟩, found⟩

theorem valuesOf_eq_of_covers (value : Entry → α)
    : archive.valuesOf criteria value
      = distinct (parts.flatMap fun i => archive.valuesOf (part i) value) := by
  simpa only [valuesOf, List.filterMap_eq_map] using distinct_found_eq covers (some ∘ value)

end Values

theorem timesOf_eq_of_covers
    : archive.timesOf criteria = distinct (parts.flatMap fun i => archive.timesOf (part i)) :=
  distinct_found_eq covers Entry.time

end Parts

end Archive

end Logbook
