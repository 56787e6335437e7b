/-! The distinct values of a list, each listed once and in ascending order.
Two lists with the same members have the same distinct values, so this is how a set is shown.
-/

namespace Logbook

variable {α : Type}

/-- A sorted list without the repetitions that stand side by side. -/
def dropRepeats [DecidableEq α] (sorted : List α) : List α :=
  sorted.foldr (fun a rest => if rest.head? = some a then rest else a :: rest) []

/-- The distinct values of a list in ascending order. -/
def distinct [LE α] [DecidableLE α] [DecidableEq α] (values : List α) : List α :=
  dropRepeats (values.mergeSort (· ≤ ·))

theorem dropRepeats_cons [DecidableEq α] (a : α) (rest : List α)
    : dropRepeats (a :: rest)
        = if (dropRepeats rest).head? = some a then dropRepeats rest else a :: dropRepeats rest :=
  rfl

@[simp]
theorem mem_dropRepeats [DecidableEq α] {a : α} {values : List α}
    : a ∈ dropRepeats values ↔ a ∈ values := by
  induction values with
  | nil => rfl
  | cons b rest ih =>
      rw [dropRepeats_cons]
      split
      · next same =>
          have present : b ∈ dropRepeats rest := List.mem_of_mem_head? same
          simp only [ih, List.mem_cons, iff_or_self]
          rintro rfl
          exact ih.mp present
      · simp [ih]

theorem pairwise_dropRepeats [DecidableEq α] [LE α] [LT α] [Std.IsLinearOrder α]
    [Std.LawfulOrderLT α] {sorted : List α} (h : sorted.Pairwise (· ≤ ·))
    : (dropRepeats sorted).Pairwise (· < ·) := by
  induction sorted with
  | nil => exact List.Pairwise.nil
  | cons a rest ih =>
      obtain ⟨above, h⟩ := List.pairwise_cons.mp h
      have ascending := ih h
      rw [dropRepeats_cons]
      split
      · exact ascending
      · next differs =>
          refine List.pairwise_cons.mpr ⟨fun b hb => ?_, ascending⟩
          refine Std.lt_of_le_of_ne (above b (mem_dropRepeats.mp hb)) ?_
          rintro rfl
          cases hd : dropRepeats rest with
          | nil => simp [hd] at hb
          | cons c more =>
              rw [hd] at hb differs ascending
              rcases List.mem_cons.mp hb with rfl | later
              · exact differs rfl
              · have below := (List.pairwise_cons.mp ascending).1 a later
                have : c ∈ rest := mem_dropRepeats.mp (hd ▸ List.mem_cons_self)
                exact Std.not_lt.mpr (above c this) below

section Laws

variable [LE α] [DecidableLE α] [DecidableEq α]

/-- The distinct values are the members of the list. -/
@[simp]
theorem mem_distinct {a : α} {values : List α} : a ∈ distinct values ↔ a ∈ values := by
  simp [distinct]

/-- The distinct values ascend, so none is listed twice. -/
theorem pairwise_distinct [LT α] [Std.IsLinearOrder α] [Std.LawfulOrderLT α] (values : List α)
    : (distinct values).Pairwise (· < ·) := by
  refine pairwise_dropRepeats ?_
  have sorted :=
    @List.pairwise_mergeSort α (fun a b => decide (a ≤ b))
      (fun _ _ _ ab bc => by
        simp only [decide_eq_true_eq] at ab bc ⊢
        exact Std.le_trans ab bc)
      (fun a b => by
        simp only [Bool.or_eq_true, decide_eq_true_eq]
        exact Std.le_total)
      values
  simpa using sorted

end Laws

end Logbook
