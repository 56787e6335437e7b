/-! Reading a list item by item from the front.
One step takes the first element together with as much of the rest as belongs to it. Running the
step to the end of the list needs no bound, because what a step leaves over is never longer than
the rest it was given.
-/

namespace Logbook.Text

/-- One reading step on a nonempty input: the item at its front and what is left over. -/
structure Step (α β : Type) where
  read : α → List α → β × List α
  shortens : ∀ head rest, (read head rest).2.length ≤ rest.length

namespace Step

variable {α β : Type}

/-- Reads the rest of the input behind the items already read, which are kept last first. -/
def readBehind (step : Step α β) (done : List β) : List α → List β
  | [] => done.reverse
  | head :: rest => step.readBehind ((step.read head rest).1 :: done) (step.read head rest).2
termination_by input => input.length
decreasing_by
  have := step.shortens head rest
  simp only [List.length_cons]
  omega

/-- All items of the input, in order. -/
def readAll (step : Step α β) (input : List α) : List β := step.readBehind [] input

theorem readBehind_nil (step : Step α β) (done : List β)
    : step.readBehind done [] = done.reverse := by
  simp [readBehind]

theorem readBehind_cons (step : Step α β) (done : List β) (head : α) (rest : List α)
    : step.readBehind done (head :: rest)
        = step.readBehind ((step.read head rest).1 :: done) (step.read head rest).2 := by
  rw [readBehind]

theorem readBehind_eq (step : Step α β) (done : List β) (input : List α)
    : step.readBehind done input = done.reverse ++ step.readAll input := by
  induction hn : input.length using Nat.strongRecOn generalizing done input with
  | ind n ih =>
      cases input with
      | nil => simp [readAll, readBehind_nil]
      | cons head rest =>
          have shorter : (step.read head rest).2.length < n := by
            have := step.shortens head rest
            simp only [List.length_cons] at hn
            omega
          rw [readAll, readBehind_cons, readBehind_cons, ih _ shorter _ _ rfl,
            ih _ shorter [_] _ rfl]
          simp

@[simp]
theorem readAll_nil (step : Step α β) : step.readAll [] = [] := by
  simp [readAll, readBehind_nil]

/-- Reading goes on with what the first step leaves over. -/
theorem readAll_cons (step : Step α β) (head : α) (rest : List α)
    : step.readAll (head :: rest)
        = (step.read head rest).1 :: step.readAll (step.read head rest).2 := by
  rw [readAll, readBehind_cons, readBehind_eq]
  simp

/-- What holds of the empty input and goes from what a step leaves over to its input holds of every
input, by induction on the length.
-/
theorem induction (step : Step α β) {motive : List α → Prop} (nil : motive [])
    (cons : ∀ head rest, motive (step.read head rest).2 → motive (head :: rest))
    (input : List α)
    : motive input := by
  induction hn : input.length using Nat.strongRecOn generalizing input with
  | ind n ih =>
      cases input with
      | nil => exact nil
      | cons head rest =>
          have := step.shortens head rest
          simp only [List.length_cons] at hn
          exact cons head rest (ih _ (by omega) _ rfl)

end Step

end Logbook.Text
