/-! The pieces of a list that is split at a mark: none holds the mark, and there is one more of
them than there are marks.
-/

namespace Logbook.Text

variable {α : Type} [BEq α]

/-- Splitting takes an item into the first piece, or begins with an empty piece at a mark. -/
theorem splitOn_cons_cases (mark item : α) (items : List α)
    : ∃ first more,
        items.splitOn mark = first :: more
        ∧ (item :: items).splitOn mark
          = if item == mark then [] :: first :: more else (item :: first) :: more := by
  obtain ⟨first, more, split⟩ := List.exists_cons_of_ne_nil (List.splitOn_ne_nil mark items)
  refine ⟨first, more, split, ?_⟩
  rw [List.splitOn_cons_eq_if_modifyHead, split]
  rfl

/-- The pieces hold items of the list, and never the mark, by induction on the list. -/
theorem mem_of_mem_splitOn [LawfulBEq α] {mark item : α} {items piece : List α}
    (hp : piece ∈ items.splitOn mark) (hi : item ∈ piece)
    : item ∈ items ∧ item ≠ mark := by
  induction items generalizing piece with
  | nil =>
      simp only [List.splitOn_nil, List.mem_singleton] at hp
      simp [hp] at hi
  | cons head rest ih =>
      obtain ⟨first, more, tail, split⟩ := splitOn_cons_cases mark head rest
      have later {piece : List α} (hp : piece ∈ first :: more) (hi : item ∈ piece)
          : item ∈ head :: rest ∧ item ≠ mark := by
        obtain ⟨member, other⟩ := ih (tail ▸ hp) hi
        exact ⟨List.mem_cons_of_mem _ member, other⟩
      rw [split] at hp
      split at hp
      · rcases List.mem_cons.mp hp with rfl | hp
        · cases hi
        · exact later hp hi
      · next other =>
          rcases List.mem_cons.mp hp with rfl | hp
          · rcases List.mem_cons.mp hi with rfl | hi
            · exact ⟨List.mem_cons_self, by simpa using other⟩
            · exact later List.mem_cons_self hi
          · exact later (List.mem_cons_of_mem _ hp) hi

omit [BEq α] in
/-- What holds of a list without marks and goes from a list to one with a further cut in front of it
holds of every list, by induction on the length.
-/
theorem cuts_induction {motive : List α → Prop} (mark : α)
    (uncut : ∀ items, mark ∉ items → motive items)
    (cut : ∀ front rest, mark ∉ front → motive rest → motive (front ++ mark :: rest))
    (items : List α)
    : motive items := by
  induction hn : items.length using Nat.strongRecOn generalizing items with
  | ind n ih =>
      by_cases member : mark ∈ items
      · obtain ⟨front, rest, rfl, absent⟩ := List.eq_append_cons_of_mem member
        simp only [List.length_append, List.length_cons] at hn
        exact cut front rest absent (ih rest.length (by omega) rest rfl)
      · exact uncut items member

/-- There is one more piece than there are marks, by induction on the list. -/
theorem length_splitOn (mark : α) (items : List α)
    : (items.splitOn mark).length = items.count mark + 1 := by
  induction items with
  | nil => simp
  | cons head rest ih =>
      obtain ⟨first, more, tail, split⟩ := splitOn_cons_cases mark head rest
      rw [tail] at ih
      rw [split, List.count_cons]
      split <;> simp_all

/-- An item that is no mark ends the last piece, by induction on the cuts in front of it. -/
theorem splitOn_concat [LawfulBEq α] {mark item : α} (other : item ≠ mark) (front : List α)
    : ∃ pieces last, (front ++ [item]).splitOn mark = pieces ++ [last ++ [item]] := by
  induction front using cuts_induction mark with
  | uncut items absent =>
      have uncut : mark ∉ items ++ [item] := by simp [absent, other.symm]
      exact ⟨[], items, List.splitOn_eq_singleton uncut⟩
  | cut items rest absent ih =>
      obtain ⟨pieces, last, split⟩ := ih
      refine ⟨items.splitOn mark ++ pieces, last, ?_⟩
      rw [List.append_assoc, List.cons_append, List.splitOn_append_cons_self, split,
        List.append_assoc]

end Logbook.Text
