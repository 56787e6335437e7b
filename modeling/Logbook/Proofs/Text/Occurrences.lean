import Logbook.Text.Occurrence

/-! Where a word occurs in a text, and what is left when it is taken out.
Every text is what is left with copies of the word strewn in. The search takes out just these copies
when none of what is left can begin another one.
-/

namespace Logbook.Text

variable {word text : List Char}

@[simp]
theorem marked_nil (word : List Char) : marked word [] = [] := Step.readAll_nil _

/-- One step of the search: it passes an occurrence at the front or a single character. -/
theorem marked_cons (word : List Char) (c : Char) (rest : List Char)
    : marked word (c :: rest)
      = if word <+: c :: rest then
          none :: marked word (rest.drop (word.length - 1))
        else
          some c :: marked word rest := by
  rw [marked, Step.readAll_cons, marked, marked]
  by_cases front : word <+: c :: rest <;> simp [markStep, front]

/-- An occurrence at the front is marked, and the search goes on behind it. -/
theorem marked_append (nonempty : word ≠ []) (rest : List Char)
    : marked word (word ++ rest) = none :: marked word rest := by
  cases word with
  | nil => exact absurd rfl nonempty
  | cons c more =>
      rw [List.cons_append, marked_cons, if_pos ⟨rest, rfl⟩]
      simp

/-- A text that lacks a character of the word has no occurrence, by induction on the text. -/
theorem marked_eq_map_some {c : Char} (hw : c ∈ word) (ht : c ∉ text)
    : marked word text = text.map some := by
  induction text with
  | nil => simp
  | cons first rest ih =>
      have absent : ¬word <+: first :: rest := fun front => ht (front.subset hw)
      rw [marked_cons, if_neg absent, ih fun member => ht (List.mem_cons_of_mem _ member)]
      rfl

theorem occurs_append (nonempty : word ≠ []) (rest : List Char)
    : occurs word (word ++ rest) = true := by
  simp [occurs, marked_append nonempty]

theorem occurs_self (nonempty : word ≠ []) : occurs word word = true := by
  simpa using occurs_append nonempty []

theorem occurs_eq_false {c : Char} (hw : c ∈ word) (ht : c ∉ text)
    : occurs word text = false := by
  simp [occurs, marked_eq_map_some hw ht]

/-- Taking a word out of what begins with it leaves what is left of the rest. -/
theorem without_append (nonempty : word ≠ []) (rest : List Char)
    : without word (word ++ rest) = without word rest := by
  simp [without, marked_append nonempty]

theorem without_eq_self {c : Char} (hw : c ∈ word) (ht : c ∉ text)
    : without word text = text := by
  simp [without, marked_eq_map_some hw ht]

-----------------------------------------------------------------------------------------
-- Where the search finds the word
-----------------------------------------------------------------------------------------

/-- What goes from the text behind an occurrence, or behind a character that begins none, to the
whole text holds of every text.
-/
theorem search_induction {motive : List Char → Prop} (nonempty : word ≠ []) (nil : motive [])
    (found : ∀ rest, motive rest → motive (word ++ rest))
    (passed : ∀ c rest, ¬word <+: c :: rest → motive rest → motive (c :: rest))
    (text : List Char)
    : motive text := by
  refine (markStep word).induction nil (fun c rest ih => ?_) text
  by_cases front : word <+: c :: rest
  · obtain ⟨behind, split⟩ := front
    cases word with
    | nil => exact absurd rfl nonempty
    | cons first more =>
        obtain ⟨rfl, rfl⟩ := List.cons.inj split
        exact found behind (by simpa [markStep] using ih)
  · exact passed c rest front (by simpa [markStep, front] using ih)

theorem marked_cons_passed {c : Char} {rest : List Char} (other : ¬word <+: c :: rest)
    : marked word (c :: rest) = some c :: marked word rest := by
  rw [marked_cons, if_neg other]

theorem without_cons_passed {c : Char} {rest : List Char} (other : ¬word <+: c :: rest)
    : without word (c :: rest) = c :: without word rest := by
  simp [without, marked_cons_passed other]

theorem occurs_cons_passed {c : Char} {rest : List Char} (other : ¬word <+: c :: rest)
    : occurs word (c :: rest) = occurs word rest := by
  simp [occurs, marked_cons_passed other]

/-- The search finds the word exactly when it stands somewhere in the text. -/
theorem occurs_iff_within (nonempty : word ≠ []) : occurs word text = true ↔ word <:+: text := by
  induction text using search_induction nonempty with
  | nil => simp [occurs, nonempty]
  | found rest => simp [occurs_append nonempty, (List.prefix_append word rest).isInfix]
  | passed c rest other ih =>
      rw [occurs_cons_passed other, ih, List.infix_cons_iff, or_iff_right other]

-----------------------------------------------------------------------------------------
-- Texts that copies of a word are strewn in
-----------------------------------------------------------------------------------------

/-- The text is `rest` with `count` copies of the word put in between its characters. -/
inductive Strewn (word : List Char) : Nat → List Char → List Char → Prop
  | nil : Strewn word 0 [] []
  | copy {count : Nat} {text rest : List Char} (behind : Strewn word count text rest)
    : Strewn word (count + 1) (word ++ text) rest
  | other {count : Nat} {text rest : List Char} (c : Char) (behind : Strewn word count text rest)
    : Strewn word count (c :: text) (c :: rest)

/-- What is left of a text is the text without the copies that were found. -/
theorem strewn_without (nonempty : word ≠ []) (text : List Char)
    : ∃ count,
        Strewn word count text (without word text) ∧ (occurs word text = true → 0 < count) := by
  induction text using search_induction nonempty with
  | nil => exact ⟨0, by simpa [without] using Strewn.nil, by simp [occurs]⟩
  | found rest ih =>
      obtain ⟨count, strewn, -⟩ := ih
      rw [without_append nonempty]
      exact ⟨count + 1, strewn.copy, fun _ => Nat.succ_pos count⟩
  | passed c rest other ih =>
      obtain ⟨count, strewn, positive⟩ := ih
      rw [without_cons_passed other, occurs_cons_passed other]
      exact ⟨count, strewn.other c, positive⟩

namespace Strewn

variable {count : Nat} {rest : List Char}

theorem refl (word text : List Char) : Strewn word 0 text text := by
  induction text with
  | nil => exact nil
  | cons c text ih => exact ih.other c

theorem append {more : Nat} {back backRest : List Char} (front : Strewn word count text rest)
    (behind : Strewn word more back backRest)
    : Strewn word (count + more) (text ++ back) (rest ++ backRest) := by
  induction front with
  | nil => simpa using behind
  | copy _ ih => simpa [Nat.add_right_comm] using ih.copy
  | other c _ ih => exact ih.other c

/-- A character of the text belongs to a copy or to the rest. -/
theorem mem_or_mem (h : Strewn word count text rest) {c : Char} (member : c ∈ text)
    : c ∈ word ∨ c ∈ rest := by
  induction h with
  | nil => cases member
  | copy _ ih =>
      rcases List.mem_append.mp member with member | member
      · exact .inl member
      · exact ih member
  | other d _ ih =>
      rcases List.mem_cons.mp member with rfl | member
      · exact .inr List.mem_cons_self
      · exact (ih member).imp_right (List.mem_cons_of_mem _)

/-- The search finds the copies and nothing else when no character of the rest can begin one. -/
theorem without_eq {first : Char} (h : Strewn word count text rest)
    (begins : word.head? = some first) (absent : first ∉ rest)
    : without word text = rest ∧ (0 < count → occurs word text = true) := by
  obtain ⟨more, rfl⟩ := List.head?_eq_some_iff.mp begins
  induction h with
  | nil => simp [without]
  | copy _ ih =>
      rw [without_append (List.cons_ne_nil _ _), occurs_append (List.cons_ne_nil _ _)]
      exact ⟨(ih absent).1, fun _ => rfl⟩
  | @other _ text _ c _ ih =>
      obtain ⟨differs, absent⟩ := not_or.mp (mt List.mem_cons.mpr absent)
      have passed : ¬first :: more <+: c :: text :=
        fun front => differs (List.cons_prefix_cons.mp front).1
      rw [without_cons_passed passed, occurs_cons_passed passed, (ih absent).1]
      exact ⟨rfl, (ih absent).2⟩

end Strewn

-----------------------------------------------------------------------------------------
-- Places outside the occurrences of a word
-----------------------------------------------------------------------------------------

/-- The character behind `front` belongs to no occurrence of the word, wherever in the text that
stands.
-/
def Outside (word front : List Char) (c : Char) (back : List Char) : Prop :=
  ∀ before after,
    front ++ c :: back = before ++ (word ++ after)
    → front.length < before.length ∨ before.length + word.length ≤ front.length

/-- A place behind what was passed is outside when it is so in the whole text. -/
theorem Outside.behind {passed front back : List Char} {c : Char}
    (h : Outside word (passed ++ front) c back)
    : Outside word front c back := by
  intro before after split
  have whole := h (passed ++ before) after (by simp [split])
  simp only [List.length_append] at whole
  omega

/-- A character outside the occurrences of a word stays when the word is taken out. -/
theorem Outside.mem_without {front back : List Char} {c : Char} (nonempty : word ≠ [])
    (h : Outside word front c back)
    : c ∈ without word (front ++ c :: back) := by
  generalize split : front ++ c :: back = text
  induction text using search_induction nonempty generalizing front with
  | nil => simp at split
  | found rest ih =>
      have longer : word.length ≤ front.length := by
        have place := h [] rest split
        simp only [List.length_nil] at place
        omega
      have reaches : word <+: front :=
        List.prefix_of_prefix_length_le (List.prefix_append word rest) ⟨c :: back, split⟩ longer
      obtain ⟨later, rfl⟩ := reaches
      rw [List.append_assoc] at split
      rw [without_append nonempty]
      exact ih h.behind (List.append_cancel_left split)
  | passed d rest other ih =>
      rw [without_cons_passed other]
      cases front with
      | nil =>
          obtain ⟨rfl, -⟩ := List.cons.inj split
          exact List.mem_cons_self
      | cons first later =>
          obtain ⟨rfl, rest_eq⟩ := List.cons.inj split
          have whole : Outside word ([first] ++ later) c back := h
          exact List.mem_cons_of_mem _ (ih whole.behind rest_eq)

end Logbook.Text
