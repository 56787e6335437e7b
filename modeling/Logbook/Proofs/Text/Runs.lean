import Logbook.Text.Blank
import Mathlib.Data.List.TakeWhile

/-! Runs of characters of one class, at the front of a text and around it.
A run is taken whole when what follows it does not go on with the same class.
-/

namespace Logbook.Text

variable {α : Type} {p : α → Bool}

/-- A run of items that satisfy `p` ends before these items. -/
def EndsRun (p : α → Bool) (rest : List α) : Prop := ∀ item ∈ rest.head?, p item = false

@[simp]
theorem endsRun_nil : EndsRun p [] := by simp [EndsRun]

@[simp]
theorem endsRun_cons {item : α} {rest : List α}
    : EndsRun p (item :: rest) ↔ p item = false := by
  simp [EndsRun]

/-- Items of another class end the run, whatever comes behind them. -/
theorem endsRun_append {front : List α} (rest : List α) (nonempty : front ≠ [])
    (hf : ∀ item ∈ front, p item = false)
    : EndsRun p (front ++ rest) := by
  cases front with
  | nil => exact absurd rfl nonempty
  | cons item more => exact endsRun_cons.mpr (hf item List.mem_cons_self)

theorem endsRun_dropWhile (items : List α) : EndsRun p (items.dropWhile p) := by
  intro item hi
  have := List.head?_dropWhile_not p items
  rwa [hi] at this

theorem EndsRun.take {rest : List α} (h : EndsRun p rest) (n : Nat)
    : EndsRun p (rest.take n) := by
  cases rest with
  | nil => simp
  | cons item rest =>
      cases n with
      | zero => simp
      | succ n => simpa using h

theorem takeWhile_run {run rest : List α} (hr : ∀ item ∈ run, p item = true)
    (ends : EndsRun p rest)
    : (run ++ rest).takeWhile p = run := by
  rw [List.takeWhile_append_of_pos hr]
  cases rest with
  | nil => simp
  | cons item rest => simp [endsRun_cons.mp ends]

theorem dropWhile_run {run rest : List α} (hr : ∀ item ∈ run, p item = true)
    (ends : EndsRun p rest)
    : (run ++ rest).dropWhile p = rest := by
  rw [List.dropWhile_append_of_pos hr]
  cases rest with
  | nil => rfl
  | cons item rest => simp [endsRun_cons.mp ends]

/-- White space is passed over up to the first other character. -/
theorem skipBlanks_gap {gap text : List Char} (hg : ∀ c ∈ gap, isBlank c = true)
    (ends : EndsRun isBlank text)
    : skipBlanks (gap ++ text) = text :=
  dropWhile_run hg ends

/-- Nothing is dropped from the end when the run of `p` read backwards is empty. -/
theorem dropTrailing_eq_self {items : List α} (ends : EndsRun p items.reverse)
    : dropTrailing p items = items := by
  rw [dropTrailing, ← List.nil_append items.reverse, dropWhile_run (List.forall_mem_nil _) ends,
    List.reverse_reverse]

theorem dropTrailing_concat {items : List α} {item : α} (h : p item = true)
    : dropTrailing p (items ++ [item]) = dropTrailing p items := by
  simp [dropTrailing, h]

theorem mem_of_mem_dropTrailing {items : List α} {item : α} (h : item ∈ dropTrailing p items)
    : item ∈ items :=
  List.mem_reverse.mp ((List.dropWhile_sublist p).subset (List.mem_reverse.mp h))

theorem filter_dropWhile (items : List α)
    : (items.dropWhile p).filter (fun item => !p item) = items.filter fun item => !p item := by
  have front : (items.takeWhile p).filter (fun item => !p item) = [] := by
    apply List.filter_eq_nil_iff.mpr
    intro item member
    simp [List.mem_takeWhile_imp member]
  calc
    _ = (items.takeWhile p ++ items.dropWhile p).filter fun item => !p item := by
      rw [List.filter_append, front, List.nil_append]
    _ = _ := by rw [List.takeWhile_append_dropWhile]

/-- Trimming takes white space away and nothing else. -/
theorem filter_trim (text : List Char)
    : (trim text).filter (fun c => !isBlank c) = text.filter fun c => !isBlank c := by
  rw [trim, dropTrailing, List.filter_reverse, filter_dropWhile, ← List.filter_reverse,
    List.reverse_reverse, skipBlanks, filter_dropWhile]

/-- White space around a text is dropped when the text has none at either end. -/
theorem trim_gaps {front text back : List Char} (front_blank : ∀ c ∈ front, isBlank c = true)
    (back_blank : ∀ c ∈ back, isBlank c = true) (starts : EndsRun isBlank (text ++ back))
    (ends : EndsRun isBlank text.reverse)
    : trim (front ++ (text ++ back)) = text := by
  have back_reversed : ∀ c ∈ back.reverse, isBlank c = true :=
    fun c hc => back_blank c (List.mem_reverse.mp hc)
  rw [trim, skipBlanks_gap front_blank starts, dropTrailing, List.reverse_append,
    dropWhile_run back_reversed ends, List.reverse_reverse]

end Logbook.Text
