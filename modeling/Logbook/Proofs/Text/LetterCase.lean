import Logbook.Proofs.Text.Utf8RoundTrip
import Logbook.Text.LowerCase

/-! Lower-casing looks at the case of no ASCII letter and leaves small forms as they are.
What stands in front of a text changes its small form only where the text begins with a capital
sigma alone, which ends the word in front of it.
-/

namespace Logbook.Text

-----------------------------------------------------------------------------------------
-- Words and what case rules look through
-----------------------------------------------------------------------------------------

/-- Case rules look through the character to the next one. -/
def isCaseIgnorable (c : Char) : Bool := CodeRange.listContains caseIgnorableRanges c

/-- The character is a letter with case. -/
def isCased (c : Char) : Bool := CodeRange.listContains casedRanges c

@[simp]
theorem meetsCased_nil : meetsCased [] = false := rfl

theorem meetsCased_cons (c : Char) (rest : List Char)
    : meetsCased (c :: rest) = if isCaseIgnorable c then meetsCased rest else isCased c := by
  cases ignorable : CodeRange.listContains caseIgnorableRanges c <;>
    simp [meetsCased, isCaseIgnorable, isCased, ignorable]

-----------------------------------------------------------------------------------------
-- The case of ASCII letters
-----------------------------------------------------------------------------------------

/-- The code points of the capital letters of ASCII. -/
def asciiCapitals : List Nat := List.range' 65 26

theorem toLower_eq_or_mem_capitals (c : Char) : c.toLower = c ∨ c.toNat ∈ asciiCapitals := by
  unfold Char.toLower
  split
  · next capital =>
      have bounds : 65 ≤ c.toNat ∧ c.toNat ≤ 90 := capital
      right
      rw [asciiCapitals, List.mem_range'_1]
      omega
  · exact .inl rfl

/-- What does not tell the capitals from their small letters does not look at the case of ASCII
letters at all.
-/
theorem eq_toLower_of_capitals {α : Type} {f : Char → α}
    (capitals : ∀ code ∈ asciiCapitals, f (Char.ofNat code).toLower = f (Char.ofNat code))
    (c : Char)
    : f c.toLower = f c := by
  rcases toLower_eq_or_mem_capitals c with same | capital
  · rw [same]
  · rw [← Char.ofNat_toNat c]
    exact capitals c.toNat capital

theorem isCaseIgnorable_toLower (c : Char) : isCaseIgnorable c.toLower = isCaseIgnorable c :=
  eq_toLower_of_capitals (by decide) c

theorem isCased_toLower (c : Char) : isCased c.toLower = isCased c :=
  eq_toLower_of_capitals (by decide) c

theorem lowerChar_toLower (c : Char) : lowerChar c.toLower = lowerChar c :=
  eq_toLower_of_capitals (by decide) c

theorem toLower_eq_sigma_iff (c : Char) : c.toLower = 'Σ' ↔ c = 'Σ' :=
  iff_of_eq (eq_toLower_of_capitals (f := (· = 'Σ')) (by decide) c)

theorem meetsCased_map_toLower (neighbours : List Char)
    : meetsCased (neighbours.map Char.toLower) = meetsCased neighbours := by
  induction neighbours with
  | nil => rfl
  | cons c rest ih =>
      rw [List.map_cons, meetsCased_cons, meetsCased_cons, isCaseIgnorable_toLower,
        isCased_toLower, ih]

/-- Each character is lowered alike when ASCII letters around it change their case. -/
theorem lowerBetween_toLower (before : List Char) (c : Char) (after : List Char)
    : lowerBetween (before.map Char.toLower) c.toLower (after.map Char.toLower)
      = lowerBetween before c after := by
  unfold lowerBetween
  simp only [toLower_eq_sigma_iff, meetsCased_map_toLower, lowerChar_toLower]

theorem lowerAfter_map_toLower (before text : List Char)
    : lowerAfter (before.map Char.toLower) (text.map Char.toLower) = lowerAfter before text := by
  induction text generalizing before with
  | nil => rfl
  | cons c rest ih =>
      rw [List.map_cons, lowerAfter, lowerAfter, lowerBetween_toLower, ← ih (c :: before),
        List.map_cons]

/-- The case of ASCII letters makes no difference to the small form of a text. -/
theorem lowerCase_map_toLower (text : List Char)
    : lowerCase (text.map Char.toLower) = lowerCase text :=
  lowerAfter_map_toLower [] text

-----------------------------------------------------------------------------------------
-- Small forms are not lowered further
-----------------------------------------------------------------------------------------

/-- The runs of all capitals: those of ASCII, the one that becomes two characters and the others. -/
def capitalRuns : List CaseRun := ⟨0x41, 0x5A, 1, 32⟩ :: ⟨0x130, 0x130, 1, 0⟩ :: caseRuns

namespace CaseRun

/-- The code point that a run leads to. -/
def small (run : CaseRun) (code : Nat) : Nat := (code + run.shift).toNat

/-- The other run covers none of the code points that a run leads to: they lie apart from it, or on
the grid between its own.
-/
def leadsPast (run other : CaseRun) : Bool :=
  Nat.blt (run.small run.last) other.first
    || Nat.blt other.last (run.small run.first)
    || Nat.blt 0 (run.small run.first) && (run.step % 2 == 0 || run.first == run.last)
      && other.step == 2 && (run.small run.first + other.first) % 2 == 1

theorem covers_small_eq_false {run other : CaseRun} {code : Nat}
    (past : run.leadsPast other = true) (covered : run.covers code = true)
    : other.covers (run.small code) = false := by
  apply Bool.eq_false_iff.mpr
  intro meets
  simp only [covers, Bool.and_eq_true, decide_eq_true_eq, beq_iff_eq] at covered meets
  obtain ⟨⟨above, below⟩, grid⟩ := covered
  obtain ⟨⟨meetsAbove, meetsBelow⟩, meetsGrid⟩ := meets
  have between : run.small run.first ≤ run.small code ∧ run.small code ≤ run.small run.last := by
    simp only [small]
    omega
  simp only [leadsPast, Bool.or_eq_true, Bool.and_eq_true, Nat.blt_eq, beq_iff_eq] at past
  rcases past with (apart | apart) | ⟨⟨⟨positive, even | single⟩, two⟩, odd⟩
  · omega
  · omega
  · have steps : (code - run.first) % 2 = 0 :=
      Nat.mod_eq_zero_of_dvd
        (Nat.dvd_trans (Nat.dvd_of_mod_eq_zero even) (Nat.dvd_of_mod_eq_zero grid))
    rw [two] at meetsGrid
    simp only [small] at *
    omega
  · rw [two] at meetsGrid
    simp only [small] at *
    omega

/-- The runs lead past all capitals, none of which is the null character. -/
theorem leadsPast_capitalRuns
    : (capitalRuns.all fun other =>
        Nat.blt 0 other.first && caseRuns.all fun run => run.leadsPast other) = true := by
  decide +kernel

theorem covers_zero {run : CaseRun} (capital : run ∈ capitalRuns) : run.covers 0 = false := by
  have apart := List.all_eq_true.mp leadsPast_capitalRuns run capital
  have positive := (Bool.and_eq_true_iff.mp apart).1
  simp [covers, Nat.ne_of_gt (Nat.blt_eq.mp positive)]

/-- The small forms of capitals are no capitals. -/
theorem covers_small {run other : CaseRun} {code : Nat} (inside : run ∈ caseRuns)
    (covered : run.covers code = true) (capital : other ∈ capitalRuns)
    : other.covers (run.small code) = false := by
  have apart := List.all_eq_true.mp leadsPast_capitalRuns other capital
  have past := (Bool.and_eq_true_iff.mp apart).2
  exact covers_small_eq_false (List.all_eq_true.mp past run inside) covered

end CaseRun

/-- What is in no run of capitals is its own small form. -/
theorem lowerChar_of_not_capital {c : Char}
    (small : ∀ run ∈ capitalRuns, run.covers c.toNat = false)
    : lowerChar c = [c] := by
  have notAscii : c.toNat ∉ asciiCapitals := fun capital => by
    have covered
        : ∀ code ∈ asciiCapitals, (⟨0x41, 0x5A, 1, 32⟩ : CaseRun).covers code = true := by
      decide
    have := small _ List.mem_cons_self
    rw [covered c.toNat capital] at this
    cases this
  have notDotted : c.toNat ≠ 0x130 := fun dotted => by
    have := small ⟨0x130, 0x130, 1, 0⟩ (List.mem_cons_of_mem _ List.mem_cons_self)
    rw [dotted] at this
    cases this
  have notFound : caseRuns.find? (fun run => run.covers c.toNat) = none := by
    apply List.find?_eq_none.mpr
    intro run member
    simp [small run (List.mem_cons_of_mem _ (List.mem_cons_of_mem _ member))]
  unfold lowerChar
  rw [if_neg notDotted, notFound, (toLower_eq_or_mem_capitals c).resolve_right notAscii]
  split <;> rfl

/-- The small form of a character consists of small forms. -/
theorem lowerChar_of_mem_lowerChar {c d : Char} (member : d ∈ lowerChar c)
    : lowerChar d = [d] := by
  by_cases ascii : c.toNat < 0x80
  · have lowered : lowerChar c = [c.toLower] := by rw [lowerChar, if_pos ascii]
    rw [lowered, List.mem_singleton] at member
    rw [member, lowerChar_toLower, lowered]
  by_cases dotted : c.toNat = 0x130
  · have both
        : lowerChar 'i' = ['i'] ∧ lowerChar (Char.ofNat 0x307) = [Char.ofNat 0x307] := by
      decide
    rw [lowerChar, if_neg ascii, if_pos dotted] at member
    rcases List.mem_cons.mp member with rfl | last
    · exact both.1
    · rw [List.mem_singleton.mp last]
      exact both.2
  cases found : caseRuns.find? (fun run => run.covers c.toNat) with
  | none =>
      have same : lowerChar c = [c] := by
        rw [lowerChar, if_neg ascii, if_neg dotted, found]
      rw [same, List.mem_singleton] at member
      rw [member, same]
  | some run =>
      have inside : run ∈ caseRuns := List.mem_of_find?_eq_some found
      have covered := List.find?_some found
      rw [lowerChar, if_neg ascii, if_neg dotted, found, List.mem_singleton] at member
      apply lowerChar_of_not_capital
      intro other capital
      rw [member]
      rcases Utf8.toNat_ofNat_cases (run.small c.toNat) with nothing | same
      · rw [← CaseRun.small, nothing]
        exact CaseRun.covers_zero capital
      · rw [← CaseRun.small, same]
        exact CaseRun.covers_small inside covered capital

theorem lowerChar_of_mem_lowerBetween {before after : List Char} {c d : Char}
    (member : d ∈ lowerBetween before c after)
    : lowerChar d = [d] := by
  unfold lowerBetween at member
  split at member
  · have sigmas : lowerChar 'ς' = ['ς'] ∧ lowerChar 'σ' = ['σ'] := by decide
    rw [List.mem_singleton] at member
    rw [member]
    split
    · exact sigmas.1
    · exact sigmas.2
  · exact lowerChar_of_mem_lowerChar member

theorem lowerChar_of_mem_lowerAfter {before text : List Char} {c : Char}
    (member : c ∈ lowerAfter before text)
    : lowerChar c = [c] := by
  induction text generalizing before with
  | nil => cases member
  | cons d rest ih =>
      rcases List.mem_append.mp member with here | later
      · exact lowerChar_of_mem_lowerBetween here
      · exact ih later

/-- A text of small forms stays as it is wherever it stands. -/
theorem lowerAfter_eq_self {before text : List Char} (small : ∀ c ∈ text, lowerChar c = [c])
    : lowerAfter before text = text := by
  induction text generalizing before with
  | nil => rfl
  | cons c rest ih =>
      obtain ⟨first, later⟩ := List.forall_mem_cons.mp small
      have other : c ≠ 'Σ' := by
        rintro rfl
        revert first
        decide
      rw [lowerAfter, lowerBetween, if_neg other, first, ih later, List.singleton_append]

/-- Lower-casing again changes nothing. -/
theorem lowerCase_lowerCase (text : List Char) : lowerCase (lowerCase text) = lowerCase text :=
  lowerAfter_eq_self fun _ => lowerChar_of_mem_lowerAfter

-----------------------------------------------------------------------------------------
-- What stands in front of a text
-----------------------------------------------------------------------------------------

/-- Of the text in front only the last word matters, and only whether there is one. -/
theorem lowerAfter_congr {before other : List Char} (same : meetsCased before = meetsCased other)
    (text : List Char)
    : lowerAfter before text = lowerAfter other text := by
  induction text generalizing before other with
  | nil => rfl
  | cons c rest ih =>
      have next : meetsCased (c :: before) = meetsCased (c :: other) := by
        rw [meetsCased_cons, meetsCased_cons, same]
      rw [lowerAfter, lowerAfter, ih next, lowerBetween, lowerBetween, same]

theorem length_lowerAfter (before other text : List Char)
    : (lowerAfter before text).length = (lowerAfter other text).length := by
  induction text generalizing before other with
  | nil => rfl
  | cons c rest ih =>
      have here : (lowerBetween before c rest).length = (lowerBetween other c rest).length := by
        unfold lowerBetween
        split <;> rfl
      rw [lowerAfter, lowerAfter, List.length_append, List.length_append, here,
        ih (c :: before) (c :: other)]

/-- The small form of a text ends with that of its back, in the place where it stands. -/
theorem lowerAfter_suffix (before front back : List Char)
    : lowerAfter (front.reverse ++ before) back <:+ lowerAfter before (front ++ back) := by
  induction front generalizing before with
  | nil => exact List.suffix_rfl
  | cons c rest ih =>
      have split
          : lowerAfter before (c :: rest ++ back)
            = lowerBetween before c (rest ++ back) ++ lowerAfter (c :: before) (rest ++ back) :=
        rfl
      rw [split, List.reverse_cons, List.append_assoc]
      exact List.suffix_append_of_suffix (ih (c :: before))

/-- The first letter of the text is a capital sigma, and no word goes on behind it. -/
def sigmaAlone (text : List Char) : Bool :=
  match text.dropWhile isCaseIgnorable with
  | [] => false
  | c :: rest => c == 'Σ' && !meetsCased rest

theorem sigmaAlone_cons (c : Char) (rest : List Char)
    : sigmaAlone (c :: rest)
      = if isCaseIgnorable c then sigmaAlone rest else c == 'Σ' && !meetsCased rest := by
  cases ignorable : isCaseIgnorable c <;> simp [sigmaAlone, ignorable]

/-- A word in front of a text changes its small form exactly when that begins with a capital sigma
alone: then the sigma ends this word instead of being one by itself.
-/
theorem lowerAfter_eq_iff (before text : List Char)
    : lowerAfter before text = lowerAfter [] text
      ↔ ¬(sigmaAlone text = true ∧ meetsCased before = true) := by
  induction text with
  | nil => simp [lowerAfter, sigmaAlone]
  | cons c rest ih =>
      rw [lowerAfter, lowerAfter, sigmaAlone_cons]
      by_cases ignorable : isCaseIgnorable c = true
      · have other : c ≠ 'Σ' := by
          rintro rfl
          revert ignorable
          decide
        have through (before : List Char)
            : lowerAfter (c :: before) rest = lowerAfter before rest :=
          lowerAfter_congr (by rw [meetsCased_cons, if_pos ignorable]) rest
        rw [through, through, lowerBetween, lowerBetween, if_neg other, if_neg other,
          if_pos ignorable, List.append_cancel_left_eq, ih]
      · -- The first letter decides what is in front of the others.
        have hidden : lowerAfter (c :: before) rest = lowerAfter [c] rest := by
          apply lowerAfter_congr
          rw [meetsCased_cons, meetsCased_cons, if_neg ignorable, if_neg ignorable]
        rw [hidden, if_neg ignorable, List.append_cancel_right_eq]
        by_cases sigma : c = 'Σ'
        · cases front : meetsCased before <;> cases behind : meetsCased rest <;>
            simp [lowerBetween, sigma, front, behind]
        · simp [lowerBetween, sigma]

/-- The small form of a text ends with that of its back taken alone unless a sigma alone ends the
last word in front.
-/
theorem lowerCase_suffix_iff (front back : List Char)
    : lowerCase back <:+ lowerCase (front ++ back)
      ↔ ¬(sigmaAlone back = true ∧ meetsCased front.reverse = true) := by
  have inPlace : lowerAfter front.reverse back <:+ lowerCase (front ++ back) := by
    rw [← List.append_nil front.reverse]
    exact lowerAfter_suffix [] front back
  have sameLength := length_lowerAfter [] front.reverse back
  rw [← lowerAfter_eq_iff, lowerCase]
  constructor
  · intro alone
    have within := List.suffix_of_suffix_length_le inPlace alone (Nat.le_of_eq sameLength.symm)
    exact within.eq_of_length sameLength.symm
  · intro same
    rw [← same]
    exact inPlace

/-- A dot in front of a text is no part of its words. -/
theorem lowerCase_dot (text : List Char) : lowerCase ('.' :: text) = '.' :: lowerCase text := by
  have dot : lowerBetween [] '.' text = ['.'] := by
    rw [lowerBetween, if_neg (by decide)]
    decide
  have through : meetsCased ['.'] = meetsCased [] := by decide
  rw [lowerCase, lowerAfter, dot, lowerAfter_congr through]
  rfl

theorem sigmaAlone_dot (text : List Char) : sigmaAlone ('.' :: text) = sigmaAlone text := by
  have through : isCaseIgnorable '.' = true := by decide
  rw [sigmaAlone_cons, if_pos through]

end Logbook.Text
