/-! Types ordered by a number that tells their values apart. -/

namespace Logbook

/-- The rank of a value decides its place in the order. -/
class Ranked (α : Type) where
  rank : α → Int
  rank_inj : ∀ {a b}, rank a = rank b → a = b

namespace Ranked

variable {α : Type} [Ranked α]

/-- A value comes before another or is the same. -/
protected def le (a b : α) : Prop := rank a ≤ rank b

/-- A value comes before another. -/
protected def lt (a b : α) : Prop := rank a < rank b

instance (priority := low) : LE α := ⟨Ranked.le⟩

instance (priority := low) : LT α := ⟨Ranked.lt⟩

instance (priority := low) : DecidableLE α :=
  fun a b => inferInstanceAs (Decidable (rank a ≤ rank b))

instance (priority := low) : DecidableLT α :=
  fun a b => inferInstanceAs (Decidable (rank a < rank b))

instance (priority := low) : Min α := minOfLe

theorem le_iff {a b : α} : a ≤ b ↔ rank a ≤ rank b := Iff.rfl

theorem lt_iff {a b : α} : a < b ↔ rank a < rank b := Iff.rfl

instance (priority := low) : Std.IsLinearOrder α :=
  {
    le_refl := fun a => Int.le_refl (rank a),
    le_trans := fun _ _ _ => Int.le_trans,
    le_antisymm := fun _ _ ab ba => rank_inj (Int.le_antisymm ab ba),
    le_total := fun a b => Int.le_total (rank a) (rank b),
  }

instance (priority := low) : Std.LawfulOrderLT α :=
  {
    lt_iff := fun _ _ => by
      simp only [le_iff, lt_iff]
      omega,
  }

end Ranked

end Logbook
