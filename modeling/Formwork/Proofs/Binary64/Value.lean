import Formwork.Proofs.Binary64.Sort
import Mathlib.Algebra.Order.Field.Rat
import Mathlib.Tactic.Linarith

/-!
# Numbers as rationals

A finite number denotes a rational, its steps over those of the number one (`value`). Finite numbers
are ordered as what they denote (`value_le_iff`). An operation on numbers rounds; it is exact where
its result denotes what the operation on rationals gives (`ExactAdd`, `ExactSub`, `ExactDiv`). Where
a whole sum is exact, it denotes the sum (`ExactTotal.value`).
-/

set_option autoImplicit false

namespace Formwork.Binary64

/-- The rational that a finite number denotes; zero for what is not finite. -/
def value (x : Binary64) : ℚ := (x.steps?.getD 0 : Int) / (oneSteps : Nat)

/-- The number is finite and denotes the rational. -/
def Denotes (x : Binary64) (q : ℚ) : Prop := x.isFinite = true ∧ x.value = q

/-- The sum is that of the rationals. -/
def ExactAdd (x y : Binary64) : Prop := (x + y).Denotes (x.value + y.value)

/-- The difference is that of the rationals. -/
def ExactSub (x y : Binary64) : Prop := (x - y).Denotes (x.value - y.value)

/-- The quotient is that of the rationals. -/
def ExactDiv (x y : Binary64) : Prop := (x / y).Denotes (x.value / y.value)

/-- All sums on the way from `x` through the list are those of the rationals. -/
def ExactTotal : Binary64 → List Binary64 → Prop
  | _, [] => True
  | x, y :: ys => ExactAdd x y ∧ ExactTotal (x + y) ys

instance (x : Binary64) (q : ℚ) : Decidable (x.Denotes q) :=
  inferInstanceAs (Decidable (_ ∧ _))

instance (x y : Binary64) : Decidable (ExactAdd x y) := inferInstanceAs (Decidable (Denotes _ _))

instance (x y : Binary64) : Decidable (ExactSub x y) := inferInstanceAs (Decidable (Denotes _ _))

instance (x y : Binary64) : Decidable (ExactDiv x y) := inferInstanceAs (Decidable (Denotes _ _))

instance decidableExactTotal : (x : Binary64) → (ys : List Binary64) → Decidable (ExactTotal x ys)
  | _, [] => isTrue trivial
  | x, y :: ys =>
    have := decidableExactTotal (x + y) ys
    inferInstanceAs (Decidable (_ ∧ _))

variable {x y : Binary64}

theorem value_zero : value 0 = 0 := by
  have steps : steps? 0 = some 0 := by decide +kernel
  rw [value, steps, Option.getD_some, Int.cast_zero, zero_div]

theorem rank_of_finite (hx : x.isFinite = true) : x.rank = x.steps?.getD 0 := by
  cases x with
  | nan => cases hx
  | infinite => cases hx
  | finite => rfl

theorem isNaN_of_finite (hx : x.isFinite = true) : x.isNaN = false := by
  cases x with
  | nan => cases hx
  | infinite => rfl
  | finite => rfl

/-- Finite numbers are ordered as the rationals that they denote. -/
theorem value_le_iff (hx : x.isFinite = true) (hy : y.isFinite = true) :
    x.value ≤ y.value ↔ x.rank ≤ y.rank := by
  obtain ⟨one, -, steps⟩ := exists_oneSteps
  have pos : (0 : ℚ) < (oneSteps : Nat) := Nat.cast_pos.2 (steps ▸ Nat.two_pow_pos one)
  rw [value, value, div_le_div_iff_of_pos_right pos, Int.cast_le, rank_of_finite hx,
    rank_of_finite hy]

theorem below_iff_value (hx : x.isFinite = true) (hy : y.isFinite = true) :
    below x y = true ↔ x.value < y.value := by
  rw [below_iff_rank (isNaN_of_finite hx) (isNaN_of_finite hy), ← not_le, ← value_le_iff hy hx, not_le]

/-- An exact sum denotes the sum. -/
theorem ExactTotal.value {ys : List Binary64} (exact : ExactTotal x ys) :
    (ys.foldl (· + ·) x).value = x.value + (ys.map Binary64.value).sum := by
  induction ys generalizing x with
  | nil => exact (add_zero _).symm
  | cons y ys ih =>
    obtain ⟨⟨-, sum⟩, later⟩ := exact
    rw [List.foldl_cons, ih later, sum, List.map_cons, List.sum_cons, add_assoc]

end Formwork.Binary64
