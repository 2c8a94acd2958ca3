import Formwork.Design.Grid
import Formwork.Proofs.Binary64.RoundAway

/-!
# Snapping to the grid

A coordinate is divided by the grid, the quotient is rounded to an integer, and the grid is taken
that many times. Where the quotient and the nearest multiple are numbers, every step but the
rounding is exact, so that the multiple is the nearest one if and only if the integer is
(`exists_snapCoordinate`).

It is not for the quotients that a half takes too far (`IsRaised`). The one next below one half goes
to the multiple next to zero, although zero is nearer. An odd quotient with all of the bits is an
integer already, and goes to the next one nevertheless: the multiple has as many bits only if the
grid is a power of two (`Representable.exists_two_pow`), so the next multiple is a number too, or
overflows.
-/

set_option autoImplicit false

namespace Formwork

open Binary64

/-! ## Multiples -/

/-- The multiple of `g` that is nearest to `x`, and of two that are equally near the one that is
further from zero. -/
structure NearestMultiple (g x m : ℚ) : Prop where
  multiple : ∃ k : ℤ, m = k * g
  nearest : ∀ k : ℤ, |x - m| ≤ |x - k * g|
  away : ∀ k : ℤ, |x - k * g| = |x - m| → |k * g| ≤ |m|

namespace NearestMultiple

variable {g x m m' : ℚ}

/-- On the other side of zero it is the mirrored one. -/
theorem neg (h : NearestMultiple g x m) : NearestMultiple g (-x) (-m) := by
  obtain ⟨k, rfl⟩ := h.multiple
  have mirrored (l : ℚ) : |-x - l| = |x - -l| := by rw [← abs_neg, neg_sub', neg_neg]
  have flip (l : ℤ) : -((l : ℚ) * g) = ((-l : ℤ) : ℚ) * g := by rw [Int.cast_neg, neg_mul]
  refine ⟨⟨-k, flip k⟩, fun l => ?_, fun l same => ?_⟩
  · rw [mirrored, mirrored, neg_neg, flip]
    exact h.nearest (-l)
  · rw [mirrored, mirrored, neg_neg, flip] at same
    rw [abs_neg, ← abs_neg ((l : ℚ) * g), flip]
    exact h.away (-l) same

/-- Its size is determined. -/
theorem abs_eq (h : NearestMultiple g x m) (h' : NearestMultiple g x m') : |m| = |m'| := by
  obtain ⟨k, rfl⟩ := h.multiple
  obtain ⟨l, rfl⟩ := h'.multiple
  have same := le_antisymm (h.nearest l) (h'.nearest k)
  exact le_antisymm (h'.away k same) (h.away l same.symm)

/-- For what is not negative it is the multiple below the number and half of `g`. -/
theorem of_le {n : Nat} (pos : 0 < g) (sign : 0 ≤ x) (low : 2 * (n * g) ≤ 2 * x + g)
    (high : 2 * x + g < 2 * ((n + 1) * g)) : NearestMultiple g x (n * g) := by
  have near : |x - n * g| ≤ g / 2 := abs_le.2 ⟨by linarith, by linarith⟩
  have scaled {k l : ℤ} (h : k ≤ l) : (k : ℚ) * g ≤ l * g :=
    mul_le_mul_of_nonneg_right (Int.cast_le.2 h) pos.le
  have below (k : ℤ) (h : k + 1 ≤ n) : (k : ℚ) * g + g ≤ n * g := by
    simpa [add_mul] using scaled h
  have above (k : ℤ) (h : n + 1 ≤ k) : (n : ℚ) * g + g ≤ k * g := by
    simpa [add_mul] using scaled h
  refine ⟨⟨n, rfl⟩, fun k => ?_, fun k same => ?_⟩
  · rcases lt_trichotomy k n with less | rfl | more
    · have := below k less
      exact near.trans ((by linarith : g / 2 ≤ x - k * g).trans (le_abs_self _))
    · rfl
    · have := above k more
      exact near.trans ((by linarith : g / 2 ≤ -(x - k * g)).trans (neg_le_abs _))
  · rw [← same] at near
    have bounds := abs_le.1 near
    have low : -1 < k := by
      by_contra h
      have := scaled (Int.not_lt.1 h)
      rw [Int.cast_neg, Int.cast_one] at this
      linarith
    have most : k ≤ n := by
      by_contra h
      have := above k (Int.not_le.1 h)
      linarith
    have size : 0 ≤ (k : ℚ) * g := mul_nonneg (Int.cast_nonneg (by omega)) pos.le
    exact abs_le_abs_of_nonneg size (scaled most)

/-- The same for counts of steps, of either sign. -/
theorem of_steps {v u n : Nat} (pos : 0 < v) (low : 2 * (n * v) ≤ 2 * u + v)
    (high : 2 * u + v < 2 * ((n + 1) * v)) (s : Bool) :
    NearestMultiple (v / (oneSteps : Nat)) ((if s then -1 else 1) * (u / (oneSteps : Nat)))
      ((if s then -1 else 1) * ((n * v : Nat) / (oneSteps : Nat))) := by
  have one := oneSteps_cast_pos
  have nearest : NearestMultiple (v / (oneSteps : Nat)) (u / (oneSteps : Nat))
      (n * (v / (oneSteps : Nat))) := by
    refine of_le (div_pos (Nat.cast_pos.2 pos) one) (div_nonneg u.cast_nonneg one.le) ?_ ?_
    · have scaled : (2 * (n * v) : ℚ) ≤ 2 * u + v := by exact_mod_cast low
      calc 2 * (n * (v / (oneSteps : Nat))) = (2 * (n * v) : ℚ) / (oneSteps : Nat) := by ring
        _ ≤ (2 * u + v) / (oneSteps : Nat) := (div_le_div_iff_of_pos_right one).2 scaled
        _ = _ := by ring
    · have scaled : (2 * u + v : ℚ) < 2 * ((n + 1) * v) := by exact_mod_cast high
      calc (2 * (u / (oneSteps : Nat)) + v / (oneSteps : Nat) : ℚ)
        _ = (2 * u + v : ℚ) / (oneSteps : Nat) := by ring
        _ < 2 * ((n + 1) * v) / (oneSteps : Nat) := (div_lt_div_iff_of_pos_right one).2 scaled
        _ = _ := by ring
  have same : ((n * v : Nat) : ℚ) / (oneSteps : Nat) = n * (v / (oneSteps : Nat)) := by
    rw [Nat.cast_mul, mul_div_assoc]
  rw [same]
  cases s
  · rw [if_neg Bool.false_ne_true, one_mul, one_mul]
    exact nearest
  · rw [if_pos rfl, neg_one_mul, neg_one_mul]
    exact nearest.neg

end NearestMultiple

/-! ## Coordinates -/

/-- The quotient by the grid is a number, and so is the nearest multiple of the grid. -/
structure Snappable (grid x : Binary64) : Prop where
  finite : x.isFinite = true
  quotient : Holds (x.value / grid.value)
  multiple : ∃ m, NearestMultiple grid.value x.value m ∧ Holds m

/-- The coordinate `x` is moved to the nearest multiple of the grid, and not at all if it is one. -/
structure Snapped (grid x y : Binary64) : Prop where
  finite : y.isFinite = true
  nearest : NearestMultiple grid.value x.value y.value
  kept : (∃ k : ℤ, x.value = k * grid.value) → y = x

section Coordinate

variable {s : Bool} {u v n : Nat} {fits : Representable u} {fits' : Representable v}
  {grid x : Binary64}

theorem snapCoordinate_finite {fitsWhole : Representable (n * oneSteps)}
    (rounded : (finite s u fits / finite false v fits').roundAway =
      .ok (.finite s (n * oneSteps) fitsWhole)) :
    snapCoordinate (.finite false v fits') (.finite s u fits) =
      .ok (ofRatio s (n * v * oneSteps) oneSteps) := by
  rw [snapCoordinate, rounded, Except.map, mul_finite_false, Nat.mul_right_comm]

theorem value_grid (fits' : Representable v) :
    (finite false v fits').value = v / (oneSteps : Nat) := by
  rw [value_finite, if_neg Bool.false_ne_true, one_mul]

/-- Where nothing is raised, the nearest multiple comes out. -/
theorem snapped_of_nearest (pos : 0 < v) (low : 2 * (n * v) ≤ 2 * u + v)
    (high : 2 * u + v < 2 * ((n + 1) * v))
    (h : Snappable (.finite false v fits') (.finite s u fits)) :
    Snapped (.finite false v fits') (.finite s u fits) (ofRatio s (n * v * oneSteps) oneSteps) := by
  have one := oneSteps_cast_pos
  have nearest := NearestMultiple.of_steps pos low high s
  rw [← value_finite s fits, ← value_grid fits'] at nearest
  have held : Representable (n * v) := by
    obtain ⟨m, other, held⟩ := h.multiple
    obtain ⟨w, fitsW, size⟩ := held.exists_steps
    rw [other.abs_eq nearest, abs_sign_mul, div_oneSteps_inj] at size
    exact size ▸ fitsW
  rw [ofRatio_mul s held (Nat.cast_pos.1 one)]
  refine ⟨rfl, by rwa [value_finite s held], fun ⟨k, own⟩ => ?_⟩
  have close := nearest.nearest k
  rw [← own, sub_self, abs_zero, abs_nonpos_iff, sub_eq_zero] at close
  have same : u = n * v := by
    rw [← div_oneSteps_inj, ← abs_value_finite s fits, close, abs_sign_mul]
  simp only [same]

/-- The number next below one half is moved to the multiple next to zero, and zero is nearer. -/
theorem not_snapped_of_half (small : 2 * u < v) :
    ¬Snapped (.finite false v fits') (.finite s u fits)
      (ofRatio s (1 * v * oneSteps) oneSteps) := by
  intro h
  have one := oneSteps_cast_pos
  rw [Nat.one_mul, ofRatio_mul s fits' (Nat.cast_pos.1 one)] at h
  have far := h.nearest.nearest 0
  have apart := abs_sub_abs_le_abs_sub (finite s v fits').value (finite s u fits).value
  rw [Int.cast_zero, zero_mul, sub_zero, abs_sub_comm] at far
  rw [abs_value_finite] at far
  rw [abs_value_finite, abs_value_finite] at apart
  have close : (v : ℚ) / (oneSteps : Nat) ≤ (2 * u : Nat) / (oneSteps : Nat) := by
    rw [Nat.cast_mul, Nat.cast_ofNat, mul_div_assoc]
    linarith
  rw [div_le_div_iff_of_pos_right one, Nat.cast_le] at close
  omega

/-- An odd multiple with all of the bits is moved to the next one. -/
theorem not_snapped_of_odd {c : Nat} (pos : 0 < v) (odd : c % 2 = 1) (least : 2 ^ 52 ≤ c)
    (own : u = c * v) :
    ¬Snapped (.finite false v fits') (.finite s u fits)
      (ofRatio s ((c + 1) * v * oneSteps) oneSteps) := by
  intro h
  subst own
  obtain ⟨most, k, rfl⟩ := fits.exists_two_pow pos odd least
  have one := Nat.cast_pos.1 oneSteps_cast_pos
  have beyond : (c + 1) * 2 ^ k ≤ roundSteps ((c + 1) * 2 ^ k * oneSteps) oneSteps :=
    le_roundSteps most le_rfl one
  have own : (finite s (c * 2 ^ k) fits).value =
      ((if s then -c else c : ℤ) : ℚ) * (finite false (2 ^ k) fits').value := by
    rw [value_finite, value_grid, Nat.cast_mul, mul_div_assoc]
    cases s
    · rw [if_neg Bool.false_ne_true, if_neg Bool.false_ne_true, one_mul, Int.cast_natCast]
    · rw [if_pos rfl, if_pos rfl, Int.cast_neg, Int.cast_natCast, neg_one_mul, neg_mul]
  have close := h.nearest.nearest (if s then -c else c)
  rw [← own, sub_self, abs_zero, abs_nonpos_iff, sub_eq_zero] at close
  have size := congrArg (|·|) close
  have isFinite := h.finite
  unfold ofRatio at size isFinite
  split at size
  case isTrue bound =>
    rw [abs_value_finite, abs_value_finite, div_oneSteps_inj] at size
    exact ((Nat.mul_lt_mul_of_pos_right (Nat.lt_succ_self c) pos).trans_le beyond).ne size
  case isFalse large =>
    rw [dif_neg large] at isFinite
    cases isFinite

end Coordinate

/-- What bounds a quotient from both sides bounds the number, times the grid. -/
private theorem bounds_of_quotient {u v w n one : Nat} (unit : 0 < one) (pos : 0 < v)
    (exact : w * v = u * one)
    (h : 2 * (n * one) ≤ 2 * w + one ∧ 2 * w + one < 2 * ((n + 1) * one)) :
    2 * (n * v) ≤ 2 * u + v ∧ 2 * u + v < 2 * ((n + 1) * v) := by
  have both : (2 * w + one) * v = (2 * u + v) * one := by
    calc (2 * w + one) * v = 2 * (w * v) + v * one := by ring
      _ = (2 * u + v) * one := by rw [exact]; ring
  constructor
  · refine Nat.le_of_mul_le_mul_right ?_ unit
    calc 2 * (n * v) * one = 2 * (n * one) * v := by ring
      _ ≤ (2 * w + one) * v := Nat.mul_le_mul_right v h.1
      _ = (2 * u + v) * one := both
  · refine Nat.lt_of_mul_lt_mul_right (a := one) ?_
    calc (2 * u + v) * one = (2 * w + one) * v := both.symm
      _ < 2 * ((n + 1) * one) * v := Nat.mul_lt_mul_of_pos_right h.2 pos
      _ = 2 * ((n + 1) * v) * one := by ring

/-- A coordinate is moved to the nearest multiple of the grid, unless a half takes its quotient too
far. -/
theorem exists_snapCoordinate {grid x : Binary64} (finite : grid.isFinite = true)
    (positive : 0 < grid.value) (h : Snappable grid x) :
    ∃ y, snapCoordinate grid x = .ok y ∧ (Snapped grid x y ↔ ¬IsRaised (x.value / grid.value)) := by
  cases grid with
  | nan => cases finite
  | infinite => cases finite
  | finite t v fits' =>
  cases x with
  | nan => cases h.finite
  | infinite => cases h.finite
  | finite s u fits =>
  obtain ⟨rfl, pos⟩ := pos_of_value_pos positive
  obtain ⟨w, fitsW, quotient, size, exact⟩ := div_finite_false s fits fits' pos h.quotient
  obtain ⟨n, fitsN, rounded, nearest, raised⟩ := exists_roundAway s fitsW size
  rw [← quotient] at rounded
  refine ⟨_, snapCoordinate_finite rounded, ?_⟩
  have unit := Nat.cast_pos.1 oneSteps_cast_pos
  by_cases high : IsRaised ((Binary64.finite s u fits).value / (Binary64.finite false v fits').value)
  · refine iff_of_false ?_ (not_not_intro high)
    obtain ⟨small, rfl⟩ | ⟨c, odd, least, count, rfl⟩ := raised high
    · refine not_snapped_of_half (Nat.lt_of_mul_lt_mul_right (a := oneSteps) ?_)
      rw [Nat.mul_assoc, ← exact, ← Nat.mul_assoc, Nat.mul_comm v]
      exact Nat.mul_lt_mul_of_pos_right small pos
    · refine not_snapped_of_odd pos odd least (Nat.eq_of_mul_eq_mul_right unit ?_)
      rw [← exact, count, Nat.mul_right_comm]
  · refine iff_of_true ?_ high
    obtain ⟨low, high⟩ := bounds_of_quotient unit pos exact (nearest high)
    exact snapped_of_nearest pos low high h

/-- **Snapping goes to the nearest point of the grid**, a half away from zero, and leaves a point of
the grid where it is. In a coordinate whose quotient by the grid and whose nearest multiple are
numbers it does so if and only if a half does not take the quotient too far. -/
theorem snapToGrid_nearest_iff {grid : Binary64} {p : Vec} (finite : grid.isFinite = true)
    (positive : 0 < grid.value) (hx : Snappable grid p.x) (hy : Snappable grid p.y) :
    ∃ q, snapToGrid grid p = .ok q ∧
      (Snapped grid p.x q.x ↔ ¬IsRaised (p.x.value / grid.value)) ∧
      (Snapped grid p.y q.y ↔ ¬IsRaised (p.y.value / grid.value)) := by
  obtain ⟨x, snappedX, exactX⟩ := exists_snapCoordinate finite positive hx
  obtain ⟨y, snappedY, exactY⟩ := exists_snapCoordinate finite positive hy
  have above : below 0 grid = true := by
    rwa [below_iff_value (by decide +kernel) finite, value_zero]
  refine ⟨⟨x, y⟩, ?_, exactX, exactY⟩
  rw [snapToGrid, finite, above, Bool.and_self, if_pos rfl, snappedX, snappedY]
  rfl

theorem Snappable.of_denotes {g x q m : ℚ} {grid y : Binary64} (hg : grid.value = g)
    (hx : y.Denotes x) (hq : Holds q) (quotient : x / g = q) (nearest : NearestMultiple g x m)
    (hm : Holds m) : Snappable grid y := by
  obtain ⟨finite, rfl⟩ := hx
  subst hg quotient
  exact ⟨finite, hq, m, nearest, hm⟩

/-- The point (5/2, -3) on a grid of 2. -/
theorem snapToGrid_nearest_iff_two :
    Snappable 2 (ofQuotient 5 2) ∧ Snappable 2 (-3) ∧
      ∃ q, snapToGrid 2 ⟨ofQuotient 5 2, -3⟩ = .ok q ∧
        (Snapped 2 (ofQuotient 5 2) q.x ↔ ¬IsRaised ((ofQuotient 5 2).value / value 2)) ∧
        (Snapped 2 (-3) q.y ↔ ¬IsRaised ((-3 : Binary64).value / value 2)) := by
  have two : value 2 = 2 := by decide +kernel
  have hx : Snappable 2 (ofQuotient 5 2) :=
    .of_denotes (q := 5 / 4) (m := (1 : Nat) * 2) two (x := 5 / 2) (by decide +kernel)
      ⟨ofQuotient 5 4, by decide +kernel⟩ (by norm_num)
      (.of_le (by norm_num) (by norm_num) (by norm_num) (by norm_num))
      ⟨2, by decide +kernel⟩
  have hy : Snappable 2 (-3) :=
    .of_denotes (q := -(3 / 2)) (m := -((2 : Nat) * 2)) two (x := -3) (by decide +kernel)
      ⟨-ofQuotient 3 2, by decide +kernel⟩ (by norm_num)
      (.neg (.of_le (by norm_num) (by norm_num) (by norm_num) (by norm_num)))
      ⟨-4, by decide +kernel⟩
  have finite : isFinite 2 = true := by decide +kernel
  have positive : 0 < value 2 := by
    rw [two]
    exact two_pos
  have law (x y : Binary64) (hx : Snappable 2 x) (hy : Snappable 2 y) :
      ∃ q, snapToGrid 2 ⟨x, y⟩ = .ok q ∧ (Snapped 2 x q.x ↔ ¬IsRaised (x.value / value 2)) ∧
        (Snapped 2 y q.y ↔ ¬IsRaised (y.value / value 2)) :=
    snapToGrid_nearest_iff (p := ⟨x, y⟩) finite positive hx hy
  exact ⟨hx, hy, law _ _ hx hy⟩

/-- On a grid of 1 the number next below one half goes to 1, and a number that is a point of the
grid goes to the next one. -/
theorem snapToGrid_raised :
    Snappable 1 (ofQuotient (2 ^ 53 - 1) (2 ^ 54)) ∧ Snappable 1 (ofNat (2 ^ 52 + 1)) ∧
      snapToGrid 1 ⟨ofQuotient (2 ^ 53 - 1) (2 ^ 54), ofNat (2 ^ 52 + 1)⟩ =
        .ok ⟨1, ofNat (2 ^ 52 + 2)⟩ ∧
      ¬Snapped 1 (ofQuotient (2 ^ 53 - 1) (2 ^ 54)) 1 ∧
      ¬Snapped 1 (ofNat (2 ^ 52 + 1)) (ofNat (2 ^ 52 + 2)) := by
  have one : value 1 = 1 := by decide +kernel
  have near : (ofQuotient (2 ^ 53 - 1) (2 ^ 54)).Denotes (1 / 2 - 1 / 2 ^ 54) := by decide +kernel
  have odd : (ofNat (2 ^ 52 + 1)).Denotes (2 ^ 52 + 1) := by decide +kernel
  have next : (ofNat (2 ^ 52 + 2)).Denotes (2 ^ 52 + 2) := by decide +kernel
  refine ⟨?_, ?_, by decide +kernel, fun h => ?_, fun h => ?_⟩
  · exact .of_denotes (m := (0 : Nat) * 1) one near ⟨_, near⟩ (div_one _)
      (.of_le (by norm_num) (by norm_num) (by norm_num) (by norm_num)) ⟨0, by decide +kernel⟩
  · exact .of_denotes (m := (2 ^ 52 + 1 : Nat) * 1) one odd ⟨_, odd⟩ (div_one _)
      (.of_le (by norm_num) (by norm_num) (by norm_num) (by norm_num))
      ⟨ofNat (2 ^ 52 + 1), by decide +kernel⟩
  · have far := h.nearest.nearest 0
    rw [near.2, one] at far
    norm_num at far
  · have far := h.nearest.nearest (2 ^ 52 + 1)
    rw [odd.2, next.2, one] at far
    norm_num at far

end Formwork
