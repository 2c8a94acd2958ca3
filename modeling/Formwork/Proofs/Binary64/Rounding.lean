import Formwork.Proofs.Binary64.Value
import Formwork.Proofs.Decimal.Interval
import Mathlib.Algebra.Order.Field.Basic
import Mathlib.Data.Nat.Factorization.Basic

/-!
# What rounding leaves alone

Rounding does not pass a count of at most 53 bits on the way (`le_roundSteps`, `roundSteps_le`). So
a count that binary64 holds is not rounded (`roundSteps_mul`), and an operation is exact wherever
binary64 holds its result on rationals (`ofRatio_mul`, `div_finite_false`).
-/

set_option autoImplicit false

namespace Formwork

/-! ## Counts of steps -/

section Counts

variable {m k num den : Nat}

theorem roundHalfEven_le_of_le (h : num ≤ m * den) (pos : 0 < den) : roundHalfEven num den ≤ m := by
  rcases h.lt_or_eq with below | equal
  · have := (Nat.div_lt_iff_lt_mul pos).2 below
    exact (roundHalfEven_le num den).trans this
  · exact (roundHalfEven_eq (by omega) (by omega) (by omega) pos).le

/-- A count beyond 53 bits does not lie below a shorter one with the same last place. -/
theorem mul_two_pow_le_of_lt_lastPlace {q : Nat} (bits : m ≤ 2 ^ 53) (coarse : k < lastPlace q) :
    m * 2 ^ k ≤ 2 ^ 52 * 2 ^ lastPlace q :=
  calc m * 2 ^ k ≤ 2 ^ 53 * 2 ^ k := Nat.mul_le_mul_right _ bits
    _ = 2 ^ 52 * 2 ^ (k + 1) := by ring
    _ ≤ 2 ^ 52 * 2 ^ lastPlace q := Nat.mul_le_mul_left _ (Nat.pow_le_pow_right Nat.two_pos coarse)

theorem le_roundSteps (bits : m ≤ 2 ^ 53) (h : m * 2 ^ k * den ≤ num) (pos : 0 < den) :
    m * 2 ^ k ≤ roundSteps num den := by
  have whole : m * 2 ^ k ≤ num / den := (Nat.le_div_iff_mul_le pos).2 h
  have kept : num / den / 2 ^ lastPlace (num / den) * 2 ^ lastPlace (num / den) ≤
      roundSteps num den := by
    rw [Nat.div_div_eq_div_mul]
    exact Nat.mul_le_mul_right _ (le_roundHalfEven _ _)
  refine Nat.le_trans ?_ kept
  generalize num / den = q at whole
  rcases Nat.lt_or_ge k (lastPlace q) with coarse | fine
  · have full := le_div_lastPlace (Nat.zero_lt_of_lt coarse)
    exact (mul_two_pow_le_of_lt_lastPlace bits coarse).trans (Nat.mul_le_mul_right _ full)
  · obtain ⟨j, rfl⟩ := Nat.exists_eq_add_of_le' fine
    rw [Nat.pow_add, ← Nat.mul_assoc] at whole ⊢
    exact Nat.mul_le_mul_right _ ((Nat.le_div_iff_mul_le (Nat.two_pow_pos _)).2 whole)

/-- Rounding does not fall below a power of two. -/
theorem two_pow_le_roundSteps (h : 2 ^ k ≤ num) : 2 ^ k ≤ roundSteps num 1 := by
  have least : 1 * 2 ^ k ≤ roundSteps num 1 :=
    le_roundSteps Nat.one_le_two_pow (by rwa [Nat.one_mul, Nat.mul_one]) Nat.one_pos
  rwa [Nat.one_mul] at least

theorem roundSteps_le (bits : m ≤ 2 ^ 53) (h : num ≤ m * 2 ^ k * den) (pos : 0 < den) :
    roundSteps num den ≤ m * 2 ^ k := by
  have whole : num / den ≤ m * 2 ^ k := Nat.div_le_of_le_mul (Nat.mul_comm den _ ▸ h)
  obtain ⟨n, places⟩ : ∃ n, m * 2 ^ k = n * 2 ^ lastPlace (num / den) := by
    rcases Nat.lt_or_ge k (lastPlace (num / den)) with coarse | fine
    · -- The quotient reaches the bound, which is the least count with its last place.
      have full := le_div_lastPlace (Nat.zero_lt_of_lt coarse)
      rw [Nat.le_div_iff_mul_le (Nat.two_pow_pos _)] at full
      exact ⟨2 ^ 52, Nat.le_antisymm (mul_two_pow_le_of_lt_lastPlace bits coarse)
        (full.trans whole)⟩
    · obtain ⟨j, more⟩ := Nat.exists_eq_add_of_le' fine
      exact ⟨m * 2 ^ j, by rw [Nat.mul_assoc, ← Nat.pow_add, ← more]⟩
  rw [places] at h ⊢
  rw [Nat.mul_right_comm, Nat.mul_assoc] at h
  exact Nat.mul_le_mul_right _ (roundHalfEven_le_of_le h (Nat.mul_pos pos (Nat.two_pow_pos _)))

/-- What binary64 holds is not rounded. -/
theorem roundSteps_mul {u : Nat} (fits : Representable u) (pos : 0 < den) :
    roundSteps (u * den) den = u := by
  obtain ⟨m, k, bits, -, rfl⟩ := fits
  exact Nat.le_antisymm (roundSteps_le bits.le le_rfl pos) (le_roundSteps bits.le le_rfl pos)

/-- A number without its fraction is a number. -/
theorem Representable.whole {u : Nat} (fits : Representable u) (bound : k ≤ 2045) :
    Representable (u / 2 ^ k * 2 ^ k) := by
  rcases Nat.lt_or_ge u (2 ^ (53 + k)) with small | large
  · refine ⟨u / 2 ^ k, k, ?_, bound, rfl⟩
    rwa [Nat.div_lt_iff_lt_mul (Nat.two_pow_pos k), ← Nat.pow_add]
  · have some : u ≠ 0 := by
      have := Nat.two_pow_pos (53 + k)
      omega
    have place : k ≤ lastPlace u := by
      have := (Nat.le_log2 some).2 large
      unfold lastPlace
      omega
    rw [Nat.div_mul_cancel ((Nat.pow_dvd_pow 2 place).trans (lastPlace_dvd fits))]
    exact fits

/-- Of a product that is held an odd factor has at most 53 bits, and where it has all of them the
other factor has none to spare. -/
theorem Representable.exists_two_pow {c v : Nat} (fits : Representable (c * v)) (pos : 0 < v)
    (odd : c % 2 = 1) (least : 2 ^ 52 ≤ c) : c < 2 ^ 53 ∧ ∃ k, v = 2 ^ k := by
  obtain ⟨m, j, bits, -, same⟩ := fits
  obtain ⟨k, d, oddRest, rfl⟩ := Nat.exists_eq_two_pow_mul_odd pos.ne'
  have coprime : Nat.Coprime (c * d) (2 ^ j) :=
    Nat.Coprime.pow_right j (Nat.coprime_two_right.2 ((Nat.odd_iff.2 odd).mul oddRest))
  have divides : c * d ∣ m :=
    coprime.dvd_of_dvd_mul_right (same ▸ ⟨2 ^ k, by rw [Nat.mul_left_comm, Nat.mul_comm]⟩)
  have some : 0 < m := by
    rcases Nat.eq_zero_or_pos m with rfl | h
    · rw [Nat.zero_mul] at same
      have := Nat.mul_pos (Nat.lt_of_lt_of_le (Nat.two_pow_pos 52) least) pos
      omega
    · exact h
  have small := (Nat.le_of_dvd some divides).trans_lt bits
  have one : d = 1 := by
    have := oddRest.pos
    by_contra more
    have := Nat.mul_le_mul least (show 2 ≤ d by omega)
    omega
  subst one
  exact ⟨by omega, k, Nat.mul_one _⟩

end Counts

namespace Binary64

/-! ## Numbers -/

/-- There is a number that denotes the rational. -/
def Holds (q : ℚ) : Prop := ∃ x : Binary64, x.Denotes q

section Exact

variable {s : Bool} {u v : Nat} {fits : Representable u} {q : ℚ}

theorem oneSteps_cast_pos : (0 : ℚ) < (oneSteps : Nat) := by
  obtain ⟨one, -, steps⟩ := exists_oneSteps
  exact Nat.cast_pos.2 (steps ▸ Nat.two_pow_pos one)

theorem value_finite (s : Bool) (fits : Representable u) :
    (finite s u fits).value = (if s then -1 else 1) * (u / (oneSteps : Nat)) := by
  have plain : ¬(false = true) := Bool.false_ne_true
  cases s
  · rw [value, steps?, Option.getD_some, if_neg plain, if_neg plain, one_mul, Int.cast_natCast]
  · rw [value, steps?, Option.getD_some, if_pos rfl, if_pos rfl, Int.cast_neg, Int.cast_natCast,
      neg_div, neg_one_mul]

theorem abs_sign_mul (s : Bool) (u : Nat) :
    |(if s then -1 else 1) * ((u : ℚ) / (oneSteps : Nat))| = u / (oneSteps : Nat) := by
  have size : (0 : ℚ) ≤ u / (oneSteps : Nat) := div_nonneg u.cast_nonneg oneSteps_cast_pos.le
  rw [abs_mul, abs_of_nonneg size]
  cases s
  · rw [if_neg Bool.false_ne_true, abs_one, one_mul]
  · rw [if_pos rfl, abs_neg, abs_one, one_mul]

theorem abs_value_finite (s : Bool) (fits : Representable u) :
    |(finite s u fits).value| = u / (oneSteps : Nat) := by
  rw [value_finite, abs_sign_mul]

theorem div_oneSteps_inj : (u : ℚ) / (oneSteps : Nat) = v / (oneSteps : Nat) ↔ u = v := by
  rw [div_left_inj' oneSteps_cast_pos.ne', Nat.cast_inj]

theorem pos_of_value_pos (pos : 0 < (finite s u fits).value) : s = false ∧ 0 < u := by
  have size : (0 : ℚ) ≤ u / (oneSteps : Nat) := div_nonneg u.cast_nonneg oneSteps_cast_pos.le
  rw [value_finite] at pos
  cases s with
  | true =>
    rw [if_pos rfl, neg_one_mul, neg_pos] at pos
    exact absurd size (not_le.2 pos)
  | false =>
    rw [if_neg Bool.false_ne_true, one_mul, div_pos_iff_of_pos_right oneSteps_cast_pos,
      Nat.cast_pos] at pos
    exact ⟨rfl, pos⟩

/-- What is held has a count of steps that fits. -/
theorem Holds.exists_steps (h : Holds q) : ∃ u, Representable u ∧ |q| = u / (oneSteps : Nat) := by
  obtain ⟨x, finite, rfl⟩ := h
  cases x with
  | nan => cases finite
  | infinite => cases finite
  | finite s u fits => exact ⟨u, fits, abs_value_finite s fits⟩

theorem add_finite_false (fits : Representable u) (fits' : Representable v) :
    finite false u fits + finite false v fits' = ofRatio false (u + v) 1 := by
  have size : ((u : Int) + v).natAbs = u + v := by omega
  have above : ¬((u : Int) + v < 0) := by omega
  change Binary64.add _ _ = _
  rw [Binary64.add, if_neg Bool.false_ne_true, if_neg Bool.false_ne_true, Bool.and_false, ofSteps,
    size, decide_eq_false above, ite_self]

theorem ofRatio_mul (s : Bool) (fits : Representable u) {den : Nat} (pos : 0 < den) :
    ofRatio s (u * den) den = .finite s u fits := by
  have exact := roundSteps_mul fits pos
  rw [ofRatio, dif_pos (exact.trans_lt fits.lt_overflowSteps)]
  simp only [exact]

theorem ofNat_eq {n : Nat} (fits : Representable (n * oneSteps)) :
    ofNat n = .finite false (n * oneSteps) fits := by
  have exact := ofRatio_mul false fits Nat.one_pos
  rw [Nat.mul_one] at exact
  rw [ofNat, ofQuotient, exact]

theorem mul_finite_false (s : Bool) (fits : Representable u) (fits' : Representable v) :
    finite s u fits * finite false v fits' = ofRatio s (u * v) oneSteps := by
  change Binary64.mul _ _ = _
  rw [Binary64.mul, Bool.bne_false]

/-- A quotient that is held is exact. -/
theorem div_finite_false (s : Bool) (fits : Representable u) (fits' : Representable v) (pos : 0 < v)
    (held : Holds ((finite s u fits).value / (finite false v fits').value)) :
    ∃ w, ∃ fits'' : Representable w, finite s u fits / finite false v fits' = .finite s w fits'' ∧
      |(finite s u fits).value / (finite false v fits').value| = w / (oneSteps : Nat) ∧
      w * v = u * oneSteps := by
  obtain ⟨w, fits'', size⟩ := held.exists_steps
  have unit := oneSteps_cast_pos
  have below : (0 : ℚ) < v := Nat.cast_pos.2 pos
  have same : u * oneSteps = w * v := by
    rw [abs_div, abs_value_finite, abs_value_finite, div_div_div_cancel_right₀ unit.ne',
      div_eq_div_iff below.ne' unit.ne'] at size
    exact_mod_cast size
  refine ⟨w, fits'', ?_, size, same.symm⟩
  change Binary64.div _ _ = _
  rw [Binary64.div, if_neg pos.ne', Bool.bne_false, same, ofRatio_mul s fits'' pos]

end Exact

end Binary64

end Formwork
