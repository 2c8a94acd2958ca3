import Formwork.Proofs.Binary64.Rounding

/-!
# Rounding to an integer by way of a half

`Binary64.roundAway` adds one half to the magnitude and drops the fraction of the sum. The sum is
rounded, and the question is where that takes it over an integer.

* Below one half the number has more places than the sum. It is the last number before one half that
  is half a place away from one, and goes there (`roundSteps_near_half`).
* From there on the sum is exact, or comes just above a power of two, where one place less does not
  matter (`roundSteps_lt_succ`).
* Of the numbers without a fraction those with all 53 bits have no place for a half. It goes to the
  even neighbour, which is one more for the odd ones (`roundSteps_whole`).
* Larger numbers are left as they are (`roundSteps_large`).

Counts are told in the unit `2 ^ e`, of which one half has `2 ^ 53`. It is the last place of the
numbers below one half, and `exists_unit` says which one it is.
-/

set_option autoImplicit false

namespace Formwork.Binary64

/-! ## A half added -/

section Sum

variable {e w c : Nat}

/-- The number next below one half is raised to one. -/
theorem roundSteps_near_half (near : w + 2 ^ e = 2 ^ 53 * 2 ^ e) :
    roundSteps (w + 2 ^ 53 * 2 ^ e) 1 = 2 ^ 54 * 2 ^ e := by
  have pos := Nat.two_pow_pos e
  have double : 2 ^ (e + 1) = 2 * 2 ^ e := Nat.pow_succ'
  have place : lastPlace ((w + 2 ^ 53 * 2 ^ e) / 1) = e + 1 := by
    refine lastPlace_eq (fun _ => ?_) ?_ <;> rw [Nat.pow_add, double] <;> omega
  have rounded : roundSteps (w + 2 ^ 53 * 2 ^ e) 1 = 2 ^ 53 * 2 ^ (e + 1) :=
    roundSteps_eq place (by omega) (by omega) (fun _ => by decide) Nat.one_pos
  rw [rounded, double]
  omega

/-- All other numbers below one half stay below one. -/
theorem roundSteps_lt_one (fits : Representable w) (small : w < 2 ^ 53 * 2 ^ e)
    (other : w + 2 ^ e ≠ 2 ^ 53 * 2 ^ e) : roundSteps (w + 2 ^ 53 * 2 ^ e) 1 < 2 ^ 54 * 2 ^ e := by
  have pos := Nat.two_pow_pos e
  have double : 2 ^ (e + 1) = 2 * 2 ^ e := Nat.pow_succ'
  -- Between the two numbers next below one half binary64 holds nothing.
  have gap : w ≤ 2 ^ 53 * 2 ^ e - 2 * 2 ^ e := by
    by_contra above
    have place : lastPlace w = e :=
      lastPlace_eq (fun _ => by rw [Nat.pow_add]; omega) (by rw [Nat.pow_add]; exact small)
    obtain ⟨m, rfl⟩ := place ▸ lastPlace_dvd fits
    have more : 2 ^ 53 - 2 < m := by
      by_contra less
      have := Nat.mul_le_mul_left (2 ^ e) (Nat.not_lt.1 less)
      omega
    have fewer : m < 2 ^ 53 := by
      by_contra reach
      have := Nat.mul_le_mul_left (2 ^ e) (Nat.not_lt.1 reach)
      omega
    obtain rfl : m = 2 ^ 53 - 1 := by omega
    omega
  have bound : w + 2 ^ 53 * 2 ^ e ≤ (2 ^ 53 - 1) * 2 ^ (e + 1) * 1 := by
    rw [double]
    omega
  refine (roundSteps_le (Nat.sub_le _ _) bound Nat.one_pos).trans_lt ?_
  rw [double]
  omega

/-- The sum in units of the last place of the number, of which a half has `h`, and the power of two
that bounds the number has `top` times as many as one. -/
theorem roundSteps_lt_of_places {m h n a top : Nat} (bits : m < 2 ^ 53) (some : 0 < h)
    (room : h ≤ 2 ^ 52) (reach : top * (2 * h) = 2 ^ 53) (low : n * (2 * h) ≤ m + h)
    (high : m + h < (n + 1) * (2 * h)) :
    roundSteps ((m + h) * 2 ^ a) 1 < (n + 1) * (2 * h) * 2 ^ a := by
  have scale := Nat.two_pow_pos a
  have next : (n + 1) * (2 * h) = n * (2 * h) + 2 * h := Nat.succ_mul _ _
  rcases Nat.lt_or_ge n top with inside | edge
  · -- All sums up to the next integer have the last place of the number.
    have within : (n + 1) * (2 * h) ≤ top * (2 * h) := Nat.mul_le_mul_right _ inside
    have bound : m + h ≤ (n + 1) * (2 * h) - 1 := by omega
    calc roundSteps ((m + h) * 2 ^ a) 1
        ≤ ((n + 1) * (2 * h) - 1) * 2 ^ a :=
          roundSteps_le (by omega) (by rw [Nat.mul_one]; exact Nat.mul_le_mul_right _ bound)
            Nat.one_pos
      _ < _ := Nat.mul_lt_mul_of_pos_right (by omega) scale
  · -- Beyond the power of two the next place counts.
    have beyond : top * (2 * h) ≤ n * (2 * h) := Nat.mul_le_mul_right _ edge
    have bound : m + h ≤ (2 ^ 52 + h - 1) * 2 := by omega
    have double : (2 ^ 52 + h - 1) * 2 ^ (a + 1) = (2 ^ 52 + h - 1) * 2 * 2 ^ a := by
      rw [Nat.pow_succ' (n := a), Nat.mul_assoc]
    calc roundSteps ((m + h) * 2 ^ a) 1
        ≤ (2 ^ 52 + h - 1) * 2 ^ (a + 1) := by
          refine roundSteps_le (by omega) ?_ Nat.one_pos
          rw [Nat.mul_one, double]
          exact Nat.mul_le_mul_right _ bound
      _ < _ := by
        rw [double]
        exact Nat.mul_lt_mul_of_pos_right (by omega) scale

/-- From one half on, and where there are fractions, the sum does not reach the next integer. -/
theorem roundSteps_lt_succ (fits : Representable w) (least : 2 ^ 53 * 2 ^ e ≤ w)
    (most : w < 2 ^ 106 * 2 ^ e) {n : Nat} (low : n * (2 ^ 54 * 2 ^ e) ≤ w + 2 ^ 53 * 2 ^ e)
    (high : w + 2 ^ 53 * 2 ^ e < (n + 1) * (2 ^ 54 * 2 ^ e)) :
    roundSteps (w + 2 ^ 53 * 2 ^ e) 1 < (n + 1) * (2 ^ 54 * 2 ^ e) := by
  have pos := Nat.two_pow_pos e
  obtain ⟨m, count, -, bits, -⟩ := Decimal.Interval.exists_significand fits (by omega)
  obtain ⟨i, j, places, sum⟩ : ∃ i j, i + lastPlace w = 53 + e ∧ i + j = 52 := by
    have some : w ≠ 0 := by omega
    have upper : w.log2 < 106 + e := (Nat.log2_lt some).2 (by rwa [Nat.pow_add])
    have lower : 53 + e ≤ w.log2 := (Nat.le_log2 some).2 (by rwa [Nat.pow_add])
    exact ⟨e + 53 - lastPlace w, lastPlace w - e - 1, by unfold lastPlace; omega,
      by unfold lastPlace; omega⟩
  generalize lastPlace w = a at *
  subst count
  have half : 2 ^ 53 * 2 ^ e = 2 ^ i * 2 ^ a := by rw [← Nat.pow_add, ← Nat.pow_add, places]
  have one : 2 ^ 54 * 2 ^ e = 2 * 2 ^ i * 2 ^ a := by rw [Nat.mul_assoc, ← half]; omega
  have reach : 2 ^ j * (2 * 2 ^ i) = 2 ^ 53 := by
    rw [← Nat.pow_succ', ← Nat.pow_add, Nat.add_succ, Nat.add_comm j, sum]
  rw [half, one, ← Nat.mul_assoc, ← Nat.add_mul] at low high ⊢
  exact roundSteps_lt_of_places bits (Nat.two_pow_pos i)
    (Nat.pow_le_pow_right Nat.two_pos (by omega)) reach
    (Nat.le_of_mul_le_mul_right low (Nat.two_pow_pos a)) (Nat.lt_of_mul_lt_mul_right high)

/-- An integer with all of the bits goes to its even neighbour. -/
theorem roundSteps_whole (least : 2 ^ 52 ≤ c) (most : c < 2 ^ 53) :
    roundSteps (c * (2 ^ 54 * 2 ^ e) + 2 ^ 53 * 2 ^ e) 1 = (c + c % 2) * (2 ^ 54 * 2 ^ e) := by
  have power : 2 ^ (e + 54) = 2 ^ 54 * 2 ^ e := by rw [Nat.add_comm, Nat.pow_add]
  have place : lastPlace ((c * (2 ^ 54 * 2 ^ e) + 2 ^ 53 * 2 ^ e) / 1) = e + 54 := by
    have lower := Nat.mul_le_mul_right (2 ^ 54 * 2 ^ e) least
    have upper := Nat.mul_le_mul_right (2 ^ 54 * 2 ^ e) most
    rw [Nat.succ_mul] at upper
    have pos := Nat.two_pow_pos e
    refine lastPlace_eq (fun _ => ?_) ?_ <;> rw [Nat.pow_add, power] <;> omega
  have even : (c + c % 2) % 2 = 0 := by omega
  have next : (c + c % 2) * (2 ^ 54 * 2 ^ e) = c * (2 ^ 54 * 2 ^ e) ∨
      (c + c % 2) * (2 ^ 54 * 2 ^ e) = c * (2 ^ 54 * 2 ^ e) + 2 ^ 54 * 2 ^ e := by
    rcases Nat.mod_two_eq_zero_or_one c with h | h <;> rw [h]
    · exact .inl rfl
    · exact .inr (Nat.succ_mul _ _)
  rw [roundSteps_eq (m := c + c % 2) place ?_ ?_ (fun _ => even) Nat.one_pos, power] <;>
    rw [power, Nat.one_mul] <;> omega

/-- What is larger than that is more than two halves away from its neighbours. -/
theorem roundSteps_large (fits : Representable w) (least : 2 ^ 107 * 2 ^ e ≤ w) :
    roundSteps (w + 2 ^ 53 * 2 ^ e) 1 = w := by
  have pos := Nat.two_pow_pos e
  have some : w ≠ 0 := by omega
  obtain ⟨m, count, -, bits, full⟩ := Decimal.Interval.exists_significand fits (by omega)
  obtain ⟨j, places⟩ : ∃ j, lastPlace w = e + 55 + j := by
    have lower : 107 + e ≤ w.log2 := (Nat.le_log2 some).2 (by rwa [Nat.pow_add])
    exact ⟨lastPlace w - (e + 55), by unfold lastPlace; omega⟩
  have coarse : 2 ^ 55 * 2 ^ e ≤ 2 ^ lastPlace w := by
    rw [places, ← Nat.pow_add, Nat.add_comm 55]
    exact Nat.pow_le_pow_right Nat.two_pos (Nat.le_add_right _ _)
  have same : lastPlace ((w + 2 ^ 53 * 2 ^ e) / 1) = lastPlace w := by
    have upper := Nat.mul_le_mul_right (2 ^ lastPlace w) bits
    rw [Nat.succ_mul, ← count] at upper
    have lower := Nat.mul_le_mul_right (2 ^ lastPlace w) (full (by omega))
    rw [← count] at lower
    refine lastPlace_eq (fun _ => ?_) ?_ <;> rw [Nat.pow_add] <;> omega
  have rounded := roundSteps_eq (m := m) same
  rw [Nat.one_mul, ← count] at rounded
  exact rounded (by omega) (by omega) (fun _ => by omega) Nat.one_pos

/-- The sum is a number. -/
theorem roundSteps_lt_overflowSteps (fits : Representable w) (unit : e = 1020) :
    roundSteps (w + 2 ^ 53 * 2 ^ e) 1 < overflowSteps := by
  rcases Nat.lt_or_ge w (2 ^ 107 * 2 ^ e) with small | large
  · have pos := Nat.two_pow_pos e
    have bound : w + 2 ^ 53 * 2 ^ e ≤ 1 * 2 ^ (108 + e) * 1 := by
      rw [Nat.pow_add]
      omega
    have power : Representable (1 * 2 ^ (108 + e)) :=
      (Nat.one_mul _).symm ▸ representable_two_pow (by omega)
    exact (roundSteps_le (by decide) bound Nat.one_pos).trans_lt power.lt_overflowSteps
  · rw [roundSteps_large fits large]
    exact fits.lt_overflowSteps

/-- From a certain size on there are no fractions. -/
theorem exists_whole (fits : Representable w) (least : 2 ^ 106 * 2 ^ e ≤ w) :
    ∃ c, w = c * (2 ^ 54 * 2 ^ e) := by
  have pos := Nat.two_pow_pos e
  have place : 54 + e ≤ lastPlace w := by
    have lower : 106 + e ≤ w.log2 := (Nat.le_log2 (by omega)).2 (by rwa [Nat.pow_add])
    unfold lastPlace
    omega
  obtain ⟨c, same⟩ := (Nat.pow_dvd_pow 2 place).trans (lastPlace_dvd fits)
  exact ⟨c, by rw [same, Nat.pow_add, Nat.mul_comm]⟩

/-- Apart from two kinds of numbers, the integer below the sum is the one below the exact sum. -/
theorem nearest_of_not_raised (fits : Representable w) (far : w + 2 ^ e ≠ 2 ^ 53 * 2 ^ e)
    (even : ∀ c, 2 ^ 52 ≤ c → c < 2 ^ 53 → w = c * (2 ^ 54 * 2 ^ e) → c % 2 = 0) :
    roundSteps (w + 2 ^ 53 * 2 ^ e) 1 / (2 ^ 54 * 2 ^ e) * (2 ^ 54 * 2 ^ e) ≤ w + 2 ^ 53 * 2 ^ e ∧
      w + 2 ^ 53 * 2 ^ e <
        (roundSteps (w + 2 ^ 53 * 2 ^ e) 1 / (2 ^ 54 * 2 ^ e) + 1) * (2 ^ 54 * 2 ^ e) := by
  have pos := Nat.two_pow_pos e
  have one : 0 < 2 ^ 54 * 2 ^ e := by omega
  rcases Nat.lt_or_ge w (2 ^ 53 * 2 ^ e) with small | least
  · rw [Nat.div_eq_of_lt (roundSteps_lt_one fits small far)]
    omega
  have power : 2 ^ 54 * 2 ^ e = 2 ^ (54 + e) := (Nat.pow_add 2 54 e).symm
  rcases Nat.lt_or_ge w (2 ^ 106 * 2 ^ e) with most | large
  · have low := Nat.div_mul_le_self (w + 2 ^ 53 * 2 ^ e) (2 ^ 54 * 2 ^ e)
    have high := Nat.lt_div_mul_add (a := w + 2 ^ 53 * 2 ^ e) one
    rw [← Nat.succ_mul] at high
    generalize (w + 2 ^ 53 * 2 ^ e) / (2 ^ 54 * 2 ^ e) = n at low high
    have bits : n ≤ 2 ^ 53 := Nat.le_of_mul_le_mul_right (low.trans (by omega)) one
    have least' : n * (2 ^ 54 * 2 ^ e) ≤ roundSteps (w + 2 ^ 53 * 2 ^ e) 1 := by
      rw [power] at low ⊢
      exact le_roundSteps bits (by rwa [Nat.mul_one]) Nat.one_pos
    rw [Nat.div_eq_of_lt_le least' (roundSteps_lt_succ fits least most low high)]
    exact ⟨low, high⟩
  · obtain ⟨c, rfl⟩ := exists_whole fits large
    have rounded : roundSteps (c * (2 ^ 54 * 2 ^ e) + 2 ^ 53 * 2 ^ e) 1 = c * (2 ^ 54 * 2 ^ e) := by
      rcases Nat.lt_or_ge c (2 ^ 53) with most | large'
      · have least' : 2 ^ 52 ≤ c := Nat.le_of_mul_le_mul_right (by omega) one
        rw [roundSteps_whole least' most, even c least' most rfl, Nat.add_zero]
      · exact roundSteps_large fits (by have := Nat.mul_le_mul_right (2 ^ 54 * 2 ^ e) large'; omega)
    rw [rounded, Nat.mul_div_cancel _ one, Nat.succ_mul]
    omega

end Sum

section

-- The power in the definition of one half is the one of the core library.
attribute [local instance (2000)] instPowNat

/-- The exponent of `half` by a name of its own, which keeps the power from being computed. -/
theorem exists_half : ∃ k : Nat, ∃ fits : Representable (2 ^ k), k = 1073 ∧
    half = .finite false (2 ^ k) fits :=
  ⟨_, _, rfl, rfl⟩

end

/-- The unit in which the number next below one half is told from it. -/
theorem exists_unit : ∃ e : Nat, e = 1020 ∧ oneSteps = 2 ^ 54 * 2 ^ e ∧
    ∃ fits, half = .finite false (2 ^ 53 * 2 ^ e) fits := by
  obtain ⟨one, value, steps⟩ := exists_oneSteps
  obtain ⟨k, fits, exponent, same⟩ := exists_half
  have above : 53 + (k - 53) = k := by omega
  have double : one = 54 + (k - 53) := by omega
  refine ⟨k - 53, by omega, ?_, ?_⟩
  · rw [steps, ← Nat.pow_add, ← double]
  · rw [← Nat.pow_add, above]
    exact ⟨fits, same⟩

/-- Of a sum that is a number the fraction is dropped. -/
theorem roundAway_of_add_half {s : Bool} {w u : Nat} {fits : Representable w}
    {fits' : Representable u}
    (sum : (finite s w fits).abs + half = .finite false u fits')
    (whole : Representable (u / oneSteps * oneSteps)) :
    (finite s w fits).roundAway = .ok (.finite s (u / oneSteps * oneSteps) whole) := by
  rw [roundAway, sum, isFinite, if_pos rfl, wholePart, ofNat_eq whole, withSign]

/-- A half is added, and the fraction of the sum is dropped. -/
theorem roundAway_finite {e : Nat} (unit : e = 1020) (one : oneSteps = 2 ^ 54 * 2 ^ e)
    (half' : ∃ fits, half = .finite false (2 ^ 53 * 2 ^ e) fits) (s : Bool) {w : Nat}
    (fits : Representable w) :
    ∃ fits', (finite s w fits).roundAway =
      .ok (.finite s (roundSteps (w + 2 ^ 53 * 2 ^ e) 1 / oneSteps * oneSteps) fits') := by
  obtain ⟨fitsHalf, same⟩ := half'
  have bound := roundSteps_lt_overflowSteps fits unit
  have sum : (finite s w fits).abs + half =
      .finite false (roundSteps (w + 2 ^ 53 * 2 ^ e) 1) (representable_roundSteps bound) := by
    rw [abs, withSign, same, add_finite_false, ofRatio, dif_pos bound]
  have power : oneSteps = 2 ^ (54 + e) := by rw [one, Nat.pow_add]
  have whole := (representable_roundSteps bound).whole (k := 54 + e) (by omega)
  rw [← power] at whole
  exact ⟨whole, roundAway_of_add_half sum whole⟩

/-! ## Which integer it is -/

/-- A half takes the number one too far: the number next below one half, and the odd integers that
have all of the bits. -/
def IsRaised (q : ℚ) : Prop :=
  |q| = 1 / 2 - 1 / 2 ^ 54 ∨ ∃ c : Nat, c % 2 = 1 ∧ 2 ^ 52 ≤ c ∧ c < 2 ^ 53 ∧ |q| = c

theorem isRaised_iff {e w : Nat} (one : oneSteps = 2 ^ 54 * 2 ^ e) {q : ℚ}
    (size : |q| = w / (oneSteps : Nat)) :
    IsRaised q ↔ w + 2 ^ e = 2 ^ 53 * 2 ^ e ∨
      ∃ c, c % 2 = 1 ∧ 2 ^ 52 ≤ c ∧ c < 2 ^ 53 ∧ w = c * oneSteps := by
  have pos := oneSteps_cast_pos
  have near : (w : ℚ) / (oneSteps : Nat) = 1 / 2 - 1 / 2 ^ 54 ↔ w + 2 ^ e = 2 ^ 53 * 2 ^ e := by
    have unit : ((oneSteps : Nat) : ℚ) = 2 ^ 54 * ((2 ^ e : Nat) : ℚ) := by
      rw [one, Nat.cast_mul, Nat.cast_pow, Nat.cast_ofNat]
    rw [div_eq_iff pos.ne', unit, ← Nat.cast_inj (R := ℚ), Nat.cast_add, Nat.cast_mul (2 ^ 53)]
    generalize ((2 ^ e : Nat) : ℚ) = t
    constructor <;> intro h
    · rw [h]
      push_cast
      ring
    · have := eq_sub_of_add_eq h
      rw [this]
      push_cast
      ring
  have whole (c : Nat) : (w : ℚ) / (oneSteps : Nat) = c ↔ w = c * oneSteps := by
    rw [div_eq_iff pos.ne', ← Nat.cast_mul, Nat.cast_inj]
  simp only [IsRaised, size, near, whole]

/-- A finite number has an integer. It is the one below the number and a half, unless the number is
raised: then it is one too large. -/
theorem exists_roundAway (s : Bool) {w : Nat} (fits : Representable w) {q : ℚ}
    (size : |q| = w / (oneSteps : Nat)) :
    ∃ n, ∃ fits' : Representable (n * oneSteps),
      (finite s w fits).roundAway = .ok (.finite s (n * oneSteps) fits') ∧
      (¬IsRaised q → 2 * (n * oneSteps) ≤ 2 * w + oneSteps ∧
        2 * w + oneSteps < 2 * ((n + 1) * oneSteps)) ∧
      (IsRaised q → 2 * w < oneSteps ∧ n = 1 ∨
        ∃ c, c % 2 = 1 ∧ 2 ^ 52 ≤ c ∧ w = c * oneSteps ∧ n = c + 1) := by
  obtain ⟨e, unit, one, half'⟩ := exists_unit
  have pos := Nat.two_pow_pos e
  obtain ⟨whole, rounded⟩ := roundAway_finite unit one half' s fits
  refine ⟨_, whole, rounded, ?_, ?_⟩ <;> rw [isRaised_iff one size, one]
  · intro not
    obtain ⟨far, odd⟩ := not_or.1 not
    have even : ∀ c, 2 ^ 52 ≤ c → c < 2 ^ 53 → w = c * (2 ^ 54 * 2 ^ e) → c % 2 = 0 := by
      intro c least most same
      by_contra h
      exact odd ⟨c, by omega, least, most, same⟩
    obtain ⟨low, high⟩ := nearest_of_not_raised fits far even
    omega
  · rintro (near | ⟨c, odd, least, most, rfl⟩)
    · rw [roundSteps_near_half near, Nat.div_self (by omega)]
      exact .inl ⟨by omega, rfl⟩
    · rw [roundSteps_whole least most, odd, Nat.mul_div_cancel _ (by omega)]
      exact .inr ⟨c, odd, least, rfl, rfl⟩

end Formwork.Binary64
