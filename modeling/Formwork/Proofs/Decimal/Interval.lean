import Formwork.Decimal.Shortest
import Mathlib.Tactic.Linarith
import Mathlib.Tactic.Ring

/-!
# What rounds to a number

`Interval.around u` is where the search for a short decimal looks. Here the interval is tied to
the rounding that reads a decimal: a quotient of steps that the interval contains is rounded to
`u` (`roundSteps_of_contains`), so every decimal that the search accepts reads back as the number
it was chosen for (`ofRatio_of_contains`).

The interval is not symmetric. Below a power of two the numbers are twice as dense, so there the
quotient is rounded on a finer grid than above, and the significand comes out as `2 ^ 53` instead
of `2 ^ 52`. That is the only case split of the main proof.
-/

set_option autoImplicit false

namespace Formwork

/-! ## Rounding a quotient -/

/-- A quotient within half a unit of `m` is rounded to `m`; on the boundary, if `m` is even. -/
theorem roundHalfEven_eq {num den m : Nat} (low : 2 * (m * den) ≤ 2 * num + den)
    (high : 2 * num ≤ 2 * (m * den) + den)
    (tie : 2 * (m * den) = 2 * num + den ∨ 2 * num = 2 * (m * den) + den → m % 2 = 0)
    (pos : 0 < den) : roundHalfEven num den = m := by
  have split := Nat.div_add_mod num den
  have rest := Nat.mod_lt num pos
  rw [Nat.mul_comm] at split
  unfold roundHalfEven
  dsimp only
  generalize num / den = q at *
  generalize num % den = r at *
  rcases Nat.lt_trichotomy m q with below | rfl | above
  · have : (m + 1) * den ≤ q * den := Nat.mul_le_mul_right den below
    rw [Nat.add_mul] at this
    omega
  · split_ifs with h₁ h₂
    · rfl
    · omega
    · have := tie (.inr (by omega))
      omega
  · have : (q + 1) * den ≤ m * den := Nat.mul_le_mul_right den above
    have edge : m = q + 1 := by
      by_contra ne
      have : (q + 2) * den ≤ m * den := Nat.mul_le_mul_right den (by omega)
      rw [Nat.add_mul] at this
      omega
    subst edge
    rw [Nat.add_mul] at low high tie
    split_ifs with h₁ h₂
    · omega
    · rfl
    · have := tie (.inl (by omega))
      omega

/-- A step count that binary64 holds is a whole number of its last places. -/
theorem lastPlace_dvd {u : Nat} (fits : Representable u) : 2 ^ lastPlace u ∣ u := by
  obtain ⟨m, k, hm, _, rfl⟩ := fits
  rcases Nat.eq_zero_or_pos m with rfl | pos
  · simp
  · refine Dvd.dvd.mul_left (Nat.pow_dvd_pow 2 ?_) m
    have bits : (m * 2 ^ k).log2 < 53 + k := by
      rw [Nat.log2_lt (Nat.mul_ne_zero pos.ne' (Nat.two_pow_pos k).ne'), Nat.pow_add]
      exact Nat.mul_lt_mul_of_pos_right hm (Nat.two_pow_pos k)
    unfold lastPlace
    omega

/-- The last place of a count with one bit more than `52 + place` bits. -/
theorem lastPlace_eq {q place : Nat} (low : 0 < place → 2 ^ (52 + place) ≤ q)
    (high : q < 2 ^ (53 + place)) : lastPlace q = place := by
  unfold lastPlace
  rcases Nat.eq_zero_or_pos q with rfl | pos
  · rcases Nat.eq_zero_or_pos place with rfl | h
    · rfl
    · exact absurd (low h) (by simp)
  · have below := (Nat.log2_lt pos.ne').2 high
    rcases Nat.eq_zero_or_pos place with rfl | h
    · omega
    · have above := (Nat.le_log2 pos.ne').2 (low h)
      omega

/-- Rounding to a grid whose place is known. -/
theorem roundSteps_eq {num den place m : Nat} (hplace : lastPlace (num / den) = place)
    (low : 2 * (m * (den * 2 ^ place)) ≤ 2 * num + den * 2 ^ place)
    (high : 2 * num ≤ 2 * (m * (den * 2 ^ place)) + den * 2 ^ place)
    (tie : 2 * (m * (den * 2 ^ place)) = 2 * num + den * 2 ^ place ∨
      2 * num = 2 * (m * (den * 2 ^ place)) + den * 2 ^ place → m % 2 = 0)
    (pos : 0 < den) : roundSteps num den = m * 2 ^ place := by
  unfold roundSteps
  dsimp only
  rw [hplace, roundHalfEven_eq low high tie (Nat.mul_pos pos (Nat.two_pow_pos place))]

namespace Decimal.Interval

/-- The quotient `num / den`, counted in steps, lies in the interval. -/
def Contains (i : Interval) (num den : Nat) : Prop :=
  if i.closed then i.low * den ≤ 4 * num ∧ 4 * num ≤ i.high * den
  else i.low * den < 4 * num ∧ 4 * num < i.high * den

theorem holds_iff {i : Interval} {d : Nat} {g : Int} :
    i.holds d g = true ↔ i.Contains (d * (onGrid 1 g).2) (onGrid 1 g).1 := by
  unfold holds Contains
  dsimp only
  rw [Nat.mul_assoc]
  split <;> simp

theorem Contains.le {i : Interval} {num den : Nat} (h : i.Contains num den) :
    i.low * den ≤ 4 * num ∧ 4 * num ≤ i.high * den := by
  unfold Contains at h
  split at h
  · exact h
  · exact ⟨h.1.le, h.2.le⟩

/-- A bound that is reached belongs to the interval, which is then closed. -/
theorem Contains.closed {i : Interval} {num den : Nat} (h : i.Contains num den)
    (edge : i.low * den = 4 * num ∨ 4 * num = i.high * den) : i.closed = true := by
  unfold Contains at h
  split at h
  · assumption
  · omega

/-- Comparing a quotient with a bound depends on its value alone. -/
private theorem le_quotient_iff {num den num' den' : Nat} (pos : 0 < den) (pos' : 0 < den')
    (eq : num * den' = num' * den) (a : Nat) :
    (a * den ≤ 4 * num ↔ a * den' ≤ 4 * num') ∧ (4 * num ≤ a * den ↔ 4 * num' ≤ a * den') := by
  have left : a * den * den' = a * den' * den := Nat.mul_right_comm ..
  have right : 4 * num * den' = 4 * num' * den := by rw [Nat.mul_assoc, eq, Nat.mul_assoc]
  constructor
  · rw [← Nat.mul_le_mul_right_iff pos', left, right, Nat.mul_le_mul_right_iff pos]
  · rw [← Nat.mul_le_mul_right_iff pos', left, right, Nat.mul_le_mul_right_iff pos]

/-- What an interval contains depends on the value of the quotient alone. -/
theorem Contains.congr {i : Interval} {num den num' den' : Nat} (pos : 0 < den) (pos' : 0 < den')
    (eq : num * den' = num' * den) (h : i.Contains num den) : i.Contains num' den' := by
  have low := le_quotient_iff pos pos' eq i.low
  have high := le_quotient_iff pos pos' eq i.high
  unfold Contains at h ⊢
  split_ifs at h ⊢
  · exact ⟨low.1.1 h.1, high.2.1 h.2⟩
  · rw [← Nat.not_le, low.2, Nat.not_le, ← Nat.not_le (a := i.high * den), high.1, Nat.not_le] at h
    exact h

/-! ## The interval around a number -/

section Around

variable {u : Nat}

theorem around_high (u : Nat) : (around u).high = 4 * u + 2 * 2 ^ lastPlace u := rfl

/-- Away from the powers of two the interval is symmetric. -/
theorem around_low_of_ne (h : ¬(0 < lastPlace u ∧ u = 2 ^ (52 + lastPlace u))) :
    (around u).low = 4 * u - 2 * 2 ^ lastPlace u := if_neg h

theorem around_low_of_eq (h : 0 < lastPlace u ∧ u = 2 ^ (52 + lastPlace u)) :
    (around u).low = 4 * u - 2 ^ lastPlace u := if_pos h

theorem around_closed_iff (u : Nat) :
    (around u).closed = true ↔ u / 2 ^ lastPlace u % 2 = 0 := by
  simp only [around, beq_iff_eq]

/-- The significand of a positive step count: at most 53 bits, all of them used where places are
dropped. -/
theorem exists_significand (fits : Representable u) (pos : 0 < u) :
    ∃ m, u = m * 2 ^ lastPlace u ∧ 0 < m ∧ m < 2 ^ 53 ∧ (0 < lastPlace u → 2 ^ 52 ≤ m) := by
  have whole := Nat.div_mul_cancel (lastPlace_dvd fits)
  refine ⟨u / 2 ^ lastPlace u, whole.symm, ?_, div_lastPlace_lt u, le_div_lastPlace⟩
  rcases Nat.eq_zero_or_pos (u / 2 ^ lastPlace u) with h | h
  · rw [h, Nat.zero_mul] at whole
    omega
  · exact h

/-- Half a place around a significand, in the quarter steps of the interval. -/
private theorem roundSteps_symmetric {num den m place : Nat} (hden : 0 < den)
    (small : m < 2 ^ 53) (full : 0 < place → 2 ^ 52 * (den * 2 ^ place) ≤ num)
    (low : 2 * (m * (den * 2 ^ place)) ≤ 2 * num + den * 2 ^ place)
    (high : 2 * num ≤ 2 * (m * (den * 2 ^ place)) + den * 2 ^ place)
    (tie : 2 * (m * (den * 2 ^ place)) = 2 * num + den * 2 ^ place ∨
      2 * num = 2 * (m * (den * 2 ^ place)) + den * 2 ^ place → m % 2 = 0) :
    roundSteps num den = m * 2 ^ place := by
  have unit : 0 < den * 2 ^ place := Nat.mul_pos hden (Nat.two_pow_pos place)
  refine roundSteps_eq (lastPlace_eq (fun h => ?_) ?_) low high tie hden
  · rw [Nat.le_div_iff_mul_le hden, Nat.pow_add, Nat.mul_assoc, Nat.mul_comm (2 ^ place)]
    exact full h
  · rw [Nat.div_lt_iff_lt_mul hden, Nat.pow_add, Nat.mul_assoc, Nat.mul_comm (2 ^ place)]
    have : (m + 1) * (den * 2 ^ place) ≤ 2 ^ 53 * (den * 2 ^ place) :=
      Nat.mul_le_mul_right _ small
    rw [Nat.add_mul] at this
    omega

/-- Every quotient in the interval around a number is rounded to the number. -/
theorem roundSteps_of_contains {num den : Nat} (fits : Representable u) (pos : 0 < u)
    (hden : 0 < den) (h : (around u).Contains num den) : roundSteps num den = u := by
  obtain ⟨m, hm, mpos, small, full⟩ := exists_significand fits pos
  have even (edge : (around u).low * den = 4 * num ∨ 4 * num = (around u).high * den) :
      m % 2 = 0 := by
    have hc := (around_closed_iff u).1 (h.closed edge)
    rwa [Nat.div_eq_of_eq_mul_left (Nat.two_pow_pos _) hm] at hc
  have inside := h.le
  rw [around_high] at inside even
  -- everything is compared in units of the last place, `unit / den` steps
  have count : u * den = m * (den * 2 ^ lastPlace u) := by
    rw [Nat.mul_comm den, ← Nat.mul_assoc, ← hm]
  have gap : 2 ^ lastPlace u * den = den * 2 ^ lastPlace u := Nat.mul_comm ..
  have whole : den * 2 ^ lastPlace u ≤ m * (den * 2 ^ lastPlace u) := Nat.le_mul_of_pos_left _ mpos
  rw [Nat.add_mul, Nat.mul_assoc, Nat.mul_assoc, count, gap] at inside even
  by_cases edge : 0 < lastPlace u ∧ u = 2 ^ (52 + lastPlace u)
  · have hm52 : m = 2 ^ 52 := by
      rw [Nat.pow_add] at edge
      exact Nat.eq_of_mul_eq_mul_right (Nat.two_pow_pos _) (hm.symm.trans edge.2)
    obtain ⟨place, hplace⟩ : ∃ place, lastPlace u = place + 1 :=
      ⟨lastPlace u - 1, by omega⟩
    rw [around_low_of_eq edge, Nat.sub_mul, Nat.mul_assoc, count, gap] at inside
    rcases Nat.lt_or_ge num (2 ^ 52 * (den * 2 ^ lastPlace u)) with below | above
    · -- below a power of two the grid is twice as fine
      have finer : den * 2 ^ lastPlace u = 2 * (den * 2 ^ place) := by
        rw [hplace, Nat.pow_succ]
        ring
      rw [hm52, finer] at inside
      rw [finer] at below
      have rounded : roundSteps num den = 2 ^ 53 * 2 ^ place := by
        refine roundSteps_eq (lastPlace_eq (fun _ => ?_) ?_) (by omega) (by omega)
          (fun _ => by decide) hden
        · rw [Nat.le_div_iff_mul_le hden, Nat.pow_add, Nat.mul_assoc, Nat.mul_comm (2 ^ place)]
          omega
        · rw [Nat.div_lt_iff_lt_mul hden, Nat.pow_add, Nat.mul_assoc, Nat.mul_comm (2 ^ place)]
          omega
      rw [rounded, hm, hm52, hplace, Nat.pow_succ]
      ring
    · rw [roundSteps_symmetric hden small (fun _ => above)
        (by omega) (by omega) (fun _ => by omega), ← hm]
  · rw [around_low_of_ne edge, Nat.sub_mul, Nat.mul_assoc, Nat.mul_assoc, count, gap] at inside even
    refine (roundSteps_symmetric hden small (fun hpos => ?_) ?_ ?_ ?_).trans hm.symm
    · have : 2 ^ 52 + 1 ≤ m := by
        have := full hpos
        have ne : m ≠ 2 ^ 52 := fun e => edge ⟨hpos, by rw [Nat.pow_add, ← e, ← hm]⟩
        omega
      have := Nat.mul_le_mul_right (den * 2 ^ lastPlace u) this
      rw [Nat.add_mul] at this
      omega
    · omega
    · omega
    · intro tie
      exact even (by omega)

end Around

end Decimal.Interval

/-- Every quotient in the interval around a number reads as the number. -/
theorem Binary64.ofRatio_of_contains {u num den : Nat} (negative : Bool) (fits : Representable u)
    (pos : 0 < u) (hden : 0 < den) (h : (Decimal.Interval.around u).Contains num den) :
    ofRatio negative num den = .finite negative u fits := by
  have rounded := Decimal.Interval.roundSteps_of_contains fits pos hden h
  unfold ofRatio
  rw [dif_pos (by rw [rounded]; exact fits.lt_overflowSteps)]
  simp only [rounded]

end Formwork
