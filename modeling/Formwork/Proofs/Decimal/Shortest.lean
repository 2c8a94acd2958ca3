import Formwork.Proofs.Decimal.Interval

/-!
# The shortest decimal reads back

`Decimal.shortest u` goes down from the grid of `startExponent u`. A hit lies in the rounding
interval of `u` (`holds_of_hit?`), so it reads back as `u` wherever it is found. That one is found
is a matter of sizes: on a grid whose spacing is a quarter of the last place of `u`, the neighbour
below `u` is a hit (`hit?_isSome_of_fine`), and the last grid of the search is as fine as that
(`fine_lastGrid`).

The bounds on powers of ten are crude, three bits and a third to a digit. The search leaves
seventeen bits to spare.
-/

set_option autoImplicit false

namespace Formwork.Decimal

/-! ## Grids -/

theorem oneSteps_pos : 0 < oneSteps := by
  obtain ⟨one, -, hone⟩ := exists_oneSteps
  exact hone ▸ Nat.two_pow_pos one

theorem onGrid_pos (g : Int) : 0 < (onGrid 1 g).1 ∧ 0 < (onGrid 1 g).2 := by
  unfold onGrid
  split
  · simpa using oneSteps_pos
  · simpa using oneSteps_pos

theorem onGrid_eq (u : Nat) (g : Int) : onGrid u g = (u * (onGrid 1 g).1, (onGrid 1 g).2) := by
  unfold onGrid
  split <;> simp

/-! ## Hits -/

section Hits

variable {u d : Nat} {i : Interval} {g : Int}

/-- A hit lies in the interval. -/
theorem holds_of_hit? (h : hit? u i g = some d) : i.holds d g = true := by
  unfold hit? at h
  dsimp only at h
  split at h
  next below above =>
    obtain rfl := Option.some.inj h
    have low := le_roundHalfEven (onGrid u g).1 (onGrid u g).2
    have high := roundHalfEven_le (onGrid u g).1 (onGrid u g).2
    rcases Nat.le_or_eq_of_le_succ high with le | eq
    · rwa [Nat.le_antisymm le low]
    · rwa [eq]
  next below _ =>
    obtain rfl := Option.some.inj h
    exact below
  next _ above =>
    obtain rfl := Option.some.inj h
    exact above
  next => exact absurd h (by simp)

/-- Is the spacing of the grid at most a quarter of the last place of `u`? -/
def IsFine (u : Nat) (g : Int) : Prop := 4 * (onGrid 1 g).2 ≤ 2 ^ lastPlace u * (onGrid 1 g).1

/-- The bounds of an interval keep a quarter of the last place away from the number. -/
theorem Interval.around_low_le (u : Nat) : (Interval.around u).low ≤ 4 * u - 2 ^ lastPlace u := by
  by_cases edge : 0 < lastPlace u ∧ u = 2 ^ (52 + lastPlace u)
  · exact (around_low_of_eq edge).le
  · rw [around_low_of_ne edge]
    omega

/-- On a fine grid the neighbour below the number is a hit. -/
theorem hit?_isSome_of_fine (fits : Representable u) (pos : 0 < u) (fine : IsFine u g) :
    (hit? u (Interval.around u) g).isSome = true := by
  have below : (Interval.around u).holds ((onGrid u g).1 / (onGrid u g).2) g = true := by
    obtain ⟨hscale, hden⟩ := onGrid_pos g
    rw [Interval.holds_iff, onGrid_eq u g]
    unfold IsFine at fine
    dsimp only
    generalize (onGrid 1 g).1 = scale at *
    generalize (onGrid 1 g).2 = den at *
    have split := Nat.div_add_mod (u * scale) den
    have rest := Nat.mod_lt (u * scale) hden
    rw [Nat.mul_comm] at split
    have low := Nat.mul_le_mul_right scale (Interval.around_low_le u)
    have high : (Interval.around u).high * scale =
        4 * (u * scale) + 2 * (2 ^ lastPlace u * scale) := by
      rw [Interval.around_high]
      ring
    have gap : 2 ^ lastPlace u * scale ≤ u * scale :=
      Nat.mul_le_mul_right scale (Nat.le_of_dvd pos (lastPlace_dvd fits))
    rw [Nat.sub_mul, Nat.mul_assoc] at low
    unfold Interval.Contains
    split
    · exact ⟨by omega, by omega⟩
    · exact ⟨by omega, by omega⟩
  unfold hit?
  dsimp only
  split
  · rfl
  · rfl
  · rfl
  next none _ => exact absurd (below.symm.trans none) (by decide)

/-- A search that comes past a hit ends with one. -/
theorem hit?_firstHit (tries : Nat) (i : Interval)
    (reach : ∃ k, k < tries ∧ (hit? u i (g - k)).isSome = true) :
    hit? u i (firstHit u i tries g).exponent = some (firstHit u i tries g).digits ∧
      g - tries < (firstHit u i tries g).exponent ∧ (firstHit u i tries g).exponent ≤ g := by
  induction tries generalizing g with
  | zero =>
    obtain ⟨k, hk, -⟩ := reach
    exact absurd hk (Nat.not_lt_zero k)
  | succ tries ih =>
    unfold firstHit
    split
    next d found => exact ⟨found, by push_cast; omega, Int.le_refl g⟩
    next missed =>
      obtain ⟨k, hk, found⟩ := reach
      cases k with
      | zero => simp [missed] at found
      | succ k =>
        have moved : g - (k + 1 : Nat) = g - 1 - k := by push_cast; omega
        obtain ⟨hit, low, high⟩ := ih ⟨k, by omega, moved ▸ found⟩
        exact ⟨hit, by push_cast; omega, by omega⟩

end Hits

/-! ## The last grid is fine -/

/-- Three bits and a third to a digit, rounded up. -/
theorem ten_pow_le (n : Nat) : 10 ^ n ≤ 2 ^ (10 * (n / 3 + 1)) := by
  calc 10 ^ n ≤ 10 ^ (3 * (n / 3 + 1)) := Nat.pow_le_pow_right (by decide) (by omega)
    _ = (10 ^ 3) ^ (n / 3 + 1) := Nat.pow_mul ..
    _ ≤ (2 ^ 10) ^ (n / 3 + 1) := Nat.pow_le_pow_left (by decide) _
    _ = 2 ^ (10 * (n / 3 + 1)) := (Nat.pow_mul ..).symm

/-- Three bits and three tenths to a digit, rounded down. -/
theorem le_ten_pow (n : Nat) : 2 ^ (33 * (n / 10) + 3 * (n % 10)) ≤ 10 ^ n := by
  calc 2 ^ (33 * (n / 10) + 3 * (n % 10)) = (2 ^ 33) ^ (n / 10) * (2 ^ 3) ^ (n % 10) := by
        rw [Nat.pow_add, Nat.pow_mul, Nat.pow_mul]
    _ ≤ (10 ^ 10) ^ (n / 10) * 10 ^ (n % 10) :=
        Nat.mul_le_mul (Nat.pow_le_pow_left (by decide) _) (Nat.pow_le_pow_left (by decide) _)
    _ = 10 ^ n := by rw [← Nat.pow_mul, ← Nat.pow_add, Nat.div_add_mod]

/-- The number of bits of a finite number. -/
theorem log2_le {u : Nat} (fits : Representable u) (pos : 0 < u) : u.log2 ≤ 2097 := by
  have := (Nat.log2_lt pos.ne').2 fits.lt_overflowSteps
  omega

theorem startExponent_eq (u : Nat) :
    startExponent u = ((u.log2 : Int) - 1073) * 30103 / 100000 + 1 := by
  unfold startExponent
  rw [Int.fdiv_eq_ediv_of_nonneg _ (by decide)]

theorem startExponent_bounds {u : Nat} (fits : Representable u) (pos : 0 < u) :
    -323 ≤ startExponent u ∧ startExponent u ≤ 309 := by
  have := log2_le fits pos
  rw [startExponent_eq]
  omega

/-- A power of ten in steps, against a last place. -/
private theorem coarse_fine {one n place : Nat} (room : 2 + one + 10 * (n / 3 + 1) ≤ place) :
    4 * (2 ^ one * 10 ^ n) ≤ 2 ^ place * 1 := by
  have four : 4 = 2 ^ 2 := rfl
  rw [four]
  calc 2 ^ 2 * (2 ^ one * 10 ^ n) ≤ 2 ^ 2 * (2 ^ one * 2 ^ (10 * (n / 3 + 1))) :=
        Nat.mul_le_mul_left _ (Nat.mul_le_mul_left _ (ten_pow_le n))
    _ = 2 ^ (2 + one + 10 * (n / 3 + 1)) := by rw [← Nat.mul_assoc, ← Nat.pow_add, ← Nat.pow_add]
    _ ≤ 2 ^ place * 1 := by
        rw [Nat.mul_one]
        exact Nat.pow_le_pow_right (by decide) room

/-- The same for a power of ten below one. -/
private theorem fine_fine {one n place : Nat}
    (room : 2 + one ≤ place + (33 * (n / 10) + 3 * (n % 10))) :
    4 * 2 ^ one ≤ 2 ^ place * (1 * 10 ^ n) := by
  have four : 4 = 2 ^ 2 := rfl
  rw [four]
  calc 2 ^ 2 * 2 ^ one = 2 ^ (2 + one) := (Nat.pow_add ..).symm
    _ ≤ 2 ^ (place + (33 * (n / 10) + 3 * (n % 10))) := Nat.pow_le_pow_right (by decide) room
    _ = 2 ^ place * 2 ^ (33 * (n / 10) + 3 * (n % 10)) := Nat.pow_add ..
    _ ≤ 2 ^ place * (1 * 10 ^ n) := by
        rw [Nat.one_mul]
        exact Nat.mul_le_mul_left _ (le_ten_pow n)

/-- The last grid of the search is fine. -/
theorem fine_lastGrid {u : Nat} (fits : Representable u) (pos : 0 < u) :
    IsFine u (startExponent u - 23) := by
  obtain ⟨one, eq, hone⟩ := exists_oneSteps
  have bits := log2_le fits pos
  unfold IsFine onGrid lastPlace
  rw [startExponent_eq, hone]
  split
  next nonneg => exact coarse_fine (by omega)
  next negative => exact fine_fine (by omega)

/-! ## The decimal that is chosen -/

section Shortest

variable {u : Nat}

/-- A decimal that reads as `u` steps: it lies in the rounding interval, and its exponent is one
that the format has. -/
structure ReadsAs (d : Decimal) (u : Nat) : Prop where
  contains :
    (Interval.around u).Contains (d.digits * (onGrid 1 d.exponent).2) (onGrid 1 d.exponent).1
  least : -346 ≤ d.exponent
  most : d.exponent ≤ 309

/-- The shortest decimal reads back. -/
theorem readsAs_shortest (fits : Representable u) (pos : 0 < u) : (shortest u).ReadsAs u := by
  unfold shortest
  rw [if_neg pos.ne']
  have bounds := startExponent_bounds fits pos
  obtain ⟨hit, low, high⟩ := hit?_firstHit 24 (Interval.around u) (g := startExponent u)
    ⟨23, by decide, hit?_isSome_of_fine fits pos (fine_lastGrid fits pos)⟩
  exact ⟨Interval.holds_iff.1 (holds_of_hit? hit), by push_cast at low; omega, by omega⟩

namespace ReadsAs

variable {d : Decimal}

/-- A decimal that reads as a positive number has a digit other than zero. -/
theorem digits_pos (h : d.ReadsAs u) (fits : Representable u) (pos : 0 < u) : 0 < d.digits := by
  obtain ⟨hscale, -⟩ := onGrid_pos d.exponent
  have low := h.contains.le.1
  have gap := Nat.le_of_dvd pos (lastPlace_dvd fits)
  have lowPos : 0 < (Interval.around u).low := by
    have place := Nat.two_pow_pos (lastPlace u)
    by_cases edge : 0 < lastPlace u ∧ u = 2 ^ (52 + lastPlace u)
    · rw [Interval.around_low_of_eq edge]
      omega
    · rw [Interval.around_low_of_ne edge]
      omega
  rcases Nat.eq_zero_or_pos d.digits with zero | digit
  · have := Nat.mul_pos lowPos hscale
    rw [zero, Nat.zero_mul] at low
    omega
  · exact digit

/-- The digits of a decimal on a grid, from bounds on the number and on the grid. -/
private theorem length_digits_le {digits scale den steps gap k e : Nat} (hden : 0 < den)
    (reach : 4 * (digits * den) ≤ (4 * steps + 2 * gap) * scale) (hgap : gap ≤ steps)
    (hscale : scale ≤ 10 ^ e) (hsteps : steps < 2 ^ (3 * k)) :
    (Nat.toDigits 10 digits).length ≤ k + e + 1 := by
  have bits : 2 ^ (3 * k) ≤ 10 ^ k := by
    rw [Nat.pow_mul]
    exact Nat.pow_le_pow_left (by decide) k
  have whole : digits ≤ digits * den := Nat.le_mul_of_pos_right _ hden
  have high : (4 * steps + 2 * gap) * scale ≤ 6 * (steps * scale) := by
    rw [← Nat.mul_assoc]
    exact Nat.mul_le_mul_right scale (by omega)
  have product : steps * scale ≤ 10 ^ k * 10 ^ e := Nat.mul_le_mul (by omega) hscale
  rw [← Nat.pow_add] at product
  have last : 10 ^ (k + e + 1) = 10 ^ (k + e) * 10 := Nat.pow_succ ..
  have room : 0 < 10 ^ (k + e) := Nat.pow_pos (by decide)
  rw [Nat.length_toDigits_le_iff (by decide) (by omega)]
  omega

/-- A decimal that reads as a finite number has at most 1047 digits. -/
theorem length_digits (h : d.ReadsAs u) (fits : Representable u) (pos : 0 < u) :
    (Nat.toDigits 10 d.digits).length ≤ 1047 := by
  have least := h.least
  -- Names for the exponents keep the powers from being computed.
  obtain ⟨k, e, hk, he⟩ : ∃ k e, k = 700 ∧ e = 346 := ⟨_, _, rfl, rfl⟩
  refine Nat.le_trans (length_digits_le (k := k) (e := e) (onGrid_pos d.exponent).2
    h.contains.le.2 (Nat.le_of_dvd pos (lastPlace_dvd fits)) ?_ (fits.lt_two_pow (by omega)))
    (by omega)
  unfold onGrid
  split
  · exact Nat.one_le_pow _ _ (by decide)
  · rw [Nat.one_mul]
    exact Nat.pow_le_pow_right (by decide) (by omega)

/-- Such a decimal is read as the number. -/
theorem ofDecimal (h : d.ReadsAs u) (negative : Bool) (fits : Representable u) (pos : 0 < u) :
    Binary64.ofDecimal negative d.digits d.exponent = .finite negative u fits := by
  have digit := (h.digits_pos fits pos).ne'
  have contains := h.contains
  have least := h.least
  have most := h.most
  unfold Binary64.ofDecimal Binary64.overflowExponent
  rw [if_neg digit, if_neg (by omega), if_neg (by push_cast; omega)]
  unfold onGrid at contains
  split at contains
  next nonneg =>
    rw [if_pos nonneg]
    dsimp only at contains
    rw [Nat.mul_comm oneSteps, ← Nat.mul_assoc] at contains
    exact Binary64.ofRatio_of_contains negative fits pos Nat.one_pos contains
  next neg =>
    rw [if_neg neg]
    dsimp only at contains
    rw [Nat.one_mul] at contains
    exact Binary64.ofRatio_of_contains negative fits pos (Nat.pow_pos (by decide)) contains

/-- The same decimal with its zeros written out and one digit after the point. -/
theorem expanded (h : d.ReadsAs u) (nonneg : 0 ≤ d.exponent) :
    ReadsAs ⟨d.digits * 10 ^ (d.exponent.toNat + 1), -1⟩ u where
  contains := by
    have contains := h.contains
    unfold onGrid at contains ⊢
    rw [if_pos nonneg] at contains
    rw [if_neg (by simp)]
    refine Interval.Contains.congr Nat.one_pos (by simp) ?_ contains
    have one : (- -1 : Int).toNat = 1 := rfl
    dsimp only
    rw [Nat.pow_succ, one]
    ring
  least := show (-346 : Int) ≤ -1 by decide
  most := show (-1 : Int) ≤ 309 by decide

end ReadsAs

end Shortest

end Formwork.Decimal
