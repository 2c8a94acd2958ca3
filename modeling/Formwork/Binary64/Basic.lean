/-!
# Binary64 numbers as exact counts of one smallest step

Every finite binary64 number is a whole multiple of `2 ^ -1074`. A number is therefore held
here as a sign and a natural number of such steps, and each operation is an exact operation on
natural numbers followed by one rounding (`Binary64.ofRatio`): to nearest, a tie to the even
neighbour, beyond the largest number to an infinity.

The invariant that a step count fits the format (`Representable`) is part of the type, so a
finite value denotes a binary64 number by construction, and two finite values are equal exactly
when they have the same sign and the same step count. The sign of zero is kept; there is one NaN.
-/

set_option autoImplicit false

namespace Formwork

-- A power of a natural number is the one of the core library, whatever else is imported.
attribute [local instance (2000)] instPowNat

/-- The value of a quotient rounded to the nearest natural number, a tie going to the even
one. -/
def roundHalfEven (num den : Nat) : Nat :=
  let q := num / den
  let r := num % den
  if 2 * r < den then q
  else if den < 2 * r then q + 1
  else q + q % 2

theorem le_roundHalfEven (num den : Nat) : num / den ≤ roundHalfEven num den := by
  unfold roundHalfEven
  dsimp only
  split
  · exact Nat.le_refl _
  · split <;> omega

theorem roundHalfEven_le (num den : Nat) : roundHalfEven num den ≤ num / den + 1 := by
  unfold roundHalfEven
  dsimp only
  split
  · omega
  · split <;> omega

/-- A step count that binary64 holds: at most 53 significant bits, below the overflow bound. -/
def Representable (u : Nat) : Prop :=
  ∃ m k : Nat, m < 2 ^ (53 : Nat) ∧ k ≤ 2045 ∧ u = m * 2 ^ k

/-- The first step count beyond every finite number, `2 ^ 1024` in steps of `2 ^ -1074`. -/
def overflowSteps : Nat := 2 ^ (2098 : Nat)

/-- The step count of the number one. -/
def oneSteps : Nat := 2 ^ (1074 : Nat)

theorem representable_zero : Representable 0 := ⟨0, 0, by decide, by decide, rfl⟩

theorem representable_two_pow {k : Nat} (h : k ≤ 2045) : Representable (2 ^ k) :=
  ⟨1, k, by decide, h, (Nat.one_mul _).symm⟩

theorem representable_oneSteps : Representable oneSteps := by
  unfold oneSteps
  exact @representable_two_pow 1074 (by decide)

/-- The exponent of `oneSteps` by a name of its own, which keeps the power from being computed. -/
theorem exists_oneSteps : ∃ one : Nat, one = 1074 ∧ oneSteps = 2 ^ one :=
  ⟨_, rfl, by rw [oneSteps]⟩

theorem Representable.lt_two_pow {u n : Nat} (h : Representable u) (hn : 2098 ≤ n) :
    u < 2 ^ n := by
  obtain ⟨m, k, hm, hk, rfl⟩ := h
  have bound : m * 2 ^ k < 2 ^ (53 : Nat) * 2 ^ k :=
    Nat.mul_lt_mul_of_pos_right hm (Nat.two_pow_pos k)
  rw [← Nat.pow_add] at bound
  exact Nat.lt_of_lt_of_le bound (Nat.pow_le_pow_right Nat.two_pos (by omega))

theorem Representable.lt_overflowSteps {u : Nat} (h : Representable u) : u < overflowSteps := by
  simpa only [overflowSteps] using h.lt_two_pow (Nat.le_refl 2098)

/-- The exponent of the last place that 53 significant bits of `q` leave. -/
def lastPlace (q : Nat) : Nat := q.log2 - 52

/-- The step count nearest to `num / den` steps among those with at most 53 significant bits. -/
def roundSteps (num den : Nat) : Nat :=
  let place := 2 ^ lastPlace (num / den)
  roundHalfEven num (den * place) * place

theorem lt_two_pow_log2_succ (q : Nat) : q < 2 ^ (q.log2 + 1) := Nat.lt_log2_self

/-- The significand before rounding has at most 53 bits. -/
theorem div_lastPlace_lt (q : Nat) : q / 2 ^ lastPlace q < 2 ^ (53 : Nat) := by
  rw [Nat.div_lt_iff_lt_mul (Nat.two_pow_pos _), ← Nat.pow_add]
  refine Nat.lt_of_lt_of_le (lt_two_pow_log2_succ q) (Nat.pow_le_pow_right (by decide) ?_)
  unfold lastPlace
  omega

/-- Where places are dropped, the significand has all of its 53 bits. -/
theorem le_div_lastPlace {q : Nat} (h : 0 < lastPlace q) :
    2 ^ (52 : Nat) ≤ q / 2 ^ lastPlace q := by
  have hlog : 52 < q.log2 := by unfold lastPlace at h; omega
  have hq : q ≠ 0 := by rintro rfl; simp at hlog
  rw [Nat.le_div_iff_mul_le (Nat.two_pow_pos _), ← Nat.pow_add]
  refine Nat.le_trans (Nat.pow_le_pow_right (by decide) ?_) (Nat.log2_self_le hq)
  unfold lastPlace
  omega

/-- A rounded step count below the overflow bound is one that binary64 holds. -/
theorem representable_roundSteps {num den : Nat} (h : roundSteps num den < overflowSteps) :
    Representable (roundSteps num den) := by
  have hq : num / (den * 2 ^ lastPlace (num / den)) = num / den / 2 ^ lastPlace (num / den) :=
    (Nat.div_div_eq_div_mul _ _ _).symm
  have hlt := div_lastPlace_lt (num / den)
  have hle := roundHalfEven_le num (den * 2 ^ lastPlace (num / den))
  have hge := le_roundHalfEven num (den * 2 ^ lastPlace (num / den))
  rw [hq] at hle hge
  have hplace : lastPlace (num / den) ≤ 2045 ∧
      (roundHalfEven num (den * 2 ^ lastPlace (num / den)) = 2 ^ (53 : Nat) →
        lastPlace (num / den) + 1 ≤ 2045) := by
    unfold roundSteps overflowSteps at h
    dsimp only at h
    constructor
    · rcases Nat.eq_zero_or_pos (lastPlace (num / den)) with h0 | hpos
      · omega
      · have h52 := Nat.le_trans (le_div_lastPlace hpos) hge
        have := Nat.lt_of_le_of_lt (Nat.mul_le_mul_right _ h52) h
        rw [← Nat.pow_add] at this
        have := (Nat.pow_lt_pow_iff_right (by decide)).mp this
        omega
    · intro h53
      rw [h53, ← Nat.pow_add] at h
      have := (Nat.pow_lt_pow_iff_right (by decide)).mp h
      omega
  rcases Nat.lt_or_ge (roundHalfEven num (den * 2 ^ lastPlace (num / den))) (2 ^ (53 : Nat))
    with hsmall | hbig
  · exact ⟨_, _, hsmall, hplace.1, rfl⟩
  · have h53 : roundHalfEven num (den * 2 ^ lastPlace (num / den)) = 2 ^ (53 : Nat) := by omega
    refine ⟨2 ^ (52 : Nat), lastPlace (num / den) + 1, by decide, hplace.2 h53, ?_⟩
    unfold roundSteps
    dsimp only
    rw [h53, ← Nat.pow_add, ← Nat.pow_add]
    congr 1
    omega

/-- A binary64 number: not a number, an infinity, or a signed count of steps of `2 ^ -1074`. -/
inductive Binary64 where
  | nan
  | infinite (negative : Bool)
  | finite (negative : Bool) (steps : Nat) (fits : Representable steps)
  deriving DecidableEq

namespace Binary64

/-- Rounding of `± num / den` steps. `den` is positive wherever this is used. -/
def ofRatio (negative : Bool) (num den : Nat) : Binary64 :=
  if h : roundSteps num den < overflowSteps then
    .finite negative (roundSteps num den) (representable_roundSteps h)
  else .infinite negative

/-- Positive zero. -/
def zero : Binary64 := .finite false 0 representable_zero

/-- The number one. -/
def one : Binary64 := .finite false oneSteps representable_oneSteps

/-- One half. -/
def half : Binary64 := .finite false _ (@representable_two_pow 1073 (by decide))

/-- The number nearest to a quotient of natural numbers. -/
def ofQuotient (num den : Nat) : Binary64 := ofRatio false (num * oneSteps) den

/-- The number nearest to a natural number. -/
def ofNat (n : Nat) : Binary64 := ofQuotient n 1

instance (n : Nat) : OfNat Binary64 n := ⟨ofNat n⟩

/-- The number nearest to an integer, or `none` where that lies beyond every finite number. -/
def ofInt? (n : Int) : Option Binary64 :=
  match ofRatio (n < 0) (n.natAbs * oneSteps) 1 with
  | .infinite _ => none
  | x => some x

/-- Decimal exponents from which a non-zero number overflows, whatever its digits. -/
def overflowExponent : Int := 310

/-- The number nearest to `± digits * 10 ^ exponent`. Exponents far outside the range of the
format are decided by the number of digits, so that no power beyond it is computed. -/
def ofDecimal (negative : Bool) (digits : Nat) (exponent : Int) : Binary64 :=
  if digits = 0 then .finite negative 0 representable_zero
  else if overflowExponent ≤ exponent then .infinite negative
  else if exponent + (digits.log2 + 1 : Nat) < -overflowExponent - 40 then
    .finite negative 0 representable_zero
  else if 0 ≤ exponent then ofRatio negative (digits * 10 ^ exponent.toNat * oneSteps) 1
  else ofRatio negative (digits * oneSteps) (10 ^ (-exponent).toNat)

/-- The value as a signed step count, where there is one. -/
def steps? : Binary64 → Option Int
  | .finite negative u _ => some (if negative then -(u : Int) else u)
  | _ => none

def isNaN : Binary64 → Bool
  | .nan => true
  | _ => false

def isFinite : Binary64 → Bool
  | .finite .. => true
  | _ => false

/-- The sign, also of a zero. -/
def isNegative : Binary64 → Bool
  | .nan => false
  | .infinite negative => negative
  | .finite negative _ _ => negative

/-- The same magnitude with the given sign. -/
def withSign (negative : Bool) : Binary64 → Binary64
  | .nan => .nan
  | .infinite _ => .infinite negative
  | .finite _ u h => .finite negative u h

def neg : Binary64 → Binary64
  | .nan => .nan
  | .infinite s => .infinite !s
  | .finite s u h => .finite (!s) u h

def abs : Binary64 → Binary64 := withSign false

/-- The number nearest to a signed step count; `zeroSign` is the sign of a zero result. -/
def ofSteps (zeroSign : Bool) (u : Int) : Binary64 :=
  ofRatio (if u = 0 then zeroSign else u < 0) u.natAbs 1

def add : Binary64 → Binary64 → Binary64
  | .nan, _ => .nan
  | _, .nan => .nan
  | .infinite s, .infinite t => if s = t then .infinite s else .nan
  | .infinite s, _ => .infinite s
  | _, .infinite t => .infinite t
  | .finite s u _, .finite t v _ =>
    ofSteps (s && t) ((if s then -(u : Int) else u) + (if t then -(v : Int) else v))

def sub (x y : Binary64) : Binary64 := x.add y.neg

def mul : Binary64 → Binary64 → Binary64
  | .nan, _ => .nan
  | _, .nan => .nan
  | .infinite s, .infinite t => .infinite (s != t)
  | .infinite s, .finite t v _ => if v = 0 then .nan else .infinite (s != t)
  | .finite s u _, .infinite t => if u = 0 then .nan else .infinite (s != t)
  | .finite s u _, .finite t v _ => ofRatio (s != t) (u * v) oneSteps

def div : Binary64 → Binary64 → Binary64
  | .nan, _ => .nan
  | _, .nan => .nan
  | .infinite _, .infinite _ => .nan
  | .infinite s, .finite t _ _ => .infinite (s != t)
  | .finite s _ _, .infinite t => .finite (s != t) 0 representable_zero
  | .finite s u _, .finite t v _ =>
    if v = 0 then (if u = 0 then .nan else .infinite (s != t))
    else ofRatio (s != t) (u * oneSteps) v

instance : Add Binary64 := ⟨add⟩
instance : Sub Binary64 := ⟨sub⟩
instance : Mul Binary64 := ⟨mul⟩
instance : Div Binary64 := ⟨div⟩
instance : Neg Binary64 := ⟨neg⟩

/-- A key that orders all numbers but NaN: infinities lie beyond every step count. -/
def orderKey? : Binary64 → Option Int
  | .nan => none
  | .infinite negative => some (if negative then -(overflowSteps : Int) else overflowSteps)
  | .finite negative u _ => some (if negative then -(u : Int) else u)

/-- Strictly below. NaN is below nothing and above nothing; the two zeros are equal. -/
def below (x y : Binary64) : Bool :=
  match x.orderKey?, y.orderKey? with
  | some a, some b => a < b
  | _, _ => false

/-- Below or equal. -/
def atMost (x y : Binary64) : Bool :=
  match x.orderKey?, y.orderKey? with
  | some a, some b => a ≤ b
  | _, _ => false

/-- The first number unless the second is strictly greater. -/
def greater (x y : Binary64) : Binary64 := if x.below y then y else x

/-- The first number unless the second is strictly less. -/
def lesser (x y : Binary64) : Binary64 := if y.below x then y else x

/-- The whole part of a magnitude, the fraction dropped; zero for what is not finite. -/
def wholePart : Binary64 → Nat
  | .finite _ u _ => u / oneSteps
  | _ => 0

/-- Why a number has no nearest integer. -/
inductive RoundingError where
  | nan
  | infinite
  deriving DecidableEq

/-- The nearest integer as a number, a half going away from zero. One half is added to the
magnitude in the format itself, so the addition rounds like every other. -/
def roundAway (x : Binary64) : Except RoundingError Binary64 :=
  match x with
  | .nan => .error .nan
  | .infinite _ => .error .infinite
  | .finite negative .. =>
    let raised := x.abs + half
    if raised.isFinite then .ok ((ofNat raised.wholePart).withSign negative)
    else .error .infinite

end Binary64

end Formwork
