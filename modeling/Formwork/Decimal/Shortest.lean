import Formwork.Binary64.Basic

/-!
# Decimal grids, and the shortest decimal that reads back

A decimal is a natural number of units of a power of ten. The decimals of one exponent form a
grid, and a binary64 magnitude lies between two neighbours of it.

`Decimal.shortest` scans grids from coarse to fine and stops at the first one on which a
neighbour of the number lies inside the interval of reals that round to the number. The coarsest
such grid has the fewest digits; of two neighbours inside, the nearer is taken and a tie goes to
the even one. `Decimal.rounded` instead stops at the grid that leaves a given count of digits.

All of it is arithmetic on natural numbers: a step count `u` is `u / oneSteps`, and a bound is
held in quarter steps, which is fine enough for both halves of a rounding interval.
-/

set_option autoImplicit false

namespace Formwork

-- A power of a natural number is the one of the core library, whatever else is imported.
attribute [local instance (2000)] instPowNat

/-- A non-negative decimal, `digits * 10 ^ exponent`. -/
structure Decimal where
  digits : Nat
  exponent : Int
  deriving DecidableEq, Repr

namespace Decimal

/-- The quotient whose value is `u` steps measured in units of `10 ^ g`. -/
def onGrid (u : Nat) (g : Int) : Nat × Nat :=
  if 0 ≤ g then (u, oneSteps * 10 ^ g.toNat) else (u * 10 ^ (-g).toNat, oneSteps)

/-- The reals that round to a step count: bounds in quarter steps, and whether the bounds
themselves belong to it, which is so when the significand is even. -/
structure Interval where
  low : Nat
  high : Nat
  closed : Bool

/-- The rounding interval of a representable step count. Below a power of two the neighbours
are twice as close as above it, except where the step is already the smallest one. -/
def Interval.around (u : Nat) : Interval :=
  let place := lastPlace u
  let gap := 2 ^ place
  { low := if 0 < place ∧ u = 2 ^ (52 + place) then 4 * u - gap else 4 * u - 2 * gap
    high := 4 * u + 2 * gap
    closed := u / gap % 2 == 0 }

/-- Does `d * 10 ^ g` lie in the interval? -/
def Interval.holds (i : Interval) (d : Nat) (g : Int) : Bool :=
  let (scale, den) := onGrid 1 g
  let point := 4 * d * den
  if i.closed then i.low * scale ≤ point && point ≤ i.high * scale
  else i.low * scale < point && point < i.high * scale

/-- The neighbour of `u` steps on the grid of `10 ^ g` that lies in the interval, if one does. -/
def hit? (u : Nat) (i : Interval) (g : Int) : Option Nat :=
  let (num, den) := onGrid u g
  let below := num / den
  match i.holds below g, i.holds (below + 1) g with
  | true, true => some (roundHalfEven num den)
  | true, false => some below
  | false, true => some (below + 1)
  | false, false => none

/-- The exponent of a power of ten that is larger than `u` steps, and less than a thousand times
larger. -/
def startExponent (u : Nat) : Int :=
  (((u.log2 : Int) - 1073) * 30103).fdiv 100000 + 1

/-- The first hit, going down from the grid of `10 ^ g`. Seventeen digits tell any two binary64
numbers apart, so the count of grids to try is bounded. -/
def firstHit (u : Nat) (i : Interval) : Nat → Int → Decimal
  | 0, g => ⟨(onGrid u g).1 / (onGrid u g).2, g⟩
  | tries + 1, g =>
    match hit? u i g with
    | some d => ⟨d, g⟩
    | none => firstHit u i tries (g - 1)

/-- The shortest decimal that rounds to `u` steps. -/
def shortest (u : Nat) : Decimal :=
  if u = 0 then ⟨0, 0⟩ else firstHit u (Interval.around u) 24 (startExponent u)

/-- The coarsest grid, going down from `10 ^ g`, on which `u` steps have at least `count`
digits. -/
def gridOfDigits (u count : Nat) : Nat → Int → Int
  | 0, g => g
  | tries + 1, g =>
    let (num, den) := onGrid u g
    if 10 ^ (count - 1) ≤ num / den then g else gridOfDigits u count tries (g - 1)

/-- Drops up to `fuel` trailing zeros of the digits. -/
def dropZeros : Nat → Decimal → Decimal
  | 0, d => d
  | fuel + 1, d =>
    if d.digits ≠ 0 ∧ d.digits % 10 = 0 then dropZeros fuel ⟨d.digits / 10, d.exponent + 1⟩ else d

/-- `u` steps rounded to `count` significant digits, a tie to the even one, trailing zeros
dropped. -/
def rounded (count u : Nat) : Decimal :=
  if u = 0 then ⟨0, 0⟩
  else
    let g := gridOfDigits u count (count + 6) (startExponent u)
    let (num, den) := onGrid u g
    dropZeros (count + 1) ⟨roundHalfEven num den, g⟩

end Decimal

end Formwork
