import Formwork.Decimal.Shortest

/-!
# The text of a number

`Layout` says how the digits of a number are set out: which decimal exponents are written
positionally, whether a whole number keeps its `.0`, how wide an exponent is, and how the values
that are no decimal are spelled. `Layout.text` writes a number with the fewest digits that read
back, `Layout.roundedText` with a bounded count of them. `fixedText` writes a given number of
places.
-/

set_option autoImplicit false

namespace Formwork

-- A power of a natural number is the one of the core library, whatever else is imported.
attribute [local instance (2000)] instPowNat

/-- The decimal digits of a natural number. -/
def natText (n : Nat) : String := String.ofList (Nat.toDigits 10 n)

/-- An integer, with a minus sign where it is negative. -/
def intText (n : Int) : String :=
  if n < 0 then "-" ++ natText n.natAbs else natText n.natAbs

/-- The most digits of an integer that a message shows. -/
def maxShownDigits : Nat := 4300

/-- Does the integer have more digits than a message shows? -/
def isOverlong (n : Int) : Bool := 10 ^ maxShownDigits ≤ n.natAbs

/-- What is said instead of an integer with too many digits. -/
def overlongText : String :=
  "Exceeds the limit (" ++ natText maxShownDigits ++ " digits) for integer string conversion; "
    ++ "use sys.set_int_max_str_digits() to increase the limit"

/-- Text filled on the left to a least width. -/
def padLeft (width : Nat) (c : Char) (s : String) : String :=
  String.ofList (List.replicate (width - s.length) c) ++ s

/-- How the text of a number is set out. -/
structure Layout where
  /-- The least decimal exponent that is written positionally. -/
  leastPositional : Int
  /-- The least decimal exponent that is no longer written positionally. -/
  endPositional : Int
  /-- A whole number written positionally ends in `.0`. -/
  keepsPoint : Bool
  /-- The least count of exponent digits. -/
  exponentWidth : Nat
  nanText : String
  infinityText : String

namespace Layout

/-- Digits with a point after the first `whole` of them. -/
def pointed (digits : List Char) (whole : Nat) : String :=
  String.ofList (digits.take whole) ++ "." ++ String.ofList (digits.drop whole)

/-- A decimal without trailing zeros in its digits. -/
def decimal (l : Layout) (d : Decimal) : String :=
  let ds := Nat.toDigits 10 d.digits
  let lead : Int := d.exponent + ds.length - 1
  if d.digits = 0 then (if l.keepsPoint then "0.0" else "0")
  else if l.leastPositional ≤ lead ∧ lead < l.endPositional then
    if 0 ≤ d.exponent then
      String.ofList (ds ++ List.replicate d.exponent.toNat '0')
        ++ (if l.keepsPoint then ".0" else "")
    else if 0 ≤ lead then pointed ds (lead + 1).toNat
    else "0." ++ String.ofList (List.replicate (-lead - 1).toNat '0' ++ ds)
  else
    (if ds.length = 1 then String.ofList ds else pointed ds 1)
      ++ "e" ++ (if lead < 0 then "-" else "+")
      ++ padLeft l.exponentWidth '0' (natText lead.natAbs)

/-- A sign, where the number has one. -/
def signed (negative : Bool) (s : String) : String := if negative then "-" ++ s else s

/-- A number, a finite magnitude set out by the decimal that is chosen for it. -/
def textWith (l : Layout) (digits : Nat → Decimal) : Binary64 → String
  | .nan => l.nanText
  | .infinite negative => signed negative l.infinityText
  | .finite negative u _ => signed negative (l.decimal (digits u))

/-- The number with the fewest digits that read back as it. -/
def text (l : Layout) (x : Binary64) : String := l.textWith Decimal.shortest x

/-- The number with at most `count` significant digits. -/
def roundedText (l : Layout) (count : Nat) (x : Binary64) : String :=
  l.textWith (Decimal.rounded count) x

end Layout

/-- `u` steps with exactly `places` decimal places, a tie to the even neighbour. -/
def fixedSteps (places u : Nat) : String :=
  let n := roundHalfEven (u * 10 ^ places) oneSteps
  let whole := natText (n / 10 ^ places)
  if places = 0 then whole else whole ++ "." ++ padLeft places '0' (natText (n % 10 ^ places))

/-- A finite number of a sign and `u` steps with exactly `places` decimal places. -/
def fixedText (places : Nat) (negative : Bool) (u : Nat) : String :=
  Layout.signed negative (fixedSteps places u)

end Formwork
