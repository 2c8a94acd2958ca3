import Formwork.Decimal.Reader
import Formwork.Text.Blank
import Formwork.Text.Digits

/-!
# Numerals as arguments

A numeral on a command line may have white space around it, digits of any script, and single
underscores between digits.
-/

set_option autoImplicit false

namespace Formwork.Numeral

/-- Is the character an underscore that stands between two digits, or no underscore at all? -/
def fitsBetween (before c : Option Char) (after : Option Char) : Bool :=
  c != some '_' || (before.any Char.isDigit && after.any Char.isDigit)

/-- Does every underscore stand between two digits? -/
def underscoresFit (before : Option Char) : List Char → Bool
  | [] => true
  | c :: cs => fitsBetween before (some c) cs.head? && underscoresFit (some c) cs

/-- The number that an argument stands for. -/
def typed? (s : String) : Option Binary64 :=
  let cs := (Text.trimBoth Text.isWhiteSpace s.toList).map Text.plainDigit
  if underscoresFit none cs then read? (cs.filter (· != '_')) else none

end Formwork.Numeral
