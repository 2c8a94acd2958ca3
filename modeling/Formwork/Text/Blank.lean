/-!
# Blank characters and trimming

Two classes of blank characters are in use. `isBlank` is the wider one: names, captions and
outline lines are trimmed by it. `isWhiteSpace` is the Unicode property `White_Space`, which
leaves out the four information separators U+001C to U+001F; numerals inside strings are
trimmed by it.
-/

set_option autoImplicit false

namespace Formwork.Text

/-- The Unicode property `White_Space`. -/
def isWhiteSpace (c : Char) : Bool :=
  let n := c.toNat
  (0x9 ≤ n && n ≤ 0xD) || n == 0x20 || n == 0x85 || n == 0xA0 || n == 0x1680
    || (0x2000 ≤ n && n ≤ 0x200A) || n == 0x2028 || n == 0x2029 || n == 0x202F || n == 0x205F
    || n == 0x3000

/-- White space, and the information separators. -/
def isBlank (c : Char) : Bool :=
  isWhiteSpace c || (0x1C ≤ c.toNat && c.toNat ≤ 0x1F)

/-- A list without the elements of a class at either end. -/
def trimBoth {α : Type} (p : α → Bool) (cs : List α) : List α :=
  ((cs.dropWhile p).reverse.dropWhile p).reverse

/-- Text without blanks at either end. -/
def strip (s : String) : String := String.ofList (trimBoth isBlank s.toList)

end Formwork.Text
