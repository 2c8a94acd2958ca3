import Formwork.Text.Printable

/-!
# One-line string literals

`Literal.escape` writes any text between double quotes on one line: a backslash and a double
quote take a backslash, line feed, carriage return and tab their short escapes, and every code
point without a visible form the shortest numeric escape that holds it (two, four or eight
hexadecimal digits). All other characters stand for themselves.

The escape of a text is the concatenation of the escapes of its code points, and is defined on
code points, so that a text which holds a surrogate on its own has one too.

`Quoted.text` is the other quotation in use, for values shown in messages: single quotes, unless
the text holds a single quote and no double one.
-/

set_option autoImplicit false

namespace Formwork.Text

/-- `width` lower-case hexadecimal digits of `n`, the last `width` of them if it has more. -/
def hexDigits : Nat → Nat → List Char
  | 0, _ => []
  | width + 1, n => hexDigits width (n / 16) ++ [Nat.digitChar (n % 16)]

/-- The shortest numeric escape that holds a code point. -/
def numericEscape (n : Nat) : List Char :=
  if n < 0x100 then '\\' :: 'x' :: hexDigits 2 n
  else if n < 0x10000 then '\\' :: 'u' :: hexDigits 4 n
  else '\\' :: 'U' :: hexDigits 8 n

/-- How a code point is written between quotes of the kind `quote`. -/
def escapePoint (quote : Char) (n : Nat) : List Char :=
  if n = 0x5C then ['\\', '\\']
  else if n = quote.toNat then ['\\', quote]
  else if n = 0xA then ['\\', 'n']
  else if n = 0xD then ['\\', 'r']
  else if n = 0x9 then ['\\', 't']
  else if isPrintable n then [Char.ofNat n]
  else numericEscape n

namespace Literal

/-- The text between the quotes of a literal that denotes the given code points. -/
def escapePoints (ns : List Nat) : String := String.ofList (ns.flatMap (escapePoint '"'))

/-- The text between the quotes of a literal that denotes `s`. -/
def escape (s : String) : String :=
  String.ofList (s.toList.flatMap fun c => escapePoint '"' c.toNat)

/-- The double-quoted literal that denotes `s`. -/
def quote (s : String) : String := "\"" ++ escape s ++ "\""

end Literal

namespace Quoted

/-- The quote that a shown text takes. -/
def quoteFor (ns : List Nat) : Char :=
  if ns.contains '\''.toNat && !ns.contains '"'.toNat then '"' else '\''

/-- A text as it is shown in a message, by its code points. -/
def ofPoints (ns : List Nat) : String :=
  let q := quoteFor ns
  String.ofList (q :: ns.flatMap (escapePoint q) ++ [q])

/-- A text as it is shown in a message. -/
def text (s : String) : String := ofPoints (s.toList.map Char.toNat)

end Quoted

end Formwork.Text
