import Formwork.Json.Basic
import Formwork.Decimal.Layout
import Formwork.Text.Literal

/-!
# Writing JSON text

Containers are set out over lines, two spaces to a level, and an empty one is closed at once.
Inside a string the quotation mark, the backslash and the controls below U+0020 are escaped and
all else stands for itself. The text of a number is set out by a `Layout`, which is the only
respect in which the two texts of this library, the document and the preview, differ.
-/

set_option autoImplicit false

namespace Formwork.Json

/-- How a character is written inside a string. -/
def escapeChar (c : Char) : List Char :=
  if c = '"' then ['\\', '"']
  else if c = '\\' then ['\\', '\\']
  else if c = '\n' then ['\\', 'n']
  else if c = '\r' then ['\\', 'r']
  else if c = '\t' then ['\\', 't']
  else if c = '\x08' then ['\\', 'b']
  else if c = '\x0c' then ['\\', 'f']
  else if c.toNat < 0x20 then '\\' :: 'u' :: Text.hexDigits 4 c.toNat
  else [c]

/-- The characters with a short escape, and the letters in it. -/
def shortEscapes : List (Char × Char) :=
  [('"', '"'), ('\\', '\\'), ('\n', 'n'), ('\r', 'r'), ('\t', 't'), ('\x08', 'b'), ('\x0c', 'f')]

/-- What a character may be written as. -/
inductive Escaped (c : Char) : List Char → Prop where
  | short {letter : Char} (listed : (c, letter) ∈ shortEscapes) : Escaped c ['\\', letter]
  | control (low : c.toNat < 0x20) : Escaped c ('\\' :: 'u' :: Text.hexDigits 4 c.toNat)
  | plain (quote : c ≠ '"') (backslash : c ≠ '\\') (high : ¬c.toNat < 0x20) : Escaped c [c]

theorem escaped_escapeChar (c : Char) : Escaped c (escapeChar c) := by
  have short {d letter : Char} (listed : (d, letter) ∈ shortEscapes) (same : c = d) :
      Escaped c ['\\', letter] := .short (same ▸ listed)
  unfold escapeChar
  refine iteInduction (motive := Escaped c) (short (by decide)) fun quote => ?_
  refine iteInduction (motive := Escaped c) (short (by decide)) fun backslash => ?_
  -- The characters that are left with a short escape are controls.
  iterate 5 refine iteInduction (motive := Escaped c) (short (by decide)) fun _ => ?_
  exact iteInduction (motive := Escaped c) .control (.plain quote backslash)

/-- A string with its quotes. -/
def writeString (s : String) : List Char := '"' :: s.toList.flatMap escapeChar ++ ['"']

/-- A new line at the given depth. -/
def newLine (depth : Nat) : List Char := '\n' :: List.replicate (2 * depth) ' '

mutual

/-- The text of a value whose first line stands at the given depth. -/
def write (l : Layout) (depth : Nat) : Json → List Char
  | .null => "null".toList
  | .bool true => "true".toList
  | .bool false => "false".toList
  | .integer n => (intText n).toList
  | .number x => (l.text x).toList
  | .text s => writeString s
  | .list [] => ['[', ']']
  | .list (x :: xs) =>
    '[' :: newLine (depth + 1) ++ write l (depth + 1) x ++ writeItems l (depth + 1) xs
      ++ newLine depth ++ [']']
  | .object [] => ['{', '}']
  | .object ((k, v) :: ms) =>
    '{' :: newLine (depth + 1) ++ writeString k ++ [':', ' '] ++ write l (depth + 1) v
      ++ writeMembers l (depth + 1) ms ++ newLine depth ++ ['}']

/-- The items after the first one. -/
def writeItems (l : Layout) (depth : Nat) : List Json → List Char
  | [] => []
  | x :: xs => ',' :: newLine depth ++ write l depth x ++ writeItems l depth xs

/-- The members after the first one. -/
def writeMembers (l : Layout) (depth : Nat) : List (String × Json) → List Char
  | [] => []
  | (k, v) :: ms =>
    ',' :: newLine depth ++ writeString k ++ [':', ' '] ++ write l depth v
      ++ writeMembers l depth ms

end

section Equations

variable (l : Layout) (depth : Nat)

theorem write_list_cons (x : Json) (xs : List Json) : write l depth (.list (x :: xs)) =
    '[' :: newLine (depth + 1) ++ write l (depth + 1) x ++ writeItems l (depth + 1) xs
      ++ newLine depth ++ [']'] := rfl

theorem write_object_cons (k : String) (v : Json) (ms : List (String × Json)) :
    write l depth (.object ((k, v) :: ms)) =
      '{' :: newLine (depth + 1) ++ writeString k ++ [':', ' '] ++ write l (depth + 1) v
        ++ writeMembers l (depth + 1) ms ++ newLine depth ++ ['}'] := rfl

end Equations

/-- The text of a value. -/
def render (l : Layout) (v : Json) : String := String.ofList (write l 0 v)

end Formwork.Json
