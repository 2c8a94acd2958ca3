import Formwork.Text.Literal

/-!
# Reading UTF-8

Bytes are read as UTF-8 in the strict sense of RFC 3629: no surrogates, no overlong forms, no
mark of byte order removed. Bytes that are no text are refused at the first character that cannot
be read, and the refusal names the bytes that were taken for it: the leading byte and the
continuation bytes that fit.

A text file may end its lines in three ways; `unifyLines` makes them one.
-/

set_option autoImplicit false

namespace Formwork.Text.Utf8

/-- Why a character cannot be read. -/
inductive Reason where
  | start
  | continuation
  | truncated
  deriving DecidableEq

/-- The first bytes that cannot be read. -/
structure Fault where
  position : Nat
  lead : UInt8
  length : Nat
  reason : Reason

/-- How a character goes on after its leading byte. -/
structure Shape where
  /-- The number of continuation bytes. -/
  count : Nat
  /-- The bounds of the first continuation byte. -/
  low : UInt8
  high : UInt8

/-- The shape that a leading byte announces. -/
def shape? (b : UInt8) : Option Shape :=
  if b ≤ 0x7f then some ⟨0, 0x80, 0xbf⟩
  else if b < 0xc2 then none
  else if b ≤ 0xdf then some ⟨1, 0x80, 0xbf⟩
  else if b = 0xe0 then some ⟨2, 0xa0, 0xbf⟩
  else if b = 0xed then some ⟨2, 0x80, 0x9f⟩
  else if b ≤ 0xef then some ⟨2, 0x80, 0xbf⟩
  else if b = 0xf0 then some ⟨3, 0x90, 0xbf⟩
  else if b ≤ 0xf3 then some ⟨3, 0x80, 0xbf⟩
  else if b = 0xf4 then some ⟨3, 0x80, 0x8f⟩
  else none

/-- How many of the bytes continue a character of the shape. -/
def fitting : Shape → List UInt8 → Nat
  | ⟨0, _, _⟩, _ => 0
  | _, [] => 0
  | ⟨n + 1, low, high⟩, b :: bs =>
    if low ≤ b ∧ b ≤ high then fitting ⟨n, 0x80, 0xbf⟩ bs + 1 else 0

/-- The first fault of bytes of which `position` have been read. -/
def firstFault (position : Nat) : List UInt8 → Option Fault
  | [] => none
  | b :: bs =>
    match shape? b with
    | none => some ⟨position, b, 1, .start⟩
    | some s =>
      if fitting s bs = s.count then firstFault (position + s.count + 1) (bs.drop s.count)
      else
        let reason := if bs.length = fitting s bs then .truncated else .continuation
        some ⟨position, b, fitting s bs + 1, reason⟩
termination_by bs => bs.length
decreasing_by simp only [List.length_drop, List.length_cons]; omega

def Reason.text : Reason → String
  | .start => "invalid start byte"
  | .continuation => "invalid continuation byte"
  | .truncated => "unexpected end of data"

namespace Fault

/-- The bytes of a fault as messages name them. -/
def span (f : Fault) : String :=
  if f.length = 1 then
    "byte 0x" ++ String.ofList (hexDigits 2 f.lead.toNat) ++ " in position " ++ f.position.repr
  else
    "bytes in position " ++ f.position.repr ++ "-" ++ (f.position + f.length - 1).repr

def message (f : Fault) : String :=
  "'utf-8' codec can't decode " ++ f.span ++ ": " ++ f.reason.text

end Fault

/-- The text that bytes stand for. -/
def decode (bytes : ByteArray) : Except Fault String :=
  match String.fromUTF8? bytes with
  | some s => .ok s
  | none => .error ((firstFault 0 bytes.data.toList).getD ⟨0, 0, 1, .start⟩)

end Utf8

/-- Ends every line with a line feed. -/
def unifyLineEnds : List Char → List Char
  | '\r' :: '\n' :: cs => '\n' :: unifyLineEnds cs
  | '\r' :: cs => '\n' :: unifyLineEnds cs
  | c :: cs => c :: unifyLineEnds cs
  | [] => []

/-- The text with a line feed at the end of every line. -/
def unifyLines (s : String) : String := String.ofList (unifyLineEnds s.toList)

end Formwork.Text
