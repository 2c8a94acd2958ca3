import Formwork.Decimal.Reader
import Formwork.Document.Problem
import Formwork.Text.Blank

/-!
# Scalars of a document

What counts as an integer, a number, a flag or a text. Texts are texts only. The other three are
read generously: an integer may be written as a flag, as a number without a fraction or as a
string; a number as a flag or a string; a flag as zero or one or as one of sixteen words.
-/

set_option autoImplicit false

namespace Formwork.Document

-- A power of a natural number is the one of the core library, whatever else is imported.
attribute [local instance (2000)] instPowNat

open Text (trimBoth isWhiteSpace)

def text : Json → Checked String
  | .text s => .ok s
  | _ => .refuse .textExpected

/-! ## Integers -/

/-- The digits of an integer without leading zeros, once underscores are dropped. Underscores
stand singly between digits; among leading zeros their number is free. -/
def plainDigits? (cs : List Char) : Option (List Char) :=
  match cs with
  | c :: _ =>
    if !c.isDigit then none
    else
      match cs.dropWhile fun d => d = '0' || d = '_' with
      | [] => if cs.getLast? = some '0' then some ['0'] else none
      | rest =>
        (Numeral.dropUnderscores? rest).bind fun ds =>
          if ds.all Char.isDigit then some ds else none
  | [] => none

/-- Whole and fractional part of a numeral; the fraction may consist of zeros only. -/
def wholePart? (cs : List Char) : Option (List Char) :=
  match cs.dropWhile (· ≠ '.') with
  | [] => some cs
  | _ :: zeros =>
    if zeros ≠ [] ∧ zeros.all (· = '0') then some (cs.takeWhile (· ≠ '.')) else none

/-- An integer written in a string. -/
def integerText (s : String) : Checked Int :=
  let (negative, body) := Numeral.splitSign (trimBoth isWhiteSpace s.toList)
  match (wholePart? body).bind plainDigits? with
  | none => .refuse .unreadableInteger
  | some ds =>
    if Json.maxNumberLength < ds.length then .refuse .oversizedInteger
    else
      let n : Int := Nat.ofDigitChars 10 ds 0
      .ok (if negative then -n else n)

/-- The bound of the numbers that are read as integers. -/
def integerNumberBound : Nat := 2 ^ (63 : Nat)

/-- A number without a fraction, as an integer. -/
def integerNumber : Binary64 → Checked Int
  | .finite negative u _ =>
    if u % oneSteps ≠ 0 then .refuse .fractionalInteger
    else if integerNumberBound ≤ u / oneSteps then .refuse .oversizedInteger
    else
      let n : Int := (u / oneSteps : Nat)
      .ok (if negative then -n else n)
  | _ => .refuse .nonFinite

def integer : Json → Checked Int
  | .integer n => .ok n
  | .bool b => .ok (if b then 1 else 0)
  | .number x => integerNumber x
  | .text s => integerText s
  | _ => .refuse .integerExpected

/-- An integer that is at least `bound`. -/
def integerFrom (bound : Nat) (v : Json) : Checked Int :=
  (integer v).andThen fun n => if n < bound then .refuse (.belowMinimum bound) else .ok n

/-- The largest value of a colour channel. -/
def maxChannel : Nat := 255

/-- A colour channel. -/
def channel (v : Json) : Checked Int :=
  (integer v).andThen fun n =>
    if (maxChannel : Int) < n then .refuse (.aboveMaximum maxChannel)
    else if n < 0 then .refuse (.belowMinimum 0)
    else .ok n

/-! ## Numbers -/

/-- The number nearest to an integer, infinite beyond every finite one. -/
def nearest (n : Int) : Binary64 := .ofRatio (n < 0) (n.natAbs * oneSteps) 1

/-- A number written in a string. -/
def numberText (s : String) : Checked Binary64 :=
  match (Numeral.dropUnderscores? (trimBoth isWhiteSpace s.toList)).bind Numeral.read? with
  | some x => .ok x
  | none => .refuse .unreadableNumber

def number : Json → Checked Binary64
  | .number x => .ok x
  | .integer n => .ok (nearest n)
  | .bool b => .ok (if b then 1 else 0)
  | .text s => numberText s
  | _ => .refuse .numberExpected

/-! ## Flags -/

def falseWords : List String := ["0", "off", "f", "false", "n", "no"]

def trueWords : List String := ["1", "on", "t", "true", "y", "yes"]

/-- A flag written in a string, in any case of the ASCII letters. -/
def flagText (s : String) : Checked Bool :=
  let word := String.ofList (s.toList.map Char.toLower)
  if falseWords.contains word then .ok false
  else if trueWords.contains word then .ok true
  else .refuse .unreadableFlag

def flag : Json → Checked Bool
  | .bool b => .ok b
  | .integer n =>
    if n = 0 then .ok false
    else if n = 1 then .ok true
    else if -(integerNumberBound : Int) ≤ n ∧ n < integerNumberBound then .refuse .unreadableFlag
    else .refuse .flagExpected
  | .number (.finite negative u _) =>
    if u = 0 then .ok false
    else if u = oneSteps ∧ !negative then .ok true
    else .refuse .flagExpected
  | .text s => flagText s
  | _ => .refuse .flagExpected

/-- A list whose items are checked one by one. -/
def listOf {α : Type} (item : Json → Checked α) : Json → Checked (List α)
  | .list items => .listFrom item 0 items
  | _ => .refuse .listExpected

def texts : Json → Checked (List String) := listOf text

end Formwork.Document
