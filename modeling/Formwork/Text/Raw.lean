import Formwork.Text.Literal
import Formwork.Text.Split

/-!
# Raw texts

Names of files and arguments are bytes, and not all bytes are text. A raw text has a unit for every
character and one for every surrogate that stands alone. Some of these stand for a byte that belongs
to no character, so that every name of a file has a raw text. The others have no bytes at all: a raw
text that holds one of them names no file, and neither does one that holds the null character
(`Raw.isNameable`). `Raw.flaw` says where it fails.
-/

set_option autoImplicit false

namespace Formwork.Text

/-- A unit of a raw text. -/
inductive RawUnit where
  | char (c : Char)
  /-- A surrogate, counted from the first one. -/
  | surrogate (n : Fin 2048)
  deriving DecidableEq

namespace RawUnit

/-- The code point of a unit. -/
def point : RawUnit → Nat
  | char c => c.toNat
  | surrogate n => 0xD800 + n

def isSurrogate : RawUnit → Bool
  | char _ => false
  | surrogate _ => true

/-- Does the unit stand for bytes? The surrogates from U+DC80 to U+DCFF stand for one each. -/
def hasBytes : RawUnit → Bool
  | char _ => true
  | surrogate n => 0x480 ≤ n.val ∧ n.val < 0x500

/-- Can the unit be a part of a name? -/
def isNameable (u : RawUnit) : Bool := u.hasBytes && u != .char '\x00'

/-- The unit as texts show it: a surrogate by its escape. -/
def shown : RawUnit → List Char
  | char c => [c]
  | surrogate n => numericEscape (0xD800 + n)

end RawUnit

/-- A text in which surrogates may stand alone. -/
structure Raw where
  units : List RawUnit
  deriving DecidableEq

/-- Why a raw text names no file. -/
inductive Flaw where
  | nul
  /-- Surrogates in a row, the first of which stands for no byte. -/
  | surrogates (first : RawUnit) (position count : Nat)

namespace Flaw

def message : Flaw → String
  | nul => "embedded null byte"
  | surrogates first position count =>
    let place :=
      if count = 1 then
        "character '" ++ String.ofList first.shown ++ "' in position " ++ position.repr
      else "characters in position " ++ position.repr ++ "-" ++ (position + count - 1).repr
    "'utf-8' codec can't encode " ++ place ++ ": surrogates not allowed"

/-- The flaw of a text that stands behind `n` units. -/
def shift (n : Nat) : Flaw → Flaw
  | nul => nul
  | surrogates first position count => surrogates first (position + n) count

end Flaw

namespace Raw

/-- A text as a raw one. -/
def ofString (s : String) : Raw := ⟨s.toList.map .char⟩

instance : Coe String Raw := ⟨ofString⟩

instance : Append Raw := ⟨fun r s => ⟨r.units ++ s.units⟩⟩

/-- Raw texts with another one between them. -/
def join (between : Raw) (rs : List Raw) : Raw :=
  ⟨List.intercalate between.units (rs.map Raw.units)⟩

/-- The pieces between the occurrences of a character. -/
def split (cut : Char) (r : Raw) : List Raw := (pieces (.char cut) r.units).map Raw.mk

/-- The text, with an escape for every surrogate. -/
def text (r : Raw) : String := String.ofList (r.units.flatMap RawUnit.shown)

/-- The text as it is shown in quotes. -/
def quoted (r : Raw) : String := Quoted.ofPoints (r.units.map RawUnit.point)

/-- Can a file have such a name? -/
def isNameable (r : Raw) : Bool := r.units.all RawUnit.isNameable

/-- The first surrogates that stand for no bytes, of units before which there are `position`. -/
def surrogatesFrom (position : Nat) : List RawUnit → Option Flaw
  | [] => none
  | u :: us =>
    if u.hasBytes then surrogatesFrom (position + 1) us
    else some (.surrogates u position ((us.takeWhile RawUnit.isSurrogate).length + 1))

/-- What is wrong with a text that is no name. Surrogates are found before the null character. -/
def flaw (r : Raw) : Flaw := (surrogatesFrom 0 r.units).getD .nul

end Raw

end Formwork.Text
