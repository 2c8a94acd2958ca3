/-!
# Letter case in name lookup

Names of kinds, areas and formats are ASCII and are found whatever the case of the letters
typed. Case is mapped by the full Unicode rules, of which only the few characters below ever
produce ASCII letters; every other character outside ASCII stays outside ASCII and matches no
name, so it is left as it is.
-/

set_option autoImplicit false

namespace Formwork.Text

/-- The upper-case form, as far as it is ASCII. -/
def upperChar (c : Char) : List Char :=
  match c with
  | 'ß' => ['S', 'S']
  | 'ı' => ['I']
  | 'ſ' => ['S']
  | '\ufb00' => ['F', 'F']
  | '\ufb01' => ['F', 'I']
  | '\ufb02' => ['F', 'L']
  | '\ufb03' => ['F', 'F', 'I']
  | '\ufb04' => ['F', 'F', 'L']
  | '\ufb05' => ['S', 'T']
  | '\ufb06' => ['S', 'T']
  | c => [c.toUpper]

/-- The lower-case form, as far as it is ASCII: of the others only the Kelvin sign has one. -/
def lowerChar (c : Char) : Char :=
  if c = '\u212a' then 'k' else c.toLower

def upper (s : String) : String := String.ofList (s.toList.flatMap upperChar)

def lower (s : String) : String := String.ofList (s.toList.map lowerChar)

end Formwork.Text
