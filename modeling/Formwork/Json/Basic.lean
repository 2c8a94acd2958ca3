import Formwork.Binary64.Basic

/-!
# JSON values

Integers and other numbers are kept apart, as the text keeps them apart: an integer has any
size, any other number is binary64 and may be NaN or infinite. The members of an object stand in
the order of the text, repeated keys included; `Json.last?` is the look-up, where the last member
of a key counts.
-/

set_option autoImplicit false

namespace Formwork

/-- A JSON value. -/
inductive Json where
  | null
  | bool (value : Bool)
  | integer (value : Int)
  | number (value : Binary64)
  | text (value : String)
  | list (items : List Json)
  | object (members : List (String × Json))
  deriving Inhabited

namespace Json

/-- The value of the last member with the given key. -/
def last? (members : List (String × Json)) (key : String) : Option Json :=
  (members.reverse.find? fun m => m.1 == key).map fun m => m.2

/-- A list of texts. -/
def texts (items : List String) : Json := .list (items.map .text)

end Json

end Formwork
