import Formwork.Decimal.Layout
import Formwork.Design.Project
import Formwork.Outline
import Formwork.Text.Literal

/-!
# Pieces of generated code

A line of generated code is a list of pieces. Program text stands in `Piece.code` pieces, which
are the same for every design; whatever comes from a design stands in a piece of its own kind, so
that no text of a design is ever program text: strings are written as literals, numbers as
numbers, and fields of the state record are named by `Slot`.
-/

set_option autoImplicit false

namespace Formwork.Source

-- A power of a natural number is the one of the core library, whatever else is imported.
attribute [local instance (2000)] instPowNat

/-- What a widget keeps in the state record of the generated program. -/
inductive Stem where
  | selection
  | checked
  | text
  | textArea
  | value
  | progress
  | opened
  | date
  | angle
  | password
  | drag
  | color
  | code
  | tab
  | window
  deriving DecidableEq, Repr

/-- What stands before the id in the name of a field. -/
def Stem.start : Stem → String
  | selection => "sel_"
  | checked => "checked_"
  | text => "text_"
  | textArea => "textarea_"
  | value => "value_"
  | progress => "progress_"
  | opened => "open_"
  | date => "date_"
  | angle => "angle_"
  | password => "pass_"
  | drag => "drag_"
  | color => "color_"
  | code => "code_"
  | tab => "tab_"
  | window => "window_"

/-- What stands after the id. -/
def Stem.finish : Stem → String
  | window => "_open"
  | _ => ""

/-- A field of the state record: a panel switch, or the value of a widget. -/
inductive Slot where
  | panel (panel : Panel)
  | widget (stem : Stem) (id : Int)
  deriving DecidableEq, Repr

/-- The name of a panel in generated code. -/
def panelName : Panel → String
  | .top => "top"
  | .bottom => "bottom"
  | .left => "left"
  | .right => "right"

/-- The name of a field. -/
def Slot.name : Slot → String
  | panel p => "enable_" ++ panelName p
  | widget stem id => stem.start ++ intText id ++ stem.finish

/-- A piece of a line. -/
inductive Piece where
  /-- Program text. -/
  | code (text : String)
  /-- A string literal. -/
  | text (value : String)
  /-- A number with a fixed count of decimal places. -/
  | number (value : Binary64) (places : Nat)
  | integer (value : Int)
  | flag (value : Bool)
  /-- A two-dimensional vector. -/
  | vector (value : Vec)
  /-- A coordinate moved by a number. -/
  | offset (base : String) (value : Binary64)
  /-- A list of string literals. -/
  | texts (items : List String)
  /-- A list of trees. -/
  | forest (trees : List Node)
  /-- The name of a field of the state record. -/
  | slot (slot : Slot)

instance : Coe String Piece := ⟨.code⟩

/-- A number with a fixed count of places. What is not finite is written as a call that makes
it. -/
def numberText (places : Nat) (x : Binary64) : String :=
  match x with
  | .nan => "float(" ++ Text.Literal.quote "nan" ++ ")"
  | .infinite false => "float(" ++ Text.Literal.quote "inf" ++ ")"
  | .infinite true => "-float(" ++ Text.Literal.quote "inf" ++ ")"
  | .finite negative u _ => fixedText places negative u

/-- Why a number cannot be written with a count of places. -/
inductive PlacesError where
  | negative
  | oversized

def PlacesError.message : PlacesError → String
  | negative => "Format specifier missing precision"
  | oversized => "precision too big"

/-- The most places that a number is written with. -/
def maxPlaces : Int := 2 ^ (31 : Nat) - 1

/-- A number with a count of places that may be out of range. What is not finite has no places. -/
def checkedNumberText (places : Int) (x : Binary64) : Except PlacesError String :=
  if x.isFinite && places < 0 then .error .negative
  else if x.isFinite && maxPlaces < places then .error .oversized
  else .ok (numberText places.toNat x)

/-- A base moved by a number: a negative number is subtracted, so that no sign follows a plus. -/
def offsetText (base : String) (x : Binary64) : String :=
  if x.isFinite && x.below 0 then base ++ " - " ++ numberText 1 x.neg
  else base ++ " + " ++ numberText 1 x

def flagText (b : Bool) : String := if b then "True" else "False"

def vectorText (v : Vec) : String :=
  "imgui.ImVec2(" ++ numberText 1 v.x ++ ", " ++ numberText 1 v.y ++ ")"

/-- A list display. -/
def listText (items : List String) : String := "[" ++ ", ".intercalate items ++ "]"

/-- The expression that builds a tree node; a leaf has no second argument. -/
def nodeText (label : String) (children : List String) : String :=
  match children with
  | [] => "GenTreeNode(" ++ Text.Literal.quote label ++ ")"
  | children => "GenTreeNode(" ++ Text.Literal.quote label ++ ", " ++ listText children ++ ")"

/-- The expression that builds a list of trees. -/
def forestText (trees : List Node) : String := listText (Node.foldAll nodeText trees)

/-- The colour channels as fractions. -/
def channelsText (channels : List Int) : String :=
  listText (channels.map fun c => intText c ++ " / 255")

/-- The text of a piece. -/
def Piece.render : Piece → String
  | code s => s
  | text s => Text.Literal.quote s
  | number x places => numberText places x
  | integer n => intText n
  | flag b => flagText b
  | vector v => vectorText v
  | offset base x => offsetText base x
  | texts items => listText (items.map Text.Literal.quote)
  | forest trees => forestText trees
  | slot s => s.name

/-- A line of code without its indentation. -/
abbrev Line := List Piece

def Line.render (l : Line) : String := String.join (l.map Piece.render)

end Formwork.Source
