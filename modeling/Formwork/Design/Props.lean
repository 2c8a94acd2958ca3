import Formwork.Binary64.Basic
import Formwork.Design.Kind

/-!
# Widget properties

Each kind has the properties it shows and no others: `Control` has one constructor for each kind,
and its arguments are that kind's own properties. What every widget has, a tooltip and a switch,
stands beside it in `Props`.

Numbers are plain integers here, because an editor may write any; which of them a document admits
is said where documents are read.
-/

set_option autoImplicit false

namespace Formwork

/-- Options, and the position of the one that is selected. -/
structure Choice where
  items : List String := []
  selected : Int := 0
  deriving DecidableEq

/-- A number and the bounds it moves between. -/
structure Range where
  value : Binary64 := 0
  minimum : Binary64 := 0
  maximum : Binary64 := 1
  deriving DecidableEq

/-- A colour, its four channels in bytes. -/
structure Color where
  red : Int
  green : Int
  blue : Int
  alpha : Int
  deriving DecidableEq

def Color.channels (c : Color) : List Int := [c.red, c.green, c.blue, c.alpha]

/-- A day of the calendar, not necessarily an existing one. -/
structure Day where
  year : Int := 2025
  month : Int := 1
  day : Int := 1
  deriving DecidableEq

/-- A kind with the properties of its own. -/
inductive Control where
  | menuButton (text : String) (choice : Choice)
  | label (text : String)
  | heading (text : String)
  | small (text : String)
  | monospace (text : String)
  | button (text : String)
  | imageTextButton (text icon : String)
  | checkbox (text : String) (checked : Bool)
  | textEdit (text : String)
  | textArea (text : String)
  | slider (text : String) (range : Range)
  | progressBar (value : Binary64)
  | radioGroup (text : String) (choice : Choice)
  | link (text : String)
  | hyperlink (text url : String)
  | selectableLabel (text : String) (checked : Bool)
  | comboBox (text : String) (choice : Choice)
  | separator
  | collapsingHeader (text : String) (checked : Bool)
  | datePicker (text : String) (day : Day)
  | angleSelector (text : String) (range : Range)
  | password (text : String)
  | tree (text : String) (lines : List String)
  | dragValue (text : String) (range : Range)
  | spinner
  | colorPicker (text : String) (color : Color)
  | code (text : String)
  | image (text url : String)
  | placeholder (text : String) (color : Color)
  | group (text : String) (horizontal : Bool)
  | scrollBox (text : String)
  | tabBar (choice : Choice)
  | columns (text : String) (count : Int)
  | window (text : String)
  deriving DecidableEq

namespace Control

def kind : Control → Kind
  | menuButton .. => .menuButton
  | label .. => .label
  | heading .. => .heading
  | small .. => .small
  | monospace .. => .monospace
  | button .. => .button
  | imageTextButton .. => .imageTextButton
  | checkbox .. => .checkbox
  | textEdit .. => .textEdit
  | textArea .. => .textArea
  | slider .. => .slider
  | progressBar .. => .progressBar
  | radioGroup .. => .radioGroup
  | link .. => .link
  | hyperlink .. => .hyperlink
  | selectableLabel .. => .selectableLabel
  | comboBox .. => .comboBox
  | separator => .separator
  | collapsingHeader .. => .collapsingHeader
  | datePicker .. => .datePicker
  | angleSelector .. => .angleSelector
  | password .. => .password
  | tree .. => .tree
  | dragValue .. => .dragValue
  | spinner => .spinner
  | colorPicker .. => .colorPicker
  | code .. => .code
  | image .. => .image
  | placeholder .. => .placeholder
  | group .. => .group
  | scrollBox .. => .scrollBox
  | tabBar .. => .tabBar
  | columns .. => .columns
  | window .. => .window

/-- The selectable options, where the kind has some. -/
def choice? : Control → Option Choice
  | menuButton _ c => some c
  | radioGroup _ c => some c
  | comboBox _ c => some c
  | tabBar c => some c
  | _ => none

/-- The same control with other options; unchanged where the kind has none. -/
def withChoice (c : Choice) : Control → Control
  | menuButton t _ => menuButton t c
  | radioGroup t _ => radioGroup t c
  | comboBox t _ => comboBox t c
  | tabBar _ => tabBar c
  | other => other

end Control

/-- The properties of a widget. -/
structure Props where
  tooltip : String := ""
  enabled : Bool := true
  control : Control
  deriving DecidableEq

def Props.kind (p : Props) : Kind := p.control.kind

/-- Does the kind have selectable options? -/
def Props.hasOptions (p : Props) : Bool := p.control.choice?.isSome

end Formwork
