import Formwork.Text.Blank
import Formwork.Text.Letters

/-!
# Widget kinds and docking areas

The kinds and areas that a design is made of, with the names that stand for them. A kind has two
names: its tag (`ComboBox`), which documents hold, and its member name (`COMBO_BOX`), which
follows from the tag. Both are looked up without regard to letter case.
-/

set_option autoImplicit false

namespace Formwork

/-- What a widget is. -/
inductive Kind where
  | menuButton
  | label
  | heading
  | small
  | monospace
  | button
  | imageTextButton
  | checkbox
  | textEdit
  | textArea
  | slider
  | progressBar
  | radioGroup
  | link
  | hyperlink
  | selectableLabel
  | comboBox
  | separator
  | collapsingHeader
  | datePicker
  | angleSelector
  | password
  | tree
  | dragValue
  | spinner
  | colorPicker
  | code
  | image
  | placeholder
  | group
  | scrollBox
  | tabBar
  | columns
  | window
  deriving DecidableEq, Repr

/-- Where a widget is docked. Free and centre widgets share the central canvas. -/
inductive Area where
  | free
  | top
  | bottom
  | left
  | right
  | center
  deriving DecidableEq, Repr

/-- A dockable panel: an area that can be switched on and off. -/
inductive Panel where
  | top
  | bottom
  | left
  | right
  deriving DecidableEq, Repr

/-- Why a name or a choice of area is refused. -/
inductive NameError where
  | unknownKind (raw : String)
  | unknownArea (raw : String)
  | unknownFormat (raw : String)
  | notAPanel (area : String)
  deriving DecidableEq, Repr

def NameError.message : NameError → String
  | .unknownKind raw => "Unknown widget kind '" ++ raw ++ "'"
  | .unknownArea raw => "Unknown docking area '" ++ raw ++ "'"
  | .unknownFormat raw =>
    "Unknown output format '" ++ raw ++ "' (expected one of: single, separate, ui)"
  | .notAPanel area => area ++ " is not a toggleable panel"

namespace Kind

/-- Every kind, in the order in which lists of kinds name them. -/
def all : List Kind := [
  .menuButton, .label, .heading, .small, .monospace, .button, .imageTextButton, .checkbox,
  .textEdit, .textArea, .slider, .progressBar, .radioGroup, .link, .hyperlink,
  .selectableLabel, .comboBox, .separator, .collapsingHeader, .datePicker, .angleSelector,
  .password, .tree, .dragValue, .spinner, .colorPicker, .code, .image, .placeholder, .group,
  .scrollBox, .tabBar, .columns, .window]

theorem mem_all (k : Kind) : k ∈ all := by cases k <;> decide

/-- The name of a kind in documents. -/
def tag : Kind → String
  | menuButton => "MenuButton"
  | label => "Label"
  | heading => "Heading"
  | small => "Small"
  | monospace => "Monospace"
  | button => "Button"
  | imageTextButton => "ImageTextButton"
  | checkbox => "Checkbox"
  | textEdit => "TextEdit"
  | textArea => "TextArea"
  | slider => "Slider"
  | progressBar => "ProgressBar"
  | radioGroup => "RadioGroup"
  | link => "Link"
  | hyperlink => "Hyperlink"
  | selectableLabel => "SelectableLabel"
  | comboBox => "ComboBox"
  | separator => "Separator"
  | collapsingHeader => "CollapsingHeader"
  | datePicker => "DatePicker"
  | angleSelector => "AngleSelector"
  | password => "Password"
  | tree => "Tree"
  | dragValue => "DragValue"
  | spinner => "Spinner"
  | colorPicker => "ColorPicker"
  | code => "Code"
  | image => "Image"
  | placeholder => "Placeholder"
  | group => "Group"
  | scrollBox => "ScrollBox"
  | tabBar => "TabBar"
  | columns => "Columns"
  | window => "Window"

/-- The words of a tag in upper case, joined by underscores. -/
def memberName (k : Kind) : String :=
  match k.tag.toList with
  | [] => ""
  | c :: cs =>
    String.ofList (c.toUpper :: cs.flatMap fun d => if d.isUpper then ['_', d] else [d.toUpper])

/-- The kind with a given tag. -/
def ofTag? (s : String) : Option Kind := all.find? fun k => k.tag == s

theorem ofTag?_tag (k : Kind) : ofTag? k.tag = some k := by cases k <;> decide +kernel

/-- The kind that a name stands for: its tag or its member name, in any letter case. -/
def ofName (raw : String) : Except NameError Kind :=
  let s := Text.strip raw
  match all.find? fun k =>
      s == k.tag || Text.upper s == k.memberName || Text.lower s == Text.lower k.tag with
  | some k => .ok k
  | none => .error (.unknownKind raw)

/-- A table that lacks entries for some kinds. -/
structure MissingKinds where
  table : String
  kinds : List Kind

def MissingKinds.message (e : MissingKinds) : String :=
  e.table ++ " has no entry for: " ++ ", ".intercalate (e.kinds.map tag)

/-- Succeeds for a table that has an entry for every kind. -/
def requireAll (covered : List Kind) (table : String) : Except MissingKinds Unit :=
  match all.filter fun k => !covered.contains k with
  | [] => .ok ()
  | missing => .error ⟨table, missing⟩

end Kind

namespace Panel

/-- The panels, in the order in which they are drawn. -/
def all : List Panel := [.top, .bottom, .left, .right]

/-- The area of a panel. -/
def area : Panel → Area
  | top => .top
  | bottom => .bottom
  | left => .left
  | right => .right

end Panel

namespace Area

/-- Every area, in the order of look-up. -/
def all : List Area := [.free, .top, .bottom, .left, .right, .center]

/-- Every area, in the order in which widgets are drawn: panels first, then the canvas, free
widgets above those of the centre. -/
def drawOrder : List Area := [.top, .bottom, .left, .right, .center, .free]

theorem mem_drawOrder (a : Area) : a ∈ drawOrder := by cases a <;> decide

/-- The name of an area in documents. -/
def tag : Area → String
  | free => "Free"
  | top => "Top"
  | bottom => "Bottom"
  | left => "Left"
  | right => "Right"
  | center => "Center"

/-- The panel that an area is, if it is one. -/
def panel? : Area → Option Panel
  | top => some .top
  | bottom => some .bottom
  | left => some .left
  | right => some .right
  | _ => none

/-- The area with a given tag. -/
def ofTag? (s : String) : Option Area := all.find? fun a => a.tag == s

theorem ofTag?_tag (a : Area) : ofTag? a.tag = some a := by cases a <;> rfl

/-- The area that a name stands for, in any letter case. -/
def ofName (raw : String) : Except NameError Area :=
  let s := Text.lower (Text.strip raw)
  match all.find? fun a => s == Text.lower a.tag with
  | some a => .ok a
  | none => .error (.unknownArea raw)

end Area

end Formwork
