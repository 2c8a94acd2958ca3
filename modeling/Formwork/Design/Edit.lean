import Formwork.Design.Project

/-!
# Editing one property

Each function here changes one property of a control and answers nothing for a kind that does not
have it. Nothing is checked: an editor may leave a selection outside its options.
-/

set_option autoImplicit false

namespace Formwork

namespace Control

/-- The control with another text. -/
def withText? (t : String) : Control → Option Control
  | menuButton _ c => some (menuButton t c)
  | label _ => some (label t)
  | heading _ => some (heading t)
  | small _ => some (small t)
  | monospace _ => some (monospace t)
  | button _ => some (button t)
  | imageTextButton _ icon => some (imageTextButton t icon)
  | checkbox _ b => some (checkbox t b)
  | textEdit _ => some (textEdit t)
  | textArea _ => some (textArea t)
  | slider _ r => some (slider t r)
  | progressBar _ => none
  | radioGroup _ c => some (radioGroup t c)
  | link _ => some (link t)
  | hyperlink _ url => some (hyperlink t url)
  | selectableLabel _ b => some (selectableLabel t b)
  | comboBox _ c => some (comboBox t c)
  | separator => none
  | collapsingHeader _ b => some (collapsingHeader t b)
  | datePicker _ d => some (datePicker t d)
  | angleSelector _ r => some (angleSelector t r)
  | password _ => some (password t)
  | tree _ lines => some (tree t lines)
  | dragValue _ r => some (dragValue t r)
  | spinner => none
  | colorPicker _ c => some (colorPicker t c)
  | code _ => some (code t)
  | image _ url => some (image t url)
  | placeholder _ c => some (placeholder t c)
  | group _ b => some (group t b)
  | scrollBox _ => some (scrollBox t)
  | tabBar _ => none
  | columns _ n => some (columns t n)
  | window _ => some (window t)

/-- The control with another link. -/
def withUrl? (url : String) : Control → Option Control
  | hyperlink t _ => some (hyperlink t url)
  | image t _ => some (image t url)
  | _ => none

/-- The control with another icon. -/
def withIcon? (icon : String) : Control → Option Control
  | imageTextButton t _ => some (imageTextButton t icon)
  | _ => none

/-- The control with its options changed. -/
def mapChoice? (f : Choice → Choice) (c : Control) : Option Control :=
  c.choice?.map fun old => c.withChoice (f old)

/-- The control with other items: the options of a choice, or the lines of a tree. -/
def withItems? (items : List String) : Control → Option Control
  | tree t _ => some (tree t items)
  | c => c.mapChoice? fun old => { old with items }

/-- The control with its range changed. -/
def mapRange? (f : Range → Range) : Control → Option Control
  | slider t r => some (slider t (f r))
  | angleSelector t r => some (angleSelector t (f r))
  | dragValue t r => some (dragValue t (f r))
  | _ => none

/-- The control with another value. -/
def withValue? (x : Binary64) : Control → Option Control
  | progressBar _ => some (progressBar x)
  | c => c.mapRange? fun r => { r with value := x }

/-- The control switched on or off. -/
def withChecked? (b : Bool) : Control → Option Control
  | checkbox t _ => some (checkbox t b)
  | selectableLabel t _ => some (selectableLabel t b)
  | collapsingHeader t _ => some (collapsingHeader t b)
  | _ => none

/-- The control with its day changed. -/
def mapDay? (f : Day → Day) : Control → Option Control
  | datePicker t d => some (datePicker t (f d))
  | _ => none

/-- The control with another colour. -/
def withColor? (color : Color) : Control → Option Control
  | colorPicker t _ => some (colorPicker t color)
  | placeholder t _ => some (placeholder t color)
  | _ => none

/-- The control with another direction of layout. -/
def withHorizontal? (b : Bool) : Control → Option Control
  | group t _ => some (group t b)
  | _ => none

/-- The control with another number of columns. -/
def withColumns? (n : Int) : Control → Option Control
  | columns t _ => some (columns t n)
  | _ => none

end Control

/-- The selection brought into the range of the options. -/
def Choice.clamped (c : Choice) : Choice :=
  { c with selected := min c.selected (max (c.items.length - 1) 0) }

/-- The properties with other items; a selection is brought into their range. -/
def Props.withItems? (items : List String) (p : Props) : Option Props :=
  (p.control.withItems? items).map fun c =>
    { p with control := (c.mapChoice? Choice.clamped).getD c }

end Formwork
