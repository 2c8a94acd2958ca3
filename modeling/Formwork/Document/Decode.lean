import Formwork.Datum
import Formwork.Design.Catalogue
import Formwork.Document.Encode
import Formwork.Document.Scalar

/-!
# Reading a document

`Project.decode` reads a document text: its syntax first, then every field of every record in
the order in which documents write them, all issues together, and last, where nothing else is
wrong, that no id occurs twice. Fields that have a default may be left out. Unknown keys are
passed over, except among the properties of a widget, where each one is an issue.
-/

set_option autoImplicit false

namespace Formwork

namespace Document

/-- A field: checked where it is present, taken from the default where it is not. -/
def field {α : Type} (members : Members) (key : String) (default : Option α)
    (check : Json → Checked α) : Checked α :=
  match Json.last? members key, default with
  | some v, _ => (check v).within key
  | none, some a => .ok a
  | none, none => (Checked.refuse .missing).within key

/-- The members of an object. -/
def object : Json → Checked Members
  | .object members => .ok members
  | _ => .refuse .objectExpected

def vec (v : Json) : Checked Vec :=
  (object v).andThen fun ms =>
    Vec.mk <$> field ms "x" (some 0) number <*> field ms "y" (some 0) number

def area : Json → Checked Area
  | .text s =>
    match Area.ofTag? s with
    | some a => .ok a
    | none => .refuse .areaExpected
  | _ => .refuse .areaExpected

/-- The channel at a position of a colour that may be too short. -/
def channelAt (items : List Json) (i : Nat) : Checked Int :=
  match items[i]? with
  | some v => (channel v).within i.repr
  | none => (Checked.refuse .missing).within i.repr

/-- A colour of exactly four channels. -/
def color : Json → Checked Color
  | .list items =>
    if 4 < items.length then .refuse (.tooManyChannels items.length)
    else Color.mk <$> channelAt items 0 <*> channelAt items 1 <*> channelAt items 2
      <*> channelAt items 3
  | _ => .refuse .listExpected

section Fields

variable (ms : Members)

def textField : Checked String := field ms "text" (some "") text

def choiceFields : Checked Choice :=
  Choice.mk <$> field ms "items" (some []) texts <*> field ms "selected" (some 0) (integerFrom 0)

def rangeFields : Checked Range :=
  Range.mk <$> field ms "value" (some 0) number <*> field ms "min" (some 0) number
    <*> field ms "max" (some 1) number

def checkedField : Checked Bool := field ms "checked" (some false) flag

def dayFields : Checked Day :=
  Day.mk <$> field ms "year" (some 2025) integer <*> field ms "month" (some 1) integer
    <*> field ms "day" (some 1) integer

end Fields

/-- The properties of a kind, from the members of its property object. -/
def control (ms : Members) : Kind → Checked Control
  | .menuButton => .menuButton <$> textField ms <*> choiceFields ms
  | .label => .label <$> textField ms
  | .heading => .heading <$> textField ms
  | .small => .small <$> textField ms
  | .monospace => .monospace <$> textField ms
  | .button => .button <$> textField ms
  | .imageTextButton => .imageTextButton <$> textField ms <*> field ms "icon" (some "") text
  | .checkbox => .checkbox <$> textField ms <*> checkedField ms
  | .textEdit => .textEdit <$> textField ms
  | .textArea => .textArea <$> textField ms
  | .slider => .slider <$> textField ms <*> rangeFields ms
  | .progressBar => .progressBar <$> field ms "value" (some 0) number
  | .radioGroup => .radioGroup <$> textField ms <*> choiceFields ms
  | .link => .link <$> textField ms
  | .hyperlink => .hyperlink <$> textField ms <*> field ms "url" (some "") text
  | .selectableLabel => .selectableLabel <$> textField ms <*> checkedField ms
  | .comboBox => .comboBox <$> textField ms <*> choiceFields ms
  | .separator => .ok .separator
  | .collapsingHeader => .collapsingHeader <$> textField ms <*> checkedField ms
  | .datePicker => .datePicker <$> textField ms <*> dayFields ms
  | .angleSelector => .angleSelector <$> textField ms <*> rangeFields ms
  | .password => .password <$> textField ms
  | .tree => .tree <$> textField ms <*> field ms "items" (some []) texts
  | .dragValue => .dragValue <$> textField ms <*> rangeFields ms
  | .spinner => .ok .spinner
  | .colorPicker =>
    .colorPicker <$> textField ms <*> field ms "color" (some ⟨100, 149, 237, 255⟩) color
  | .code => .code <$> textField ms
  | .image => .image <$> textField ms <*> field ms "url" (some "") text
  | .placeholder =>
    .placeholder <$> textField ms <*> field ms "color" (some ⟨128, 128, 128, 128⟩) color
  | .group => .group <$> textField ms <*> field ms "horizontal" (some false) flag
  | .scrollBox => .scrollBox <$> textField ms
  | .tabBar => .tabBar <$> choiceFields ms
  | .columns => .columns <$> textField ms <*> field ms "columns" (some 2) (integerFrom 0)
  | .window => .window <$> textField ms

/-- The keys of a property object of the given kind. -/
def knownKeys (k : Kind) : List String := k.defaultProps.members.map fun m => m.1

/-- Issues for the keys that the kind does not have, each key once. -/
def extraIssues (k : Kind) (ms : Members) : List Issue :=
  ((ms.map fun m => m.1).filter fun key => !(knownKeys k).contains key).eraseDups.map
    fun key => ⟨[key], .extra⟩

/-- Refuses unknown keys. -/
def noExtras (k : Kind) (ms : Members) : Checked Unit :=
  match extraIssues k ms with
  | [] => .ok ()
  | i :: is => .rejected ⟨i, is⟩

/-- The properties of a given kind. -/
def propsOf (k : Kind) (ms : Members) : Checked Props :=
  Props.mk <$> field ms "tooltip" (some "") text <*> field ms "enabled" (some true) flag
    <*> control ms k <* noExtras k ms

/-- The kind that a property object names. -/
def kindOf (ms : Members) : Checked Kind :=
  match Json.last? ms "kind" with
  | none => .refuse .tagMissing
  | some (.text s) =>
    match Kind.ofTag? s with
    | some k => .ok k
    | none => .refuse (.unknownTag s)
  | some v => .refuse (.unknownTag (Datum.ofJson v).bare)

def props (v : Json) : Checked Props :=
  (object v).andThen fun ms =>
    (kindOf ms).andThen fun k => (propsOf k ms).within k.tag

def widget (v : Json) : Checked Widget :=
  (object v).andThen fun ms =>
    Widget.mk <$> field ms "id" none (integerFrom 1) <*> field ms "pos" (some {}) vec
      <*> field ms "size" none vec <*> field ms "z" (some 0) integer
      <*> field ms "area" (some .free) area <*> field ms "props" none props

/-- The four panel switches. -/
def panels (ms : Members) : Checked Panels :=
  Panels.mk <$> field ms "panel_top_enabled" (some false) flag
    <*> field ms "panel_bottom_enabled" (some false) flag
    <*> field ms "panel_left_enabled" (some false) flag
    <*> field ms "panel_right_enabled" (some false) flag

/-- The first id that an earlier widget already has. -/
def repeatedId? (seen : List Int) : List Widget → Option Int
  | [] => none
  | w :: ws => if seen.contains w.id then some w.id else repeatedId? (w.id :: seen) ws

/-- Refuses a project in which an id occurs twice. -/
def uniqueIds (p : Project) : Checked Project :=
  match repeatedId? [] p.widgets with
  | some id => .refuse (.duplicateId id)
  | none => .ok p

def project (v : Json) : Checked Project :=
  ((object v).andThen fun ms =>
    Project.mk <$> field ms "widgets" (some []) (listOf widget)
      <*> field ms "canvas_size" (some ⟨800, 600⟩) vec <*> panels ms).andThen uniqueIds

end Document

/-- Reads a document. -/
def Project.decode (s : String) : Document.Checked Project :=
  match Json.read s with
  | .ok v => Document.project v
  | .error e => .refuse (.malformed e)

end Formwork
