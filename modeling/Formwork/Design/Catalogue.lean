import Formwork.Design.Project

/-!
# The catalogue

The size and the properties that a new widget of each kind begins with.
-/

set_option autoImplicit false

namespace Formwork.Kind

/-- The size of a new widget. -/
def defaultSize : Kind → Vec
  | menuButton => ⟨180, 28⟩
  | label => ⟨140, 24⟩
  | heading => ⟨200, 32⟩
  | small => ⟨120, 20⟩
  | monospace => ⟨140, 20⟩
  | button => ⟨160, 32⟩
  | imageTextButton => ⟨200, 36⟩
  | checkbox => ⟨160, 28⟩
  | textEdit => ⟨220, 36⟩
  | textArea => ⟨280, 120⟩
  | slider => ⟨220, 24⟩
  | progressBar => ⟨220, 20⟩
  | radioGroup => ⟨200, 80⟩
  | link => ⟨160, 20⟩
  | hyperlink => ⟨200, 20⟩
  | selectableLabel => ⟨180, 24⟩
  | comboBox => ⟨220, 28⟩
  | separator => ⟨220, 8⟩
  | collapsingHeader => ⟨260, 80⟩
  | datePicker => ⟨200, 28⟩
  | angleSelector => ⟨220, 28⟩
  | password => ⟨220, 36⟩
  | tree => ⟨260, 200⟩
  | dragValue => ⟨180, 24⟩
  | spinner => ⟨32, 32⟩
  | colorPicker => ⟨200, 28⟩
  | code => ⟨300, 150⟩
  | image => ⟨150, 150⟩
  | placeholder => ⟨200, 100⟩
  | group => ⟨250, 150⟩
  | scrollBox => ⟨200, 150⟩
  | tabBar => ⟨300, 32⟩
  | columns => ⟨300, 120⟩
  | window => ⟨280, 180⟩

/-- The outline that a new tree shows. -/
def sampleOutline : List String := [
  "Animals", "  Mammals", "    Dogs", "    Cats", "  Birds", "Plants", "  Trees", "  Flowers"]

/-- One quarter. -/
def quarter : Binary64 := .ofQuotient 1 4

/-- The control of a new widget. -/
def defaultControl : Kind → Control
  | menuButton => .menuButton "Menu" ⟨["First", "Second", "Third"], 0⟩
  | label => .label "Label"
  | heading => .heading "Heading"
  | small => .small "Small text"
  | monospace => .monospace "code_value"
  | button => .button "Button"
  | imageTextButton => .imageTextButton "Button" "🖼️"
  | checkbox => .checkbox "Checkbox" false
  | textEdit => .textEdit "Type here"
  | textArea => .textArea "Multi-line\ntext here"
  | slider => .slider "Value" ⟨42, 0, 100⟩
  | progressBar => .progressBar quarter
  | radioGroup => .radioGroup "Radio Group" ⟨["Option A", "Option B", "Option C"], 0⟩
  | link => .link "Link text"
  | hyperlink => .hyperlink "Open website" "https://example.com"
  | selectableLabel => .selectableLabel "Selectable" false
  | comboBox => .comboBox "Choose one" ⟨["Red", "Green", "Blue"], 0⟩
  | separator => .separator
  | collapsingHeader => .collapsingHeader "Section" true
  | datePicker => .datePicker "Pick a date" ⟨2025, 1, 1⟩
  | angleSelector => .angleSelector "Angle (deg)" ⟨45, 0, 360⟩
  | password => .password "password"
  | tree => .tree "Tree" sampleOutline
  | dragValue => .dragValue "Value" ⟨42, 0, 100⟩
  | spinner => .spinner
  | colorPicker => .colorPicker "Color" ⟨100, 149, 237, 255⟩
  | code => .code "def main():\n    print(\"Hello\")\n"
  | image => .image "image.png" "image.png"
  | placeholder => .placeholder "Placeholder" ⟨128, 128, 128, 128⟩
  | group => .group "Group" false
  | scrollBox => .scrollBox "Scroll content here..."
  | tabBar => .tabBar ⟨["Tab 1", "Tab 2", "Tab 3"], 0⟩
  | columns => .columns "Column content" 2
  | window => .window "Window Title"

/-- The properties of a new widget. -/
def defaultProps (k : Kind) : Props := { control := k.defaultControl }

theorem kind_defaultControl (k : Kind) : k.defaultControl.kind = k := by cases k <;> rfl

end Formwork.Kind
