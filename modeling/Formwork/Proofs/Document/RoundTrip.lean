import Formwork.Proofs.Document.Valid
import Formwork.Proofs.Json.RoundTrip
import Mathlib.Data.List.Nodup

/-!
# A project is decoded from its own document

`Project.decode_encode`: a valid project comes back, field by field and bit by bit, from the text
that it is written as. Two things are put together. The text is read as the JSON value it was
written from (`Json.read_render`), for which the value has to be admissible
(`Project.admissible_toJson`). And the check of that value answers the project
(`Document.project_toJson`), record by record: the keys of a record are distinct, so each field
finds the value that was written for it (`Document.field_of_mem`).

Nothing is assumed about the text of a number. That the shortest decimal reads back is proved for
the decimals of this library, not taken from elsewhere.
-/

set_option autoImplicit false

namespace Formwork

namespace Document

variable {ms : Members}

/-! ## Fields -/

/-- Among distinct keys each member is found under its own key. -/
theorem last?_of_mem {key : String} {v : Json} (distinct : (ms.map Prod.fst).Nodup)
    (mem : (key, v) ∈ ms) : Json.last? ms key = some v := by
  have some_member : (ms.reverse.find? fun m => m.1 == key).isSome = true :=
    List.find?_isSome.2 ⟨(key, v), List.mem_reverse.2 mem, beq_self_eq_true key⟩
  obtain ⟨m, found⟩ := Option.isSome_iff_exists.1 some_member
  have hkey : m.1 = key := by simpa using List.find?_some found
  have hmem : m ∈ ms := List.mem_reverse.1 (List.mem_of_find?_eq_some found)
  have same : m = (key, v) := List.inj_on_of_nodup_map distinct hmem mem hkey
  unfold Json.last?
  rw [found, same]
  rfl

/-- A field finds the value that was written for it. -/
theorem field_of_mem {α : Type} {key : String} {default : Option α} {check : Json → Checked α}
    {v : Json} {a : α} (distinct : (ms.map Prod.fst).Nodup) (mem : (key, v) ∈ ms)
    (h : check v = .ok a) : field ms key default check = .ok a :=
  field_eq_ok_of_last? (last?_of_mem distinct mem) h

theorem textField_of_mem {t : String} (distinct : (ms.map Prod.fst).Nodup)
    (mem : ("text", .text t) ∈ ms) : textField ms = .ok t :=
  field_of_mem distinct mem rfl

/-- A list that is written item by item is read item by item. -/
theorem listOf_map {α : Type} {check : Json → Checked α} {toJson : α → Json} {as : List α}
    (h : ∀ a ∈ as, check (toJson a) = .ok a) : listOf check (.list (as.map toJson)) = .ok as :=
  Checked.listFrom_eq_ok.2 (List.forall₂_map_left_iff.2 (List.forall₂_same.2 h))

theorem texts_texts (items : List String) : texts (.texts items) = .ok items :=
  listOf_map fun _ _ => rfl

theorem integerFrom_integer {bound : Nat} {n : Int} (h : bound ≤ n) :
    integerFrom bound (.integer n) = .ok n := by
  show (if n < bound then _ else _) = _
  rw [if_neg (Int.not_lt.2 h)]

theorem channel_integer {n : Int} (h : 0 ≤ n ∧ n ≤ maxChannel) :
    channel (.integer n) = .ok n := by
  show (if (maxChannel : Int) < n then _ else if n < 0 then _ else _) = _
  rw [if_neg (Int.not_lt.2 h.2), if_neg (Int.not_lt.2 h.1)]

theorem color_toJson {c : Color} (valid : c.Valid) : color c.toJson = .ok c := by
  have channels (n : Int) (hn : n ∈ c.channels) := channel_integer (valid n hn)
  have red := channels c.red (by simp [Color.channels])
  have green := channels c.green (by simp [Color.channels])
  have blue := channels c.blue (by simp [Color.channels])
  have alpha := channels c.alpha (by simp [Color.channels])
  show Color.mk <$> (channel _).within _ <*> (channel _).within _ <*> (channel _).within _
    <*> (channel _).within _ = _
  rw [red, green, blue, alpha]
  rfl

/-! ## Groups of fields -/

section Groups

variable (distinct : (ms.map Prod.fst).Nodup)
include distinct

theorem choiceFields_of_members {c : Choice} (valid : c.Valid) (mem : ∀ m ∈ c.members, m ∈ ms) :
    choiceFields ms = .ok c := by
  have items : field ms "items" (some []) texts = .ok c.items :=
    field_of_mem distinct (mem ("items", .texts c.items) (by simp [Choice.members]))
      (texts_texts c.items)
  have selected : field ms "selected" (some 0) (integerFrom 0) = .ok c.selected :=
    field_of_mem distinct (mem ("selected", .integer c.selected) (by simp [Choice.members]))
      (integerFrom_integer valid.1)
  unfold choiceFields
  rw [items, selected]
  rfl

theorem rangeFields_of_members {r : Range} (mem : ∀ m ∈ r.members, m ∈ ms) :
    rangeFields ms = .ok r := by
  have value : field ms "value" (some 0) number = .ok r.value :=
    field_of_mem distinct (mem ("value", .number r.value) (by simp [Range.members])) rfl
  have minimum : field ms "min" (some 0) number = .ok r.minimum :=
    field_of_mem distinct (mem ("min", .number r.minimum) (by simp [Range.members])) rfl
  have maximum : field ms "max" (some 1) number = .ok r.maximum :=
    field_of_mem distinct (mem ("max", .number r.maximum) (by simp [Range.members])) rfl
  unfold rangeFields
  rw [value, minimum, maximum]
  rfl

theorem dayFields_of_members {d : Day} (mem : ∀ m ∈ d.members, m ∈ ms) :
    dayFields ms = .ok d := by
  have year : field ms "year" (some 2025) integer = .ok d.year :=
    field_of_mem distinct (mem ("year", .integer d.year) (by simp [Day.members])) rfl
  have month : field ms "month" (some 1) integer = .ok d.month :=
    field_of_mem distinct (mem ("month", .integer d.month) (by simp [Day.members])) rfl
  have day : field ms "day" (some 1) integer = .ok d.day :=
    field_of_mem distinct (mem ("day", .integer d.day) (by simp [Day.members])) rfl
  unfold dayFields
  rw [year, month, day]
  rfl

/-- The properties of a kind are read from any object with distinct keys that holds them. -/
theorem control_of_members {c : Control} (valid : c.Valid) (leading : ∀ m ∈ c.leading, m ∈ ms)
    (trailing : ∀ m ∈ c.trailing, m ∈ ms) : control ms c.kind = .ok c := by
  have text (t : String) (first : c.leading.head? = some ("text", .text t)) :
      textField ms = .ok t :=
    textField_of_mem distinct (leading _ (List.mem_of_head? first))
  have last (m : String × Json) (only : c.trailing = [m]) : m ∈ ms :=
    trailing m (only ▸ List.mem_singleton_self m)
  cases c with
  | separator | spinner => rfl
  | progressBar x =>
    have value : field ms "value" (some 0) number = .ok x :=
      field_of_mem distinct (last ("value", .number x) rfl) rfl
    simp only [Control.kind, control, value]
    rfl
  | tabBar c =>
    have choice := choiceFields_of_members distinct valid trailing
    simp only [Control.kind, control, choice]
    rfl
  | label t | heading t | small t | monospace t | button t | textEdit t | textArea t | link t
  | password t | code t | scrollBox t | window t =>
    simp only [Control.kind, control, text t rfl]
    rfl
  | menuButton t c | radioGroup t c | comboBox t c =>
    have choice := choiceFields_of_members distinct valid
      fun m hm => leading m (List.mem_cons_of_mem _ hm)
    simp only [Control.kind, control, text t rfl, choice]
    rfl
  | slider t r | angleSelector t r | dragValue t r =>
    have range := rangeFields_of_members distinct
      fun m hm => leading m (List.mem_cons_of_mem _ hm)
    simp only [Control.kind, control, text t rfl, range]
    rfl
  | checkbox t b | selectableLabel t b | collapsingHeader t b =>
    have checked : checkedField ms = .ok b :=
      field_of_mem distinct (leading ("checked", .bool b) (by simp [Control.leading])) rfl
    simp only [Control.kind, control, text t rfl, checked]
    rfl
  | imageTextButton t icon =>
    have icon : field ms "icon" (some "") Document.text = .ok icon :=
      field_of_mem distinct (last ("icon", .text icon) rfl) rfl
    simp only [Control.kind, control, text t rfl, icon]
    rfl
  | hyperlink t url | image t url =>
    have url : field ms "url" (some "") Document.text = .ok url :=
      field_of_mem distinct (last ("url", .text url) rfl) rfl
    simp only [Control.kind, control, text t rfl, url]
    rfl
  | datePicker t d =>
    have day := dayFields_of_members distinct trailing
    simp only [Control.kind, control, text t rfl, day]
    rfl
  | tree t lines =>
    have items : field ms "items" (some []) texts = .ok lines :=
      field_of_mem distinct (last ("items", .texts lines) rfl) (texts_texts lines)
    simp only [Control.kind, control, text t rfl, items]
    rfl
  | colorPicker t c | placeholder t c =>
    have color (preset : Color) : field ms "color" (some preset) color = .ok c :=
      field_of_mem distinct (last ("color", c.toJson) rfl) (color_toJson valid)
    simp only [Control.kind, control, text t rfl, color]
    rfl
  | group t b =>
    have horizontal : field ms "horizontal" (some false) flag = .ok b :=
      field_of_mem distinct (last ("horizontal", .bool b) rfl) rfl
    simp only [Control.kind, control, text t rfl, horizontal]
    rfl
  | columns t n =>
    have count : field ms "columns" (some 2) (integerFrom 0) = .ok n :=
      field_of_mem distinct (last ("columns", .integer n) rfl) (integerFrom_integer valid.1)
    simp only [Control.kind, control, text t rfl, count]
    rfl

end Groups

/-! ## Records -/

/-- The keys of a property object are those that its kind has. -/
theorem keys_members (q : Props) : q.members.map Prod.fst = knownKeys q.kind := by
  obtain ⟨tooltip, enabled, c⟩ := q
  cases c <;> simp only [knownKeys, Props.members, Props.kind, Control.kind, Kind.defaultProps,
    Kind.defaultControl, Control.leading, Control.trailing, Choice.members, Range.members,
    Day.members, List.map_cons, List.map_nil, List.cons_append, List.nil_append]

theorem nodup_knownKeys (k : Kind) : (knownKeys k).Nodup := by cases k <;> decide

theorem noExtras_members (q : Props) : noExtras q.kind q.members = .ok () := by
  have none_left : (q.members.map fun m => m.1).filter (fun key => !(knownKeys q.kind).contains key)
      = [] := by
    rw [List.filter_eq_nil_iff]
    intro key mem
    rw [show (q.members.map fun m => m.1) = knownKeys q.kind from keys_members q] at mem
    simp [mem]
  unfold noExtras extraIssues
  rw [none_left]
  rfl

theorem props_members {q : Props} (valid : q.control.Valid) :
    props (.object q.members) = .ok q := by
  have distinct : (q.members.map Prod.fst).Nodup := keys_members q ▸ nodup_knownKeys q.kind
  have kind : kindOf q.members = .ok q.kind := by
    unfold kindOf
    rw [last?_of_mem distinct (v := .text q.kind.tag) (by simp [Props.members])]
    dsimp only
    rw [Kind.ofTag?_tag]
  have tooltip : field q.members "tooltip" (some "") text = .ok q.tooltip :=
    field_of_mem distinct (v := .text q.tooltip) (by simp [Props.members]) rfl
  have enabled : field q.members "enabled" (some true) flag = .ok q.enabled :=
    field_of_mem distinct (v := .bool q.enabled) (by simp [Props.members]) rfl
  have control : control q.members q.kind = .ok q.control :=
    control_of_members distinct valid
      (fun m hm => by simp [Props.members, hm]) (fun m hm => by simp [Props.members, hm])
  show (kindOf q.members).andThen _ = _
  rw [kind]
  show (propsOf q.kind q.members).within _ = _
  unfold propsOf
  rw [tooltip, enabled, control, noExtras_members]
  rfl

theorem vec_toJson (v : Vec) : vec v.toJson = .ok v := by
  have distinct : ([("x", Json.number v.x), ("y", .number v.y)].map Prod.fst).Nodup := by simp
  have x : field [("x", Json.number v.x), ("y", .number v.y)] "x" (some 0) number = .ok v.x :=
    field_of_mem distinct (v := .number v.x) (by simp) rfl
  have y : field [("x", Json.number v.x), ("y", .number v.y)] "y" (some 0) number = .ok v.y :=
    field_of_mem distinct (v := .number v.y) (by simp) rfl
  show Vec.mk <$> field _ "x" _ _ <*> field _ "y" _ _ = _
  rw [x, y]
  rfl

theorem area_tag (a : Area) : area (.text a.tag) = .ok a := by
  unfold area
  dsimp only
  rw [Area.ofTag?_tag]

theorem widget_toJson {w : Widget} (valid : w.Valid) : widget w.toJson = .ok w := by
  unfold Widget.toJson
  generalize members : [("id", Json.integer w.id), ("pos", w.pos.toJson), ("size", w.size.toJson),
    ("z", .integer w.z), ("area", .text w.area.tag), ("props", .object w.props.members)] = ms
  have distinct : (ms.map Prod.fst).Nodup := by simp [← members]
  have id : field ms "id" none (integerFrom 1) = .ok w.id :=
    field_of_mem distinct (v := .integer w.id) (by simp [← members])
      (integerFrom_integer valid.id_pos)
  have pos : field ms "pos" (some {}) vec = .ok w.pos :=
    field_of_mem distinct (v := w.pos.toJson) (by simp [← members]) (vec_toJson w.pos)
  have size : field ms "size" none vec = .ok w.size :=
    field_of_mem distinct (v := w.size.toJson) (by simp [← members]) (vec_toJson w.size)
  have z : field ms "z" (some 0) integer = .ok w.z :=
    field_of_mem distinct (v := .integer w.z) (by simp [← members]) rfl
  have area : field ms "area" (some .free) area = .ok w.area :=
    field_of_mem distinct (v := .text w.area.tag) (by simp [← members]) (area_tag w.area)
  have props : field ms "props" none props = .ok w.props :=
    field_of_mem distinct (v := .object w.props.members) (by simp [← members])
      (props_members valid.control)
  show Widget.mk <$> _ <*> _ <*> _ <*> _ <*> _ <*> _ = _
  rw [id, pos, size, z, area, props]
  rfl

/-- The value that is written for a valid project is accepted as it. -/
theorem project_toJson {p : Project} (valid : p.Valid) : project p.toJson = .ok p := by
  unfold Project.toJson
  generalize members : [("widgets", Json.list (p.widgets.map Widget.toJson)),
    ("canvas_size", p.canvas.toJson), ("panel_top_enabled", .bool p.panels.top),
    ("panel_bottom_enabled", .bool p.panels.bottom), ("panel_left_enabled", .bool p.panels.left),
    ("panel_right_enabled", .bool p.panels.right)] = ms
  have distinct : (ms.map Prod.fst).Nodup := by simp [← members]
  have widgets : field ms "widgets" (some []) (listOf widget) = .ok p.widgets :=
    field_of_mem distinct (v := .list (p.widgets.map Widget.toJson)) (by simp [← members])
      (listOf_map fun w hw => widget_toJson (valid.widgets w hw))
  have canvas : field ms "canvas_size" (some ⟨800, 600⟩) vec = .ok p.canvas :=
    field_of_mem distinct (v := p.canvas.toJson) (by simp [← members]) (vec_toJson p.canvas)
  have top : field ms "panel_top_enabled" (some false) flag = .ok p.panels.top :=
    field_of_mem distinct (v := .bool p.panels.top) (by simp [← members]) rfl
  have bottom : field ms "panel_bottom_enabled" (some false) flag = .ok p.panels.bottom :=
    field_of_mem distinct (v := .bool p.panels.bottom) (by simp [← members]) rfl
  have left : field ms "panel_left_enabled" (some false) flag = .ok p.panels.left :=
    field_of_mem distinct (v := .bool p.panels.left) (by simp [← members]) rfl
  have right : field ms "panel_right_enabled" (some false) flag = .ok p.panels.right :=
    field_of_mem distinct (v := .bool p.panels.right) (by simp [← members]) rfl
  show (Project.mk <$> _ <*> _ <*> panels ms).andThen uniqueIds = _
  unfold panels
  rw [widgets, canvas, top, bottom, left, right]
  exact uniqueIds_eq_ok.2 ⟨rfl, valid.distinct⟩

end Document

/-! ## The whole document -/

open Json (Admissible IsShort)

section Admissible

variable {room : Nat}

theorem Vec.admissible_toJson (v : Vec) : Admissible (room + 2) v.toJson := by
  refine .object fun m hm => ?_
  simp only [List.mem_cons, List.not_mem_nil, or_false] at hm
  rcases hm with rfl | rfl <;> exact .number _

theorem Json.admissible_texts (items : List String) : Admissible (room + 2) (.texts items) := by
  refine .list fun x hx => ?_
  obtain ⟨s, -, rfl⟩ := List.mem_map.1 hx
  exact .text s

theorem Color.admissible_toJson {c : Color} (valid : c.Valid) : Admissible (room + 2) c.toJson := by
  refine .list fun x hx => ?_
  obtain ⟨n, hn, rfl⟩ := List.mem_map.1 hx
  obtain ⟨low, high⟩ := valid n hn
  have most : (Document.maxChannel : Int) = 255 := rfl
  exact .integer (Json.isShort_of_natAbs_lt (k := 3) (by omega) (by decide))

theorem Choice.admissible_members {c : Choice} (valid : c.Valid) :
    ∀ m ∈ c.members, Admissible (room + 2) m.2 := by
  simp only [Choice.members, List.forall_mem_cons]
  exact ⟨Json.admissible_texts c.items, .integer valid.2, fun _ hm => nomatch hm⟩

theorem Range.admissible_members (r : Range) : ∀ m ∈ r.members, Admissible (room + 2) m.2 := by
  simp only [Range.members, List.forall_mem_cons]
  exact ⟨.number _, .number _, .number _, fun _ hm => nomatch hm⟩

theorem Day.admissible_members {d : Day} (valid : d.Valid) :
    ∀ m ∈ d.members, Admissible (room + 2) m.2 := by
  simp only [Day.members, List.forall_mem_cons]
  exact ⟨.integer valid.1, .integer valid.2.1, .integer valid.2.2, fun _ hm => nomatch hm⟩

/-- What stands before the tag of a property object. -/
theorem Control.admissible_leading {c : Control} (valid : c.Valid) :
    ∀ m ∈ c.leading, Admissible (room + 2) m.2 := by
  have text (t : String) : Admissible (room + 2) (.text t) := .text t
  have flag (b : Bool) : Admissible (room + 2) (.bool b) := .bool b
  cases c with
  | menuButton t c | radioGroup t c | comboBox t c =>
    exact List.forall_mem_cons.2 ⟨text t, Choice.admissible_members valid⟩
  | slider t r | angleSelector t r | dragValue t r =>
    exact List.forall_mem_cons.2 ⟨text t, r.admissible_members⟩
  | _ => simp [Control.leading, text, flag]

/-- What stands after the tag of a property object. -/
theorem Control.admissible_trailing {c : Control} (valid : c.Valid) :
    ∀ m ∈ c.trailing, Admissible (room + 2) m.2 := by
  have text (t : String) : Admissible (room + 2) (.text t) := .text t
  have flag (b : Bool) : Admissible (room + 2) (.bool b) := .bool b
  have number (x : Binary64) : Admissible (room + 2) (.number x) := .number x
  cases c with
  | datePicker t d => exact Day.admissible_members valid
  | tabBar c => exact Choice.admissible_members valid
  | colorPicker t c | placeholder t c =>
    exact List.forall_mem_cons.2 ⟨Color.admissible_toJson valid, fun _ hm => nomatch hm⟩
  | columns t n => exact List.forall_mem_cons.2 ⟨.integer valid.2, fun _ hm => nomatch hm⟩
  | tree t lines =>
    exact List.forall_mem_cons.2 ⟨Json.admissible_texts lines, fun _ hm => nomatch hm⟩
  | _ => simp [Control.trailing, text, flag, number]

theorem Props.admissible_members {q : Props} (valid : q.control.Valid) :
    ∀ m ∈ q.members, Admissible (room + 2) m.2 := by
  intro m hm
  simp only [Props.members, List.mem_append, List.mem_cons, List.not_mem_nil, or_false] at hm
  rcases hm with ((rfl | rfl) | leading) | rfl | trailing
  · exact .text _
  · exact .bool _
  · exact Control.admissible_leading valid m leading
  · exact .text _
  · exact Control.admissible_trailing valid m trailing

theorem Widget.admissible_toJson {w : Widget} (valid : w.Valid) :
    Admissible (room + 4) w.toJson := by
  refine .object ?_
  simp only [List.forall_mem_cons]
  exact ⟨.integer valid.id_short, w.pos.admissible_toJson, w.size.admissible_toJson,
    .integer valid.z_short, .text _, .object (Props.admissible_members valid.control),
    fun _ hm => nomatch hm⟩

/-- A document stays within the bounds of the reader: it nests at most five containers, and a
value may stand in the last of them. -/
theorem Project.admissible_toJson {p : Project} (valid : p.Valid) :
    Admissible (room + 6) p.toJson := by
  have widgets : ∀ v ∈ p.widgets.map Widget.toJson, Admissible (room + 4) v := by
    intro v hv
    obtain ⟨w, hw, rfl⟩ := List.mem_map.1 hv
    exact Widget.admissible_toJson (valid.widgets w hw)
  refine .object ?_
  simp only [List.forall_mem_cons]
  exact ⟨.list widgets, p.canvas.admissible_toJson, .bool _, .bool _, .bool _, .bool _,
    fun _ hm => nomatch hm⟩

end Admissible

namespace Project

/-- A valid project is decoded from its own document. -/
theorem decode_encode {p : Project} (valid : p.Valid) : decode p.encode = .ok p := by
  unfold decode encode
  rw [Json.read_render (admissible_toJson valid)]
  exact Document.project_toJson valid

/-- The projects that come back from their own documents are the valid ones. -/
theorem decode_encode_iff (p : Project) : decode p.encode = .ok p ↔ p.Valid :=
  ⟨valid_of_decode, decode_encode⟩

end Project

end Formwork
