import Formwork.Proofs.Source.Expressions

/-!
# The state record begins as the design says

What a new record gives its fields is read back, expression by expression, and compared with the
design (`Project.snapshot_generate`). The four panel switches come first. Then comes every widget
that keeps a value, area by area as they are drawn, under its own name and with the value that the
design gives it, brought into range where the design is out of range (`Begins`).

The relation says what a value must be without the functions that bring it there. In particular a
day is asked to exist, which the reader checks too: it makes no day that the calendar does not have.
-/

set_option autoImplicit false

namespace Formwork

namespace Source

/-- Does a widget have a value that can change while the program runs? -/
def isKeeper (w : Widget) : Bool :=
  match w.kind with
  | .menuButton | .checkbox | .textEdit | .textArea | .slider | .progressBar | .radioGroup
  | .selectableLabel | .comboBox | .collapsingHeader | .datePicker | .angleSelector | .password
  | .dragValue | .colorPicker | .code | .tabBar | .window => true
  | _ => false

/-- The widgets that keep a value, in the order in which they are drawn. -/
def keepers (p : Project) : List Widget :=
  (Area.drawOrder.flatMap p.inArea).filter isKeeper

/-- The day exists, also with another month or year, and each part of the given day that the
calendar allows in every month is kept. -/
structure Adjusts (given day : Day) : Prop where
  real : day.Exists
  everyMonth : day.InEveryMonth
  year : 1 ≤ given.year → given.year ≤ 9999 → day.year = given.year
  month : 1 ≤ given.month → given.month ≤ 12 → day.month = given.month
  day : 1 ≤ given.day → given.day ≤ 28 → day.day = given.day

/-- The value with which a control begins. -/
inductive Begins : Control → Value → Prop where
  | textEdit (t : String) : Begins (.textEdit t) (.text t)
  | textArea (t : String) : Begins (.textArea t) (.text t)
  | password (t : String) : Begins (.password t) (.text t)
  | code (t : String) : Begins (.code t) (.text t)
  | checkbox (t : String) (b : Bool) : Begins (.checkbox t b) (.flag b)
  | selectableLabel (t : String) (b : Bool) : Begins (.selectableLabel t b) (.flag b)
  | collapsingHeader (t : String) (b : Bool) : Begins (.collapsingHeader t b) (.flag b)
  | choice {control : Control} {c : Choice} (options : control.choice? = some c) :
    Begins control (.integer (if c.items = [] then 0 else min c.selected (c.items.length - 1)))
  | datePicker (t : String) {given day : Day} (adjusts : Adjusts given day) :
    Begins (.datePicker t given) (.day day)
  | colorPicker (t : String) (c : Color) :
    Begins (.colorPicker t c)
      (.quotients [(c.red : ℚ) / 255, (c.green : ℚ) / 255, (c.blue : ℚ) / 255, (c.alpha : ℚ) / 255])
  | slider (t : String) (r : Range) : Begins (.slider t r) (.number (r.value.toPlaces 3))
  | angleSelector (t : String) (r : Range) :
    Begins (.angleSelector t r) (.number (r.value.toPlaces 3))
  | dragValue (t : String) (r : Range) : Begins (.dragValue t r) (.number (r.value.toPlaces 3))
  | progressBar (x : Binary64) : Begins (.progressBar x) (.number (Binary64.toPlaces 3
      (if x.isNaN ∨ x.below 0 then 0 else if Binary64.below 1 x then 1 else x)))
  | window (t : String) : Begins (.window t) (.flag true)

/-- The names and the values that are read from the assignments of a record. -/
def readings (text : String) : List (String × Option Value) :=
  (assignments text).map fun a => (a.1, Value.read? a.2.toList)

/-! ## Values brought into range -/

theorem adjusts_clampDay (d : Day) : Adjusts d (clampDay d) := by
  have everyMonth : (clampDay d).InEveryMonth := by
    intro year month _ _ _ _
    have days := le_daysIn year month
    refine ⟨‹_›, ‹_›, ‹_›, ‹_›, ?_, ?_⟩ <;> simp only [clampDay] <;> omega
  refine ⟨?_, everyMonth, ?_, ?_, ?_⟩
  · apply everyMonth (clampDay d).year (clampDay d).month <;> simp only [clampDay] <;> omega
  all_goals
    intro _ _
    simp only [clampDay]
    omega

theorem clampIndex_of_nonneg {selected : Int} (natural : 0 ≤ selected) (items : List String) :
    clampIndex selected items.length =
      if items = [] then 0 else min selected (items.length - 1) := by
  unfold clampIndex
  cases items with
  | nil => rfl
  | cons item items =>
    have some_item : ¬(item :: items).length = 0 := Nat.succ_ne_zero _
    rw [if_neg some_item, if_neg (List.cons_ne_nil item items), List.length_cons]
    omega

theorem clampUnit_eq (x : Binary64) : clampUnit x =
    if x.isNaN ∨ x.below 0 then 0 else if Binary64.below 1 x then 1 else x := by
  have least : Binary64.lesser 0 1 = 0 := by decide +kernel
  by_cases nan : x.isNaN = true
  · rw [clampUnit, if_pos nan, if_pos (.inl nan)]
  rw [clampUnit, if_neg nan, Binary64.greater]
  by_cases negative : x.below 0 = true
  · rw [if_pos negative, if_pos (.inr negative), least]
  · rw [if_neg negative, if_neg (not_or.2 ⟨nan, negative⟩), Binary64.lesser]

/-! ## One widget -/

theorem render_singleton (piece : Piece) : Line.render [piece] = piece.render := by
  rw [render_cons]
  exact String.append_empty

/-- The piece is read as the value. -/
def ReadsAs (piece : Piece) (v : Value) : Prop :=
  Value.read? (Line.render [piece]).toList = some v

theorem readsAs_text (t : String) : ReadsAs (.text t) (.text t) := by
  rw [ReadsAs, render_singleton]
  exact read?_text t

theorem readsAs_flag (b : Bool) : ReadsAs (.flag b) (.flag b) := by
  rw [ReadsAs, render_singleton]
  exact read?_flag b

theorem readsAs_number (x : Binary64) : ReadsAs (.number x 3) (.number (x.toPlaces 3)) := by
  rw [ReadsAs, render_singleton]
  exact read?_number (by decide) x

theorem readsAs_selection {c : Choice} (natural : 0 ≤ c.selected) :
    ReadsAs (.integer (clampIndex c.selected c.items.length))
      (.integer (if c.items = [] then 0 else min c.selected (c.items.length - 1))) := by
  rw [ReadsAs, render_singleton, clampIndex_of_nonneg natural]
  exact read?_integer _

theorem readsAs_channels (c : Color) : ReadsAs (channelsText c.channels) (.quotients
    [(c.red : ℚ) / 255, (c.green : ℚ) / 255, (c.blue : ℚ) / 255, (c.alpha : ℚ) / 255]) := by
  rw [ReadsAs, render_singleton]
  exact read?_quotients c.red [c.green, c.blue, c.alpha]

/-- What a control keeps at first is read as the value with which it begins. -/
theorem begins_stateOf {control : Control} (natural : control.SelectsNat) {stem : Stem}
    {hint : String} {initial : Line} (state : stateOf control = some (stem, hint, initial)) :
    ∃ v, Value.read? initial.render.toList = some v ∧ Begins control v := by
  cases control with
  | textEdit t | textArea t | password t | code t =>
    cases state
    exact ⟨_, readsAs_text t, by constructor⟩
  | checkbox t b | selectableLabel t b | collapsingHeader t b =>
    cases state
    exact ⟨_, readsAs_flag b, by constructor⟩
  | slider t r | angleSelector t r | dragValue t r =>
    cases state
    exact ⟨_, readsAs_number r.value, by constructor⟩
  | menuButton t c | radioGroup t c | comboBox t c | tabBar c =>
    cases state
    exact ⟨_, readsAs_selection (natural c rfl), .choice rfl⟩
  | progressBar x =>
    cases state
    exact ⟨_, readsAs_number (clampUnit x), by rw [clampUnit_eq]; exact .progressBar x⟩
  | datePicker t d =>
    cases state
    exact ⟨_, read?_day (adjusts_clampDay d).real, .datePicker t (adjusts_clampDay d)⟩
  | colorPicker t c =>
    cases state
    exact ⟨_, readsAs_channels c, .colorPicker t c⟩
  | window t =>
    cases state
    exact ⟨_, readsAs_flag true, .window t⟩
  | _ => cases state

/-- The reading belongs to the widget: it has the name of its field, and the value with which its
control begins. -/
def ReadingOf (w : Widget) (reading : String × Option Value) : Prop :=
  nameOf w = some reading.1 ∧ ∃ v, reading.2 = some v ∧ Begins w.props.control v

/-- The reading of a field. -/
def reading (f : Field) : String × Option Value :=
  (f.slot.name, Value.read? (Line.render f.initial).toList)

theorem readingOf_reading {w : Widget} (natural : w.props.control.SelectsNat) {f : Field}
    (own : fieldOf w = some f) : ReadingOf w (reading f) := by
  obtain ⟨⟨stem, hint, initial⟩, state, rfl⟩ := Option.map_eq_some_iff.1 own
  refine ⟨by rw [nameOf, own]; rfl, begins_stateOf natural state⟩

theorem isSome_fieldOf (w : Widget) : (fieldOf w).isSome = isKeeper w := by
  rw [fieldOf, Option.isSome_map, isKeeper, Widget.kind, Props.kind]
  cases w.props.control <;> rfl

/-- The fields of widgets in a list belong to those widgets of the list that keep a value. -/
theorem forall₂_readingOf (ws : List Widget)
    (natural : ∀ w ∈ ws, w.props.control.SelectsNat) :
    List.Forall₂ ReadingOf (ws.filter isKeeper)
      ((ws.filterMap fieldOf).map reading) := by
  induction ws with
  | nil => exact .nil
  | cons w ws ih =>
    obtain ⟨first, others⟩ := List.forall_mem_cons.1 natural
    have keeps := isSome_fieldOf w
    cases own : fieldOf w with
    | none =>
      rw [own, Option.isSome_none] at keeps
      rw [List.filter_cons_of_neg (by simp [← keeps]), List.filterMap_cons_none own]
      exact ih others
    | some f =>
      rw [own, Option.isSome_some] at keeps
      rw [List.filter_cons_of_pos keeps.symm, List.filterMap_cons_some own, List.map_cons]
      exact .cons (readingOf_reading first own) (ih others)

/-! ## The record -/

section Record

variable (p : Project) (f : Format) (comments : Bool)

theorem readings_generate : readings (p.generate f comments) = (fields p).map reading := by
  rw [readings, assignments_generate, List.map_map]
  rfl

theorem map_reading_panelField :
    (Panel.all.map (panelField p.panels)).map reading = [
      ("enable_top", some (.flag p.panels.top)), ("enable_bottom", some (.flag p.panels.bottom)),
      ("enable_left", some (.flag p.panels.left)),
      ("enable_right", some (.flag p.panels.right))] := by
  have flag (panel : Panel) : reading (panelField p.panels panel) =
      (Slot.name (.panel panel), some (.flag (p.panels.get panel))) := by
    rw [reading, panelField, readsAs_flag]
  rw [List.map_map]
  show [reading _, reading _, reading _, reading _] = _
  rw [flag, flag, flag, flag]
  rfl

end Record

end Source

open Source in
/-- **The first values of a record are those of the design.** Where ids are distinct and no selection
is negative, the assignments of the state record can be read as expressions, and no name is assigned
twice. They are the four panel switches of the design, and behind them one assignment for every
widget that keeps a value, in the order in which the widgets are drawn. -/
theorem Project.snapshot_generate (p : Project) (f : Format) (comments : Bool)
    (selecting : p.Selecting) :
    ((readings (p.generate f comments)).map Prod.fst).Nodup ∧
      ∃ own, readings (p.generate f comments) = [
          ("enable_top", some (.flag p.panels.top)),
          ("enable_bottom", some (.flag p.panels.bottom)),
          ("enable_left", some (.flag p.panels.left)),
          ("enable_right", some (.flag p.panels.right))] ++ own ∧
        List.Forall₂ ReadingOf (keepers p) own := by
  have names : (readings (p.generate f comments)).map Prod.fst = (slots p).map Slot.name := by
    rw [readings_generate, List.map_map, slots, List.map_map]
    rfl
  have drawn : ∀ w ∈ Area.drawOrder.flatMap p.inArea, w.props.control.SelectsNat :=
    fun w mem => selecting.natural w ((perm_inArea p).subset mem)
  refine ⟨?_, _, ?_, forall₂_readingOf (Area.drawOrder.flatMap p.inArea) drawn⟩
  · rw [names]
    exact (nodup_slots selecting.distinct).map Slot.name_injective
  · rw [readings_generate, fields, List.map_append, map_reading_panelField,
      List.filterMap_flatMap]

/-- Texts with quotes, brackets and a backslash, a selection behind its options and one without any,
a day that no calendar has, a colour and a number that is not finite. -/
def Project.manyValues : Project :=
  { widgets := [
      { id := 12, size := ⟨200, 24⟩, props := { control := .textEdit "a\"] = [1 / 0]\\" } },
      { id := 3, size := ⟨120, 24⟩, area := .left,
        props := { control := .comboBox "Size" ⟨["S", "M"], 9⟩ } },
      { id := 4, size := ⟨300, 80⟩, props := { control := .tabBar ⟨[], 4⟩ } },
      { id := 1, size := ⟨160, 24⟩, area := .top,
        props := { control := .datePicker "When" ⟨2024, 13, 31⟩ } },
      { id := 7, size := ⟨200, 24⟩, props := { control := .colorPicker "Ink" ⟨0, 51, 102, 255⟩ } },
      { id := 5, size := ⟨200, 24⟩, props := { control := .slider "Speed" ⟨.nan, 0, 1⟩ } },
      { id := 6, size := ⟨200, 24⟩, props := { control := .checkbox "On" true } },
      { id := 2, size := ⟨200, 24⟩, props := { control := .label "None" } }]
    panels := { top := true } }

open Source in
theorem Project.snapshot_generate_manyValues :
    manyValues.Selecting ∧
      ((readings (manyValues.generate .single true)).map Prod.fst).Nodup ∧
      ∃ own, readings (manyValues.generate .single true) = [
          ("enable_top", some (.flag true)), ("enable_bottom", some (.flag false)),
          ("enable_left", some (.flag false)), ("enable_right", some (.flag false))] ++ own ∧
        List.Forall₂ ReadingOf (keepers manyValues) own := by
  have selecting : manyValues.Selecting := by decide
  exact ⟨selecting, snapshot_generate manyValues .single true selecting⟩

end Formwork
