import Formwork.Proofs.Document.Checked
import Formwork.Proofs.Json.Admissible

/-!
# The projects that documents hold

`Project.Valid` collects what a document can say about a project: the declared bounds of its
fields, ids that are pairwise distinct, and integers that the reader admits. Every project that is
decoded satisfies it (`Project.valid_of_decode`), whatever the text, the strings and flags that
stand for integers included. The converse, that a valid project is decoded from its own document,
is the round trip.

What is said of generated text asks for less. `Project.Identified` is what the names of fields need
of ids, and `Project.Selecting` what their first values need of selections. Valid projects are both.
-/

set_option autoImplicit false

namespace Formwork

open Json (IsShort Admissible isShort_of_digits isShort_of_natAbs_lt)

/-- A count or a position: not negative, and short enough to be read. -/
def IsShortNat (n : Int) : Prop := 0 ≤ n ∧ IsShort n

def Choice.Valid (c : Choice) : Prop := IsShortNat c.selected

def Color.Valid (c : Color) : Prop := ∀ n ∈ c.channels, 0 ≤ n ∧ n ≤ Document.maxChannel

def Day.Valid (d : Day) : Prop := IsShort d.year ∧ IsShort d.month ∧ IsShort d.day

instance (n : Int) : Decidable (IsShortNat n) := inferInstanceAs (Decidable (_ ∧ _))

instance (c : Choice) : Decidable c.Valid := inferInstanceAs (Decidable (IsShortNat _))

instance (c : Color) : Decidable c.Valid := inferInstanceAs (Decidable (∀ n ∈ c.channels, _))

instance (d : Day) : Decidable d.Valid := inferInstanceAs (Decidable (_ ∧ _))

/-- The bounds of the properties of a kind. -/
def Control.Valid : Control → Prop
  | .menuButton _ c => c.Valid
  | .radioGroup _ c => c.Valid
  | .comboBox _ c => c.Valid
  | .tabBar c => c.Valid
  | .datePicker _ d => d.Valid
  | .colorPicker _ c => c.Valid
  | .placeholder _ c => c.Valid
  | .columns _ n => IsShortNat n
  | _ => True

/-- The bounds of the fields of a widget. -/
structure Widget.Valid (w : Widget) : Prop where
  id_pos : 1 ≤ w.id
  id_short : IsShort w.id
  z_short : IsShort w.z
  control : w.props.control.Valid

/-- What a document can say about a project. -/
structure Project.Valid (p : Project) : Prop where
  widgets : ∀ w ∈ p.widgets, w.Valid
  distinct : (p.widgets.map Widget.id).Nodup

/-- The ids of the widgets, in list order. -/
def Project.ids (p : Project) : List Int := p.widgets.map Widget.id

/-- No selection of the control is negative. -/
def Control.SelectsNat (c : Control) : Prop := ∀ d, c.choice? = some d → 0 ≤ d.selected

instance (c : Control) : Decidable c.SelectsNat :=
  inferInstanceAs (Decidable (∀ d ∈ c.choice?, 0 ≤ d.selected))

/-- The ids tell the widgets apart, and all of them can stand in a name. -/
structure Project.Identified (p : Project) : Prop where
  distinct : p.ids.Nodup
  natural : ∀ id ∈ p.ids, 0 ≤ id

/-- The ids tell the widgets apart, and no selection is negative. -/
structure Project.Selecting (p : Project) : Prop where
  distinct : p.ids.Nodup
  natural : ∀ w ∈ p.widgets, w.props.control.SelectsNat

instance (p : Project) : Decidable p.Identified :=
  decidable_of_iff (p.ids.Nodup ∧ ∀ id ∈ p.ids, 0 ≤ id)
    ⟨fun h => ⟨h.1, h.2⟩, fun h => ⟨h.distinct, h.natural⟩⟩

instance (p : Project) : Decidable p.Selecting :=
  decidable_of_iff (p.ids.Nodup ∧ ∀ w ∈ p.widgets, w.props.control.SelectsNat)
    ⟨fun h => ⟨h.1, h.2⟩, fun h => ⟨h.distinct, h.natural⟩⟩

theorem Control.Valid.selectsNat {c : Control} (valid : c.Valid) : c.SelectsNat := by
  intro d chosen
  cases c <;> cases chosen <;> exact valid.1

section WellFormed

variable {p : Project}

theorem Project.identified_of_pos (distinct : p.ids.Nodup) (pos : ∀ w ∈ p.widgets, 1 ≤ w.id) :
    p.Identified where
  distinct := distinct
  natural id hid := by
    obtain ⟨w, hw, rfl⟩ := List.mem_map.1 hid
    exact Int.le_trans (by decide) (pos w hw)

theorem Project.selecting_of_valid (distinct : p.ids.Nodup)
    (valid : ∀ w ∈ p.widgets, w.props.control.Valid) : p.Selecting :=
  ⟨distinct, fun w hw => (valid w hw).selectsNat⟩

theorem Project.Valid.identified (valid : p.Valid) : p.Identified :=
  identified_of_pos valid.distinct fun w hw => (valid.widgets w hw).id_pos

theorem Project.Valid.selecting (valid : p.Valid) : p.Selecting :=
  selecting_of_valid valid.distinct fun w hw => (valid.widgets w hw).control

end WellFormed

namespace Document

variable {room : Nat} {v : Json} {ms : Members}

/-! ## Scalars -/

/-- What stands under a key of an admissible object is admissible. -/
theorem admissible_of_last? {key : String} (h : Admissible (room + 1) (.object ms))
    (found : Json.last? ms key = some v) : Admissible room v := by
  cases h with
  | object inside =>
    obtain ⟨m, hm, rfl⟩ := Option.map_eq_some_iff.1 found
    exact inside m (List.mem_reverse.1 (List.mem_of_find?_eq_some hm))

theorem digits_of_plainDigits? {cs ds : List Char} (h : plainDigits? cs = some ds) :
    ∀ c ∈ ds, c.isDigit = true := by
  unfold plainDigits? at h
  split at h
  next c cs =>
    split at h
    next => cases h
    next =>
      split at h
      next =>
        split at h
        next =>
          cases h
          simp
        next => cases h
      next =>
        obtain ⟨es, -, h⟩ := Option.bind_eq_some_iff.1 h
        split at h
        next all =>
          cases h
          simpa using all
        next => cases h
  next => cases h

theorem isShort_of_integerText {s : String} {n : Int} (h : integerText s = .ok n) : IsShort n := by
  unfold integerText at h
  dsimp only at h
  split at h
  next => cases h
  next ds plain =>
    split at h
    next => cases h
    next fits =>
      obtain rfl := Checked.ok.inj h
      obtain ⟨body, -, plain⟩ := Option.bind_eq_some_iff.1 plain
      exact isShort_of_digits _ (digits_of_plainDigits? plain) (Nat.le_of_not_lt fits)

theorem isShort_of_integerNumber {x : Binary64} {n : Int} (h : integerNumber x = .ok n) :
    IsShort n := by
  unfold integerNumber at h
  split at h
  next negative u _ =>
    split at h
    next => cases h
    next =>
      split at h
      next => cases h
      next below =>
        obtain rfl := Checked.ok.inj h
        have bound : integerNumberBound ≤ 10 ^ 63 := Nat.pow_le_pow_left (by decide) 63
        refine isShort_of_natAbs_lt (k := 63) ?_ (by decide)
        generalize u / oneSteps = q at below ⊢
        have small : q < 10 ^ 63 := by omega
        cases negative with
        | false => simpa using small
        | true => simpa using small
  next => cases h

/-- Whatever stands for an integer is short. -/
theorem isShort_of_integer {n : Int} (hv : Admissible room v) (h : integer v = .ok n) :
    IsShort n := by
  cases hv with
  | integer short => exact Checked.ok.inj h ▸ short
  | bool b =>
    obtain rfl := Checked.ok.inj h
    cases b <;> decide
  | number x => exact isShort_of_integerNumber h
  | text s => exact isShort_of_integerText h
  | null => cases h
  | list => cases h
  | object => cases h

theorem of_integerFrom {bound : Nat} {n : Int} (hv : Admissible room v)
    (h : integerFrom bound v = .ok n) : bound ≤ n ∧ IsShort n := by
  obtain ⟨m, hm, h⟩ := Checked.andThen_eq_ok.1 h
  split at h
  next => cases h
  next above =>
    obtain rfl := Checked.ok.inj h
    exact ⟨Int.not_lt.1 above, isShort_of_integer hv hm⟩

theorem of_channel {n : Int} (h : channel v = .ok n) : 0 ≤ n ∧ n ≤ maxChannel := by
  obtain ⟨m, -, h⟩ := Checked.andThen_eq_ok.1 h
  split_ifs at h with above below
  · cases h
  · cases h
  · obtain rfl := Checked.ok.inj h
    exact ⟨Int.not_lt.1 below, Int.not_lt.1 above⟩

/-! ## Fields -/

/-- An accepted field satisfies what its check establishes, if its default does. -/
theorem of_field {α : Type} {P : α → Prop} {key : String} {default : Option α}
    {check : Json → Checked α} {a : α} (object : Admissible (room + 1) (.object ms))
    (sound : ∀ v a, Admissible room v → check v = .ok a → P a) (preset : ∀ a ∈ default, P a)
    (h : field ms key default check = .ok a) : P a := by
  rcases of_field_eq_ok h with ⟨v, found, accepted⟩ | rfl
  · exact sound v a (admissible_of_last? object found) accepted
  · exact preset a rfl

theorem isShort_of_field {key : String} {preset n : Int}
    (object : Admissible (room + 1) (.object ms)) (short : IsShort preset)
    (h : field ms key (some preset) integer = .ok n) : IsShort n :=
  of_field object (fun _ _ => isShort_of_integer) (fun _ e => Option.some.inj e ▸ short) h

theorem isShortNat_of_field {key : String} {preset n : Int}
    (object : Admissible (room + 1) (.object ms)) (short : IsShortNat preset)
    (h : field ms key (some preset) (integerFrom 0) = .ok n) : IsShortNat n :=
  of_field object (fun _ _ => of_integerFrom) (fun _ e => Option.some.inj e ▸ short) h

theorem valid_of_choiceFields {c : Choice} (object : Admissible (room + 1) (.object ms))
    (h : choiceFields ms = .ok c) : c.Valid := by
  simp only [choiceFields, Checked.seq_eq_ok, Checked.map_eq_ok] at h
  obtain ⟨_, n, ⟨items, -, rfl⟩, selected, rfl⟩ := h
  exact isShortNat_of_field object (by decide) selected

theorem valid_of_dayFields {d : Day} (object : Admissible (room + 1) (.object ms))
    (h : dayFields ms = .ok d) : d.Valid := by
  simp only [dayFields, Checked.seq_eq_ok, Checked.map_eq_ok] at h
  obtain ⟨_, day, ⟨_, month, ⟨year, hyear, rfl⟩, hmonth, rfl⟩, hday, rfl⟩ := h
  exact ⟨isShort_of_field object (by decide) hyear, isShort_of_field object (by decide) hmonth,
    isShort_of_field object (by decide) hday⟩

theorem of_channelAt {items : List Json} {i : Nat} {n : Int} (h : channelAt items i = .ok n) :
    0 ≤ n ∧ n ≤ maxChannel := by
  unfold channelAt at h
  split at h
  next => exact of_channel (Checked.within_eq_ok.1 h)
  next => cases h

theorem valid_of_color {c : Color} (h : color v = .ok c) : c.Valid := by
  unfold color at h
  split at h
  next items =>
    split at h
    next => cases h
    next =>
      simp only [Checked.seq_eq_ok, Checked.map_eq_ok] at h
      obtain ⟨_, alpha, ⟨_, blue, ⟨_, green, ⟨red, hr, rfl⟩, hg, rfl⟩, hb, rfl⟩, ha, rfl⟩ := h
      intro n hn
      simp only [Color.channels, List.mem_cons, List.not_mem_nil, or_false] at hn
      rcases hn with rfl | rfl | rfl | rfl
      · exact of_channelAt hr
      · exact of_channelAt hg
      · exact of_channelAt hb
      · exact of_channelAt ha
  next => cases h

theorem valid_of_colorField {key : String} {preset c : Color}
    (object : Admissible (room + 1) (.object ms)) (valid : preset.Valid)
    (h : field ms key (some preset) color = .ok c) : c.Valid :=
  of_field object (fun _ _ _ => valid_of_color) (fun _ e => Option.some.inj e ▸ valid) h

/-- The properties of a kind that are accepted are within its bounds. -/
theorem valid_of_control {k : Kind} {c : Control} (object : Admissible (room + 1) (.object ms))
    (h : control ms k = .ok c) : c.Valid := by
  cases k with
  | separator | spinner => exact Checked.ok.inj h ▸ trivial
  | label | heading | small | monospace | button | textEdit | textArea | progressBar | link
  | password | code | scrollBox | window =>
    obtain ⟨_, -, rfl⟩ := Checked.map_eq_ok.1 h
    exact trivial
  | imageTextButton | checkbox | slider | hyperlink | selectableLabel | collapsingHeader
  | angleSelector | tree | dragValue | image | group =>
    simp only [control, Checked.seq_eq_ok, Checked.map_eq_ok] at h
    obtain ⟨_, _, ⟨_, -, rfl⟩, -, rfl⟩ := h
    exact trivial
  | menuButton | radioGroup | comboBox =>
    simp only [control, Checked.seq_eq_ok, Checked.map_eq_ok] at h
    obtain ⟨_, choice, ⟨_, -, rfl⟩, accepted, rfl⟩ := h
    exact valid_of_choiceFields object accepted
  | tabBar =>
    obtain ⟨choice, accepted, rfl⟩ := Checked.map_eq_ok.1 h
    exact valid_of_choiceFields object accepted
  | datePicker =>
    simp only [control, Checked.seq_eq_ok, Checked.map_eq_ok] at h
    obtain ⟨_, day, ⟨_, -, rfl⟩, accepted, rfl⟩ := h
    exact valid_of_dayFields object accepted
  | colorPicker | placeholder =>
    simp only [control, Checked.seq_eq_ok, Checked.map_eq_ok] at h
    obtain ⟨_, color, ⟨_, -, rfl⟩, accepted, rfl⟩ := h
    exact valid_of_colorField object (by decide) accepted
  | columns =>
    simp only [control, Checked.seq_eq_ok, Checked.map_eq_ok] at h
    obtain ⟨_, count, ⟨_, -, rfl⟩, accepted, rfl⟩ := h
    exact isShortNat_of_field object (by decide) accepted

/-! ## Records -/

theorem valid_of_props {q : Props} (hv : Admissible room v) (h : props v = .ok q) :
    q.control.Valid := by
  simp only [props, propsOf, Checked.andThen_eq_ok, Checked.within_eq_ok, Checked.seqLeft_eq_ok,
    Checked.seq_eq_ok, Checked.map_eq_ok, object_eq_ok] at h
  obtain ⟨ms, rfl, k, -, ⟨_, c, ⟨_, enabled, ⟨tooltip, -, rfl⟩, -, rfl⟩, accepted, rfl⟩, -⟩ := h
  cases hv with
  | object inside => exact valid_of_control (.object inside) accepted

theorem valid_of_widget {w : Widget} (hv : Admissible room v) (h : widget v = .ok w) : w.Valid := by
  simp only [widget, Checked.andThen_eq_ok, Checked.seq_eq_ok, Checked.map_eq_ok,
    object_eq_ok] at h
  obtain ⟨ms, rfl, _, q, ⟨_, area, ⟨_, z, ⟨_, size, ⟨_, pos, ⟨id, hid, rfl⟩, -, rfl⟩, -, rfl⟩,
    hz, rfl⟩, -, rfl⟩, hprops, rfl⟩ := h
  cases hv with
  | object inside =>
    obtain ⟨idPos, idShort⟩ := of_field (P := fun n => ((1 : Nat) : Int) ≤ n ∧ IsShort n)
      (.object inside) (fun _ _ => of_integerFrom) (by rintro _ ⟨⟩) hid
    exact ⟨idPos, idShort, isShort_of_field (.object inside) (by decide) hz,
      of_field (P := fun q => q.control.Valid) (.object inside) (fun _ _ => valid_of_props)
        (by rintro _ ⟨⟩) hprops⟩

/-- No id is repeated exactly where all of them are distinct and new. -/
theorem repeatedId?_eq_none {seen : List Int} {ws : List Widget} :
    repeatedId? seen ws = none ↔ (ws.map Widget.id).Nodup ∧ ∀ w ∈ ws, w.id ∉ seen := by
  induction ws generalizing seen with
  | nil => simp [repeatedId?]
  | cons w ws ih =>
    unfold repeatedId?
    by_cases old : w.id ∈ seen
    · simp [old]
    · simp only [List.contains_eq_mem, old, decide_false, Bool.false_eq_true, if_false, ih,
        List.map_cons, List.nodup_cons, List.mem_cons, not_or]
      constructor
      · rintro ⟨distinct, fresh⟩
        refine ⟨⟨?_, distinct⟩, ?_⟩
        · intro again
          obtain ⟨x, hx, same⟩ := List.mem_map.1 again
          exact (fresh x hx).1 same
        · rintro x (rfl | hx)
          · exact old
          · exact (fresh x hx).2
      · rintro ⟨⟨here, distinct⟩, fresh⟩
        exact ⟨distinct, fun x hx =>
          ⟨fun same => here (List.mem_map.2 ⟨x, hx, same⟩), fresh x (.inr hx)⟩⟩

/-- The ids are distinct exactly where the check of a whole project accepts it. -/
theorem uniqueIds_eq_ok {p q : Project} :
    uniqueIds p = .ok q ↔ p = q ∧ (p.widgets.map Widget.id).Nodup := by
  have distinct : repeatedId? [] p.widgets = none ↔ (p.widgets.map Widget.id).Nodup := by
    simp [repeatedId?_eq_none]
  unfold uniqueIds
  split
  next id again =>
    rw [again] at distinct
    exact ⟨nofun, fun h => nomatch distinct.2 h.2⟩
  next none =>
    exact ⟨fun h => ⟨Checked.ok.inj h, distinct.1 none⟩, fun h => congrArg Checked.ok h.1⟩

theorem valid_of_widgets {ws : List Widget} (hv : Admissible room v)
    (h : listOf widget v = .ok ws) : ∀ w ∈ ws, w.Valid := by
  unfold listOf at h
  split at h
  next items =>
    have accepted := Checked.listFrom_eq_ok.1 h
    cases hv with
    | list inside =>
      clear h
      induction accepted with
      | nil => exact fun _ hw => nomatch hw
      | cons first _ ih =>
        have := List.forall_mem_cons.1 inside
        exact List.forall_mem_cons.2 ⟨valid_of_widget this.1 first, ih this.2⟩
  next => cases h

end Document

/-- Every project that is decoded is valid. -/
theorem Project.valid_of_decode {s : String} {p : Project} (h : decode s = .ok p) : p.Valid := by
  unfold decode at h
  split at h
  next v read =>
    have admissible := Json.admissible_of_read read
    simp only [Document.project, Document.Checked.andThen_eq_ok, Document.Checked.seq_eq_ok,
      Document.Checked.map_eq_ok, Document.object_eq_ok, Document.uniqueIds_eq_ok] at h
    obtain ⟨_, ⟨ms, rfl, _, panels, ⟨_, canvas, ⟨ws, accepted, rfl⟩, -, rfl⟩, -, rfl⟩, rfl,
      distinct⟩ := h
    have widgets : ∀ w ∈ ws, w.Valid := by
      refine Document.of_field (P := fun ws : List Widget => ∀ w ∈ ws, w.Valid) admissible
        (fun _ _ => Document.valid_of_widgets) ?_ accepted
      rintro _ ⟨⟩ w hw
      cases hw
    exact ⟨widgets, distinct⟩
  next => cases h

end Formwork
