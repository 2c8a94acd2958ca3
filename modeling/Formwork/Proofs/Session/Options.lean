import Formwork.Proofs.Manifest.Agreement
import Formwork.Proofs.Session.Bounds

/-!
# Selections stay in range

A kind with options keeps the position of one of them, and a document may say any position. Commands
leave the position among the options (`Choice.InRange`): the catalogue does, other items bring it back
into their range, also where they are none, and everything else copies or moves what is there. So as
long as nothing is imported, the program and its preview find nothing to bring into range, and both
show the position that the design says (`Session.inRange_course`).
-/

set_option autoImplicit false

namespace Formwork

/-! ## Positions in range -/

/-- The selection is one of the options; where there are none, it is zero. -/
def Choice.InRange (c : Choice) : Prop :=
  0 ≤ c.selected ∧ c.selected ≤ max ((c.items.length : Int) - 1) 0

instance (c : Choice) : Decidable c.InRange := inferInstanceAs (Decidable (_ ∧ _))

namespace Choice

variable {c : Choice}

theorem inRange_clamped (natural : 0 ≤ c.selected) : c.clamped.InRange :=
  ⟨Int.le_min.2 ⟨natural, Int.le_max_right ..⟩, Int.min_le_right ..⟩

theorem InRange.clamped_eq (h : c.InRange) : c.clamped = c := by
  rw [clamped, Int.min_eq_left h.2]

theorem InRange.clampIndex_eq (h : c.InRange) :
    Source.clampIndex c.selected c.items.length = c.selected := by
  obtain ⟨natural, within⟩ := h
  by_cases none : c.items.length = 0
  · rw [Source.clampIndex, if_pos none]
    omega
  · exact Manifest.clampIndex_of_lt natural (by omega)

end Choice

/-- The selection, where there is one, is in range. -/
def Control.InRange (c : Control) : Prop := ∀ d, c.choice? = some d → d.InRange

namespace Control

variable {c : Control}

theorem choice?_mapChoice? (f : Choice → Choice) (c : Control) :
    ((c.mapChoice? f).getD c).choice? = c.choice?.map f := by
  cases c <;> rfl

theorem choice?_withItems? {items : List String} {d : Control} (h : c.withItems? items = some d) :
    d.choice? = c.choice?.map fun old => { old with items } := by
  cases c <;> cases h <;> rfl

/-- The summary of a manifest and the state record of a program show the selection as it is. -/
theorem InRange.shown (h : c.InRange) {d : Choice} (chosen : c.choice? = some d) :
    (Manifest.summary c).2 = .choice d.items d.selected ∧
      ∃ stem, Source.stateOf c = some (stem, "int", [.integer d.selected]) := by
  have inRange := h d chosen
  have shown := Manifest.shownChoice_eq inRange.1
  have state := Manifest.stateOf_choice chosen
  rw [inRange.clampIndex_eq] at shown state
  exact ⟨(Manifest.summary_choice chosen).trans shown, state⟩

theorem inRange_defaultProps (k : Kind) : k.defaultProps.control.InRange := by
  intro d h
  cases k <;> cases h <;> decide

end Control

/-- Other items leave the selection in range. -/
theorem Props.inRange_withItems? {p q : Props} {items : List String} (h : p.control.InRange)
    (filled : p.withItems? items = some q) : q.control.InRange := by
  obtain ⟨c, other, rfl⟩ := Option.map_eq_some_iff.1 filled
  intro d chosen
  rw [Control.choice?_mapChoice?, Control.choice?_withItems? other, Option.map_map] at chosen
  obtain ⟨old, there, rfl⟩ := Option.map_eq_some_iff.1 chosen
  exact Choice.inRange_clamped (h old there).1

namespace Session

variable {s : Session} {imports : Prop}

/-- All selections are in range, on the clipboard too. -/
structure InRange (s : Session) : Prop where
  widgets : ∀ w ∈ s.project.widgets, w.props.control.InRange
  clipboard : ∀ w ∈ s.clipboard, w.props.control.InRange

theorem Origin.inRange {w : Widget} (own : ¬imports) (h : Origin imports s w)
    (inRange : s.InRange) : w.props.control.InRange := by
  cases h with
  | kept mem id props => exact props ▸ inRange.widgets _ mem
  | refilled mem id filled => exact Props.inRange_withItems? (inRange.widgets _ mem) filled
  | placed above props => exact props ▸ Control.inRange_defaultProps _
  | copied known above props =>
    rw [props]
    rcases known with mem | held
    · exact inRange.widgets _ mem
    · exact inRange.clipboard _ held
  | accepted imported => exact absurd imported own

/-- A step that imports nothing leaves all selections in range. -/
theorem InRange.after (h : s.InRange) {t : Turn} (own : ¬t.command.Imports) :
    (s.after t).InRange := by
  have supplied := supplied_run t.command ⟨s, t.files⟩
  refine ⟨fun w hw => (supplied.widgets w hw).inRange own h, fun w hw => ?_⟩
  rcases supplied.clipboard w hw with held | mem
  · exact h.clipboard w held
  · exact h.widgets w mem

theorem InRange.course (h : s.InRange) {ts : List Turn} (own : ∀ t ∈ ts, ¬t.command.Imports) :
    (s.course ts).InRange := by
  induction ts generalizing s with
  | nil => exact h
  | cons t ts ih =>
    obtain ⟨first, rest⟩ := List.forall_mem_cons.1 own
    exact ih (h.after first) rest

/-- **Selections stay in range.** On a design whose selections are in range, such as an empty one, a
run may go on with any commands that import nothing. Then every selection, in the design and on the
clipboard, is one of the options, or zero where there are none. What brings selections into range
leaves all of them as they are: the program, the preview and the command that replaces options. -/
theorem inRange_course {p : Project} (settings : Settings)
    (inRange : ∀ w ∈ p.widgets, w.props.control.InRange) {ts : List Turn}
    (own : ∀ t ∈ ts, ¬t.command.Imports) {w : Widget}
    (mem : w ∈ ((start p settings).course ts).project.widgets ∨
      w ∈ ((start p settings).course ts).clipboard)
    {c : Choice} (chosen : w.props.control.choice? = some c) :
    (0 ≤ c.selected ∧ c.selected ≤ max ((c.items.length : Int) - 1) 0) ∧
      Source.clampIndex c.selected c.items.length = c.selected ∧
      (∃ stem, Source.stateOf w.props.control = some (stem, "int", [.integer c.selected])) ∧
      (Manifest.summary w.props.control).2 = .choice c.items c.selected ∧ c.clamped = c := by
  have first : (start p settings).InRange :=
    ⟨inRange, fun v hv => absurd hv (Option.not_mem_none v)⟩
  have last := first.course own
  have held : w.props.control.InRange := mem.elim (last.widgets w) (last.clipboard w)
  obtain ⟨summary, state⟩ := held.shown chosen
  have there := held c chosen
  exact ⟨there, there.clampIndex_eq, state, summary, there.clamped_eq⟩

/-- The last of three options is selected. -/
def threeOptions : Project where
  widgets := [{ newWidget 1 .comboBox {} .free with
    props := { control := .comboBox "Box" ⟨["a", "b", "c"], 2⟩ } }]

/-- The options go and others come, and what was on the clipboard meanwhile comes back. -/
def reoptioning : List Turn :=
  [⟨.selectAll, {}⟩, ⟨.copy, {}⟩, ⟨.setItems 1 [], {}⟩, ⟨.setItems 1 ["x", "y", "z"], {}⟩,
    ⟨.paste, {}⟩]

theorem inRange_course_reoptioning :
    (∀ w ∈ threeOptions.widgets, w.props.control.InRange) ∧
      (∀ t ∈ reoptioning, ¬t.command.Imports) ∧
      ((start threeOptions {}).course reoptioning).project.widgets.map
        (fun w => w.props.control.choice?) =
          [some ⟨["x", "y", "z"], 0⟩, some ⟨["a", "b", "c"], 2⟩] ∧
      ∃ w ∈ ((start threeOptions {}).course reoptioning).project.widgets,
        w.props.control.choice? = some ⟨["a", "b", "c"], 2⟩ ∧
        (Manifest.summary w.props.control).2 = .choice ["a", "b", "c"] 2 := by
  have inRange : ∀ w ∈ threeOptions.widgets, w.props.control.InRange := by
    intro w hw c chosen
    obtain rfl := List.mem_singleton.1 hw
    cases chosen
    decide
  have own : ∀ t ∈ reoptioning, ¬t.command.Imports := by
    simp [reoptioning, Command.Imports]
  have choices : ((start threeOptions {}).course reoptioning).project.widgets.map
      (fun w => w.props.control.choice?) =
        [some ⟨["x", "y", "z"], 0⟩, some ⟨["a", "b", "c"], 2⟩] := rfl
  have pasted : some (Choice.mk ["a", "b", "c"] 2) ∈
      ((start threeOptions {}).course reoptioning).project.widgets.map
        fun w => w.props.control.choice? := by
    rw [choices]
    simp
  obtain ⟨w, mem, chosen⟩ := List.mem_map.1 pasted
  obtain ⟨-, -, -, shown, -⟩ := inRange_course {} inRange own (.inl mem) chosen
  exact ⟨inRange, own, choices, w, mem, chosen, shown⟩

end Session

end Formwork
