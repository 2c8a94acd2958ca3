import Formwork.Proofs.Session.Ids

/-!
# What commands leave within bounds

Commands assign to the fields of a design without checking them, and still a session never holds
what a document could not say, but for integers that have grown too long: ids are positive, and the
properties of every widget are within the bounds of their kind (`Bounded`), in the design and on the
clipboard.

Most commands move widgets or drop some. What the others bring in comes from the catalogue, from the
design, from the clipboard or from a document that was accepted (`Origin`), and new items bring the
selection into their range.
-/

set_option autoImplicit false

namespace Formwork

open Json (IsShort)

/-! ## Bounds of properties -/

/-- A natural number is short if a larger one is. -/
theorem isShort_of_le {m n : Int} (natural : 0 ≤ m) (le : m ≤ n) (short : IsShort n) :
    IsShort m :=
  Json.isShort_iff.2 (Nat.lt_of_le_of_lt (by omega) (Json.isShort_iff.1 short))

theorem isShortNat_min {n : Int} (valid : IsShortNat n) {m : Int} (natural : 0 ≤ m) :
    IsShortNat (min n m) :=
  ⟨Int.le_min.2 ⟨valid.1, natural⟩,
    isShort_of_le (Int.le_min.2 ⟨valid.1, natural⟩) (Int.min_le_left n m) valid.2⟩

theorem Choice.valid_clamped {c : Choice} (valid : c.Valid) : c.clamped.Valid :=
  isShortNat_min valid (Int.le_max_right ..)

/-- Other items leave the properties within their bounds. -/
theorem Props.valid_withItems? {p q : Props} {items : List String} (valid : p.control.Valid)
    (h : p.withItems? items = some q) : q.control.Valid := by
  obtain ⟨c, filled, rfl⟩ := Option.map_eq_some_iff.1 h
  have clamped {old : Choice} (valid : old.Valid) : ({ old with items } : Choice).clamped.Valid :=
    Choice.valid_clamped (c := { old with items }) valid
  cases control : p.control
  all_goals
    rw [control] at filled valid
    cases filled
  all_goals first
    | exact clamped valid
    | exact trivial

theorem Kind.valid_defaultProps (k : Kind) : k.defaultProps.control.Valid := by
  cases k
  case menuButton | radioGroup | comboBox | tabBar =>
    show Choice.Valid _
    decide
  case datePicker =>
    show Day.Valid _
    decide
  case colorPicker | placeholder =>
    show Color.Valid _
    decide
  case columns =>
    show IsShortNat _
    decide
  all_goals exact trivial

/-- Does the command bring in what a document holds? -/
def Command.Imports : Command → Prop
  | .load _ => True
  | .importText _ => True
  | _ => False

namespace Session

variable {s s' t : Session} {imports : Prop}

/-! ## What is within bounds -/

/-- Ids are positive, and properties are within their bounds, on the clipboard too. -/
structure Bounded (s : Session) : Prop where
  widgets : ∀ w ∈ s.project.widgets, 1 ≤ w.id ∧ w.props.control.Valid
  clipboard : ∀ w ∈ s.clipboard, w.props.control.Valid
  nextId : 1 ≤ s.nextId

theorem bounded_start {p : Project} (settings : Settings) (valid : p.Valid) :
    (start p settings).Bounded where
  widgets w hw := ⟨(valid.widgets w hw).id_pos, (valid.widgets w hw).control⟩
  clipboard w hw := absurd hw (Option.not_mem_none w)
  nextId := Int.add_le_add_right p.maxId_nonneg 1

/-- Where a widget comes from that a command leaves in the design: from a document only if the command
imports. -/
inductive Origin (imports : Prop) (s : Session) (w : Widget) : Prop where
  /-- It was there, and may have been moved. -/
  | kept {v : Widget} (mem : v ∈ s.project.widgets) (id : w.id = v.id) (props : w.props = v.props)
  /-- It was there and got other items. -/
  | refilled {v : Widget} {items : List String} (mem : v ∈ s.project.widgets) (id : w.id = v.id)
    (filled : v.props.withItems? items = some w.props)
  | placed {kind : Kind} (id : s.nextId ≤ w.id) (props : w.props = kind.defaultProps)
  | copied {v : Widget} (known : v ∈ s.project.widgets ∨ v ∈ s.clipboard) (id : s.nextId ≤ w.id)
    (props : w.props = v.props)
  | accepted {p : Project} (imported : imports) (valid : p.Valid) (mem : w ∈ p.widgets)

theorem Origin.bounded {w : Widget} (h : Origin imports s w) (bounded : s.Bounded) :
    1 ≤ w.id ∧ w.props.control.Valid := by
  have later {id : Int} (above : s.nextId ≤ id) : 1 ≤ id := Int.le_trans bounded.nextId above
  cases h with
  | kept mem id props =>
    rw [id, props]
    exact bounded.widgets _ mem
  | refilled mem id filled =>
    obtain ⟨positive, valid⟩ := bounded.widgets _ mem
    exact ⟨id ▸ positive, Props.valid_withItems? valid filled⟩
  | placed above props => exact ⟨later above, props ▸ Kind.valid_defaultProps _⟩
  | copied known above props =>
    refine ⟨later above, props ▸ ?_⟩
    rcases known with mem | held
    · exact (bounded.widgets _ mem).2
    · exact bounded.clipboard _ held
  | accepted _ valid mem => exact ⟨(valid.widgets w mem).id_pos, (valid.widgets w mem).control⟩

/-- What a command leaves behind: widgets that come from somewhere, and on the clipboard one that
was there or in the design. -/
structure Supplied (imports : Prop) (s s' : Session) : Prop where
  widgets : ∀ w ∈ s'.project.widgets, Origin imports s w
  clipboard : ∀ w ∈ s'.clipboard, w ∈ s.clipboard ∨ w ∈ s.project.widgets

theorem SameContents.supplied (h : SameContents s s') : Supplied imports s s' where
  widgets w hw := by
    have mem : (w.id, w.props) ∈ s.project.contents := h.contents ▸ List.mem_map_of_mem hw
    obtain ⟨v, hv, same⟩ := List.mem_map.1 mem
    exact .kept hv (Prod.mk.inj same).1.symm (Prod.mk.inj same).2.symm
  clipboard w hw := .inl (h.clipboard ▸ hw)

namespace Supplied

theorem of_subset (widgets : s'.project.widgets ⊆ s.project.widgets)
    (clipboard : s'.clipboard = s.clipboard) : Supplied imports s s' :=
  ⟨fun _ hw => .kept (widgets hw) rfl rfl, fun _ hw => .inl (clipboard ▸ hw)⟩

theorem refl (s : Session) : Supplied imports s s := of_subset (List.Subset.refl _) rfl

theorem touch (h : Supplied imports s t) : Supplied imports s t.touch.2 :=
  ⟨project_touch t ▸ h.widgets, clipboard_touch t ▸ h.clipboard⟩

/-- A session that differs in nothing else is supplied alike. -/
theorem congr (h : Supplied imports s t) (project : s'.project = t.project)
    (clipboard : s'.clipboard = t.clipboard) : Supplied imports s s' :=
  ⟨project ▸ h.widgets, clipboard ▸ h.clipboard⟩

end Supplied

/-! ## The commands -/

theorem mem_of_mem_selectedWidgets {w : Widget} (h : w ∈ s.selectedWidgets) :
    w ∈ s.project.widgets := by
  obtain ⟨id, _, found⟩ := List.mem_filterMap.1 h
  exact (Project.mem_of_find? found).1

theorem mem_of_widget {id : Int} {w : Widget} (h : s.widget id = .ok w) :
    w ∈ s.project.widgets ∧ w.id = id := by
  unfold widget at h
  split at h
  next v found => exact Except.ok.inj h ▸ Project.mem_of_find? found
  next => cases h

theorem supplied_place (kind : Kind) (center : Vec) (area : Area) (origin : Vec) :
    Supplied imports s (s.place kind center area origin).2 := by
  unfold place
  split
  next => exact (Supplied.refl s).congr rfl rfl
  next pos _ =>
    refine Supplied.touch ⟨fun w hw => ?_, fun w hw => .inl hw⟩
    rcases List.mem_append.1 hw with old | new
    · exact .kept old rfl rfl
    · obtain rfl := List.mem_singleton.1 new
      exact .placed (Int.le_refl _) rfl

/-- Copies have the properties of what they are copies of, and ids from the counter on. -/
theorem origin_cloneEach (sources : List Widget) {w : Widget}
    (mem : w ∈ (s.cloneEach sources).project.widgets) :
    w ∈ s.project.widgets ∨ ∃ v ∈ sources, s.nextId ≤ w.id ∧ w.props = v.props := by
  induction sources generalizing s with
  | nil => exact .inl mem
  | cons v vs ih =>
    rcases ih (s := s.clone v) mem with there | ⟨u, hu, above, props⟩
    · rcases List.mem_append.1 there with old | new
      · exact .inl old
      · obtain rfl := List.mem_singleton.1 new
        exact .inr ⟨v, List.mem_cons_self, Int.le_refl _, rfl⟩
    · have counter : s.nextId + 1 ≤ w.id := above
      exact .inr ⟨u, List.mem_cons_of_mem v hu, by omega, props⟩

theorem clipboard_cloneEach (sources : List Widget) :
    (s.cloneEach sources).clipboard = s.clipboard := by
  induction sources generalizing s with
  | nil => rfl
  | cons v vs ih => exact ih (s := s.clone v)

theorem supplied_duplicateSelected : Supplied imports s s.duplicateSelected.2 := by
  unfold duplicateSelected
  split
  next => exact .refl s
  next =>
    refine Supplied.touch ⟨fun w hw => ?_, fun w hw => .inl ?_⟩
    · rcases origin_cloneEach s.selectedWidgets hw with old | ⟨v, hv, above, props⟩
      · exact .kept old rfl rfl
      · exact .copied (.inl (mem_of_mem_selectedWidgets hv)) above props
    · rwa [← clipboard_cloneEach (s := s) s.selectedWidgets]

theorem supplied_paste : Supplied imports s s.paste.2 := by
  unfold paste
  split
  next => exact .refl s
  next source held =>
    refine Supplied.touch ⟨fun w hw => ?_, fun w hw => .inl hw⟩
    rcases origin_cloneEach [source] hw with old | ⟨v, hv, above, props⟩
    · exact .kept old rfl rfl
    · obtain rfl := List.mem_singleton.1 hv
      exact .copied (.inr held) above props

theorem supplied_delete (id : Int) : Supplied imports s (s.delete id).2 := by
  have fewer (selected : List Int) : Supplied imports s { s with
      project := { s.project with widgets := s.project.widgets.filter fun w => w.id != id }
      selected } := .of_subset List.filter_sublist.subset rfl
  unfold delete
  dsimp only
  split
  · exact Supplied.touch (fewer _)
  · exact fewer _

theorem supplied_deleteSelected : Supplied imports s s.deleteSelected.2 := by
  have fewer : Supplied imports s { s with
      project := { s.project with widgets := s.project.widgets.filter fun w => !s.isSelected w.id }
      selected := [] } := .of_subset List.filter_sublist.subset rfl
  unfold deleteSelected
  dsimp only
  split
  · exact fewer
  · exact Supplied.touch fewer

theorem supplied_copy : Supplied imports s s.copy.2 := by
  unfold copy
  split
  next => exact .refl s
  next w first =>
    refine ⟨fun v hv => .kept hv rfl rfl, fun v hv => .inr ?_⟩
    obtain rfl := Option.some.inj hv
    exact mem_of_mem_selectedWidgets (List.mem_of_mem_head? first)

theorem supplied_setItems (id : Int) (items : List String) :
    Supplied imports s (s.setItems id items).2 := by
  unfold setItems
  split
  next => exact .refl s
  next w found =>
    split
    next => exact .refl s
    next props filled =>
      refine Supplied.touch ⟨fun v hv => ?_, fun v hv => .inl hv⟩
      obtain ⟨u, hu, rfl⟩ := List.mem_map.1 hv
      split
      next same =>
        obtain ⟨mem, id⟩ := mem_of_widget found
        exact .refilled mem ((beq_iff_eq.1 same).trans id.symm) filled
      next => exact .kept hu rfl rfl

theorem supplied_replace {p : Project} (valid : p.Valid) : Supplied True s (s.replace p) :=
  ⟨fun _ hw => .accepted trivial valid hw, fun _ hw => .inl hw⟩

theorem supplied_load (files : FileTree) (path : Text.Raw) :
    Supplied True s (s.load files path).2 := by
  unfold load
  split
  next => exact .refl s
  next => exact (Supplied.refl s).congr rfl rfl
  next accepted =>
    exact Supplied.touch ((supplied_replace (Project.valid_of_load accepted)).congr rfl rfl)

theorem supplied_importText (text : String) : Supplied True s (s.importText text).2 := by
  unfold importText
  split
  next => exact (Supplied.refl s).congr rfl rfl
  next accepted =>
    exact Supplied.touch ((supplied_replace (Project.valid_of_ofText accepted)).congr rfl rfl)

theorem supplied_newProject : Supplied imports s s.newProject :=
  ⟨fun _ hw => absurd hw List.not_mem_nil, fun _ hw => .inl hw⟩

/-- Where everything comes from that a command leaves behind, on whatever desk it is given. -/
theorem supplied_run (c : Command) (d : Desk) :
    Supplied c.Imports d.session (c.run d).2.session := by
  cases c with
  | place kind center area origin => exact supplied_place kind center area origin
  | duplicateSelected => exact supplied_duplicateSelected
  | paste => exact supplied_paste
  | copy => exact supplied_copy
  | setItems id items => exact supplied_setItems id items
  | newProject => exact supplied_newProject
  | load path => exact supplied_load d.files path
  | importText text => exact supplied_importText text
  | delete id => exact supplied_delete id
  | deleteSelected => exact supplied_deleteSelected
  | nudge dx dy => exact (sameContents_nudge dx dy).supplied
  | bringToFront => exact SameContents.supplied sameContents_stack
  | sendToBack => exact SameContents.supplied sameContents_stack
  | align axis how => exact (sameContents_align axis how).supplied
  | matchExtent axis => exact (sameContents_matchExtent axis).supplied
  | distribute axis => exact (sameContents_distribute axis).supplied
  | setArea id area => exact (sameContents_setArea id area).supplied
  | setPanelEnabled area enabled => exact (sameContents_setPanelEnabled area enabled).supplied
  | save path => exact (sameContents_save d.files path).supplied
  | touch => exact Supplied.touch (.refl d.session)
  | selectSingle _ | toggleSelection _ | addToSelection _ | clearSelection | selectAll =>
    exact (Supplied.refl d.session).congr rfl rfl
  | generate => exact (sameContents_generate d.session).supplied

/-- A step leaves everything within bounds. -/
theorem Bounded.after (h : s.Bounded) (t : Turn) : (s.after t).Bounded := by
  have supplied := supplied_run t.command ⟨s, t.files⟩
  refine ⟨fun w hw => (supplied.widgets w hw).bounded h, fun w hw => ?_,
    Int.le_trans h.nextId (idStep_after s t).nextId_le⟩
  rcases supplied.clipboard w hw with held | mem
  · exact h.clipboard w held
  · exact (h.widgets w mem).2

theorem Bounded.course (h : s.Bounded) (ts : List Turn) : (s.course ts).Bounded := by
  induction ts generalizing s with
  | nil => exact h
  | cons t ts ih => exact ih (h.after t)

end Session

end Formwork
