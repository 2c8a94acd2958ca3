import Formwork.Proofs.Document.Store
import Formwork.Proofs.Session.Generating

/-!
# Ids of a session

No id is used twice in a session, and the counter that gives ids out never goes back. Most
commands change neither the ids nor the counter. What the others do is said by `IdStep`, one case
for each way in which a command touches the ids: it drops some, it gives out new ones from the
counter, or it replaces the design by a decoded one. `idStep_run` is the only place where the
commands are told apart; the rest is an induction over a run.

A run is a list of turns. Each turn brings its own files, so nothing is assumed about what other
programs do to the files between two commands, and a command that fails is a turn like any other.
-/

set_option autoImplicit false

namespace Formwork

namespace Project

/-- The ids and the properties of the widgets, in list order. -/
def contents (p : Project) : List (Int × Props) := p.widgets.map fun w => (w.id, w.props)

theorem map_fst_contents (p : Project) : p.contents.map Prod.fst = p.ids := List.map_map

/-- What a change keeps of every widget is the same all along the list. -/
theorem map_update {α : Type} {p : Project} {id : Int} {change : Widget → Widget} {f : Widget → α}
    (keeps : ∀ w, f (change w) = f w) :
    (p.update id change).widgets.map f = p.widgets.map f := by
  rw [update, List.map_map]
  refine List.map_congr_left fun w _ => ?_
  show f (if w.id == id then change w else w) = f w
  split
  · exact keeps w
  · rfl

/-- What is compared with numbers of widgets in turn bounds these numbers, and where it began. -/
theorem rel_foldl {R : Int → Int → Prop} {op : Int → Int → Int} (refl : ∀ m, R m m)
    (trans : ∀ l m n, R l m → R m n → R l n) (left : ∀ m n, R m (op m n))
    (right : ∀ m n, R n (op m n)) (f : Widget → Int) (ws : List Widget) (m : Int) :
    R m (ws.foldl (fun n w => op n (f w)) m) ∧
      ∀ w ∈ ws, R (f w) (ws.foldl (fun n w => op n (f w)) m) := by
  induction ws generalizing m with
  | nil => exact ⟨refl m, fun _ hw => nomatch hw⟩
  | cons w ws ih =>
    rw [List.foldl_cons, List.forall_mem_cons]
    obtain ⟨first, later⟩ := ih (op m (f w))
    exact ⟨trans _ _ _ (left m (f w)) first, trans _ _ _ (right m (f w)) first, later⟩

/-- What is compared with numbers of widgets for the larger one reaches them all. -/
theorem foldl_max_le (f : Widget → Int) (ws : List Widget) (m : Int) :
    m ≤ ws.foldl (fun n w => max n (f w)) m ∧
      ∀ w ∈ ws, f w ≤ ws.foldl (fun n w => max n (f w)) m :=
  rel_foldl Int.le_refl (fun _ _ _ => Int.le_trans) Int.le_max_left Int.le_max_right f ws m

theorem maxId_nonneg (p : Project) : 0 ≤ p.maxId := (foldl_max_le Widget.id p.widgets 0).1

/-- No id exceeds the largest one. -/
theorem le_maxId {p : Project} {id : Int} (h : id ∈ p.ids) : id ≤ p.maxId := by
  obtain ⟨w, hw, rfl⟩ := List.mem_map.1 h
  exact (foldl_max_le Widget.id p.widgets 0).2 w hw

/-- What is found for an id is a widget that has it. -/
theorem mem_of_find? {p : Project} {id : Int} {w : Widget} (found : p.find? id = some w) :
    w ∈ p.widgets ∧ w.id = id := by
  have named : w.id == id := List.find?_some (p := fun v : Widget => v.id == id) found
  exact ⟨List.mem_of_find?_eq_some found, beq_iff_eq.1 named⟩

end Project

namespace Session

/-- The ids in the design. -/
def ids (s : Session) : List Int := s.project.ids

/-! ## What leaves the ids alone -/

/-- Neither the ids nor the counter differ. -/
structure SameIds (s s' : Session) : Prop where
  ids : s'.ids = s.ids
  nextId : s'.nextId = s.nextId

/-- Widgets may have been moved, no more: the ids and the properties do not differ, nor do the
counter and the clipboard. -/
structure SameContents (s s' : Session) : Prop where
  contents : s'.project.contents = s.project.contents
  nextId : s'.nextId = s.nextId
  clipboard : s'.clipboard = s.clipboard

variable {s t : Session}

namespace SameContents

theorem refl (s : Session) : SameContents s s := ⟨rfl, rfl, rfl⟩

theorem trans {u : Session} (h : SameContents s t) (k : SameContents t u) : SameContents s u :=
  ⟨k.contents.trans h.contents, k.nextId.trans h.nextId, k.clipboard.trans h.clipboard⟩

theorem touch (h : SameContents s t) : SameContents s t.touch.2 :=
  h.trans ⟨congrArg Project.contents (project_touch t), nextId_touch t, clipboard_touch t⟩

theorem sameIds (h : SameContents s t) : SameIds s t := by
  refine ⟨?_, h.nextId⟩
  rw [ids, ids, ← Project.map_fst_contents, h.contents, Project.map_fst_contents]

end SameContents

theorem sameContents_generate (s : Session) : SameContents s s.generate.2 := by
  obtain ⟨text, same⟩ := exists_generate s
  rw [same]
  exact ⟨rfl, rfl, rfl⟩

theorem sameContents_update {id : Int} {change : Widget → Widget}
    (keeps : ∀ w, ((change w).id, (change w).props) = (w.id, w.props)) :
    SameContents s (s.update id change) := ⟨Project.map_update keeps, rfl, rfl⟩

theorem sameContents_updateEach {ids : List Int} {change : Widget → Widget}
    (keeps : ∀ w, ((change w).id, (change w).props) = (w.id, w.props)) :
    SameContents s (s.updateEach ids change) := by
  induction ids generalizing s with
  | nil => exact .refl s
  | cons id ids ih => exact (sameContents_update keeps).trans ih

theorem sameContents_stack {ids : List Int} {z step : Int} :
    SameContents s (s.stack z step ids) := by
  induction ids generalizing s z with
  | nil => exact .refl s
  | cons id ids ih =>
    refine SameContents.trans (t := s.update id fun w => { w with z }) ?_ ih
    exact sameContents_update fun _ => rfl

theorem sameContents_layOut {axis : Axis} {gap x : Binary64} {ws : List Widget} :
    SameContents s (s.layOut axis gap x ws) := by
  induction ws generalizing s x with
  | nil => exact .refl s
  | cons w ws ih =>
    refine SameContents.trans (t := s.update w.id (Widget.moveTo axis x)) ?_ ih
    exact sameContents_update fun _ => rfl

theorem sameContents_nudge (dx dy : Int) : SameContents s (s.nudge dx dy).2 := by
  unfold nudge
  cases s.selectedWidgets with
  | nil => exact SameContents.touch (.refl s)
  | cons first rest =>
    cases Binary64.ofInt? dx with
    | none => exact .refl s
    | some nx =>
      cases Binary64.ofInt? dy with
      | none => exact sameContents_update fun _ => rfl
      | some ny => exact SameContents.touch (sameContents_updateEach fun _ => rfl)

theorem sameContents_align (axis : Axis) (how : Alignment) :
    SameContents s (s.align axis how).2 := by
  unfold align
  split
  next => exact .refl s
  next => exact SameContents.touch (sameContents_updateEach fun _ => rfl)

theorem sameContents_matchExtent (axis : Axis) : SameContents s (s.matchExtent axis).2 := by
  unfold matchExtent
  split
  next => exact .refl s
  next => exact SameContents.touch (sameContents_updateEach fun _ => rfl)

theorem sameContents_distribute (axis : Axis) : SameContents s (s.distribute axis).2 := by
  unfold distribute
  dsimp only
  split
  next =>
    split
    next => exact .refl s
    next => exact SameContents.touch sameContents_layOut
  next => exact .refl s

theorem sameContents_setArea (id : Int) (area : Area) : SameContents s (s.setArea id area).2 := by
  unfold setArea
  split
  next => exact .refl s
  next =>
    split
    next => exact sameContents_update fun _ => rfl
    next => exact SameContents.touch (sameContents_update fun _ => rfl)

theorem sameContents_setPanelEnabled (area : Area) (enabled : Bool) :
    SameContents s (s.setPanelEnabled area enabled).2 := by
  unfold setPanelEnabled Project.setEnabled
  cases area.panel? with
  | none => exact .refl s
  | some panel => exact SameContents.touch ⟨rfl, rfl, rfl⟩

theorem sameContents_save (files : FileTree) (path : Option Text.Raw) :
    SameContents s (s.save files path).1.2 := by
  unfold save
  split
  next => exact ⟨rfl, rfl, rfl⟩
  next =>
    split
    next => exact .refl s
    next => exact ⟨rfl, rfl, rfl⟩
    next => exact ⟨rfl, rfl, rfl⟩

theorem sameIds_setItems (id : Int) (items : List String) : SameIds s (s.setItems id items).2 := by
  unfold setItems
  split
  next => exact ⟨rfl, rfl⟩
  next =>
    split
    next => exact ⟨rfl, rfl⟩
    next =>
      refine ⟨?_, nextId_touch _⟩
      rw [ids, snd_touched, project_touch]
      exact Project.map_update fun _ => rfl

theorem sameIds_copy : SameIds s s.copy.2 := by
  unfold copy
  split
  next => exact ⟨rfl, rfl⟩
  next => exact ⟨rfl, rfl⟩

/-! ## New ids -/

theorem nextIds_succ (s : Session) (n : Nat) :
    s.nextIds (n + 1) = s.nextId :: s.allocate.nextIds n := by
  unfold nextIds allocate
  rw [List.range_succ_eq_map, List.map_cons, List.map_map]
  refine congrArg₂ List.cons (Int.add_zero _) (List.map_congr_left fun i _ => ?_)
  show s.nextId + ((i + 1 : Nat) : Int) = s.nextId + 1 + i
  omega

theorem mem_nextIds {id : Int} {n : Nat} (h : id ∈ s.nextIds n) :
    s.nextId ≤ id ∧ id < s.nextId + n := by
  obtain ⟨i, hi, rfl⟩ := List.mem_map.1 h
  have := List.mem_range.1 hi
  omega

/-- New ids rise. -/
theorem pairwise_nextIds (s : Session) (n : Nat) : (s.nextIds n).Pairwise (· < ·) := by
  induction n generalizing s with
  | zero => exact List.Pairwise.nil
  | succ n ih =>
    rw [nextIds_succ]
    refine List.pairwise_cons.2 ⟨fun id hid => ?_, ih s.allocate⟩
    have := (mem_nextIds hid).1
    show s.nextId < id
    exact Int.lt_of_lt_of_le (Int.lt_succ s.nextId) this

theorem length_nextIds (s : Session) (n : Nat) : (s.nextIds n).length = n := by
  unfold nextIds
  rw [List.length_map, List.length_range]

/-- Copies come after what is there, each under the next id. -/
theorem exists_cloneEach (ws : List Widget) (s : Session) : ∃ added,
    (s.cloneEach ws).project.widgets = s.project.widgets ++ added ∧
      added.map Widget.id = s.nextIds ws.length ∧
      (s.cloneEach ws).nextId = s.nextId + ws.length := by
  induction ws generalizing s with
  | nil => exact ⟨[], (List.append_nil _).symm, rfl, (Int.add_zero _).symm⟩
  | cons w ws ih =>
    obtain ⟨added, widgets, ids, counter⟩ := ih (s.clone w)
    refine ⟨copyOf w s.nextId :: added, ?_, ?_, ?_⟩
    · exact widgets.trans (List.append_assoc s.project.widgets [copyOf w s.nextId] added)
    · rw [List.map_cons, ids, List.length_cons, nextIds_succ]
      rfl
    · refine counter.trans ?_
      show s.nextId + 1 + (ws.length : Int) = s.nextId + ((ws.length + 1 : Nat) : Int)
      omega

/-- The ids that a command takes from the counter, whether or not it then fails. -/
def issued (s : Session) : Command → List Int
  | .place .. => [s.nextId]
  | .duplicateSelected => s.nextIds s.selectedWidgets.length
  | .paste => if s.clipboard.isSome then [s.nextId] else []
  | _ => []

/-- Ids are taken from the counter, one after the other. Either each goes to a widget that is
added behind the others, or the command has failed and adds none. -/
structure Takes (s s' : Session) (taken : List Int) : Prop where
  added : ∃ added, s'.project.widgets = s.project.widgets ++ added ∧
    (added.map Widget.id = taken ∨ added = [])
  consecutive : taken = s.nextIds taken.length
  counter : s'.nextId = s.nextId + taken.length

/-- How the ids and the counter change in one step: `taken` are the ids that are given out. -/
inductive IdStep (s s' : Session) (taken : List Int) : Prop where
  /-- Ids may be dropped; the counter stays. -/
  | drops (ids : s'.ids.Sublist s.ids) (counter : s'.nextId = s.nextId) (none_taken : taken = [])
  | takes (h : Takes s s' taken)
  /-- The design is another one, and the counter stands above its ids. -/
  | replaces (distinct : s'.ids.Nodup) (below : ∀ id ∈ s'.ids, id < s'.nextId)
    (counter : s.nextId ≤ s'.nextId) (none_taken : taken = [])

theorem SameIds.idStep {s' : Session} (h : SameIds s s') : IdStep s s' [] :=
  .drops (h.ids ▸ List.Sublist.refl _) h.nextId rfl

theorem SameContents.idStep {s' : Session} (h : SameContents s s') : IdStep s s' [] :=
  h.sameIds.idStep

section Congr

variable {s' s'' : Session} {taken : List Int}

/-- What else a step changes does not matter. -/
theorem Takes.congr (h : Takes s s' taken) (project : s''.project = s'.project)
    (nextId : s''.nextId = s'.nextId) : Takes s s'' taken where
  added := by
    rw [project]
    exact h.added
  consecutive := h.consecutive
  counter := nextId.trans h.counter

theorem Takes.touch (h : Takes s s' taken) : Takes s s'.touch.2 taken :=
  h.congr (project_touch s') (nextId_touch s')

theorem IdStep.congr (h : IdStep s s' taken) (project : s''.project = s'.project)
    (nextId : s''.nextId = s'.nextId) : IdStep s s'' taken := by
  have same : s''.ids = s'.ids := congrArg Project.ids project
  cases h with
  | drops ids counter none_taken => exact .drops (same ▸ ids) (nextId.trans counter) none_taken
  | takes h => exact .takes (h.congr project nextId)
  | replaces distinct below counter none_taken =>
    exact .replaces (same ▸ distinct) (by rw [same, nextId]; exact below) (nextId ▸ counter)
      none_taken

theorem IdStep.touch (h : IdStep s s' taken) : IdStep s s'.touch.2 taken :=
  h.congr (project_touch s') (nextId_touch s')

end Congr

/-! ## One step of each command -/

section Commands

theorem nextIds_one (s : Session) : s.nextIds 1 = [s.nextId] :=
  congrArg (fun id => [id]) (Int.add_zero s.nextId)

theorem takes_none (s : Session) : Takes s s [] :=
  ⟨⟨[], (List.append_nil _).symm, .inr rfl⟩, rfl, (Int.add_zero _).symm⟩

/-- Placing takes an id, and wastes it where the point cannot be moved to the grid. -/
theorem takes_place (kind : Kind) (center : Vec) (area : Area) (origin : Vec) :
    Takes s (s.place kind center area origin).2 [s.nextId] := by
  unfold place
  split
  next => exact ⟨⟨[], (List.append_nil _).symm, .inr rfl⟩, (nextIds_one s).symm, rfl⟩
  next pos _ =>
    exact Takes.touch
      ⟨⟨[newWidget s.nextId kind pos area], rfl, .inl rfl⟩, (nextIds_one s).symm, rfl⟩

theorem takes_duplicateSelected :
    Takes s s.duplicateSelected.2 (s.nextIds s.selectedWidgets.length) := by
  unfold duplicateSelected
  split
  next empty =>
    rw [empty]
    exact takes_none s
  next =>
    obtain ⟨added, widgets, ids, counter⟩ := exists_cloneEach s.selectedWidgets s
    have length := length_nextIds s s.selectedWidgets.length
    exact Takes.touch ⟨⟨added, widgets, .inl ids⟩, by rw [length], by rw [length]; exact counter⟩

theorem takes_paste : Takes s s.paste.2 (if s.clipboard.isSome then [s.nextId] else []) := by
  unfold paste
  split
  next empty =>
    rw [empty]
    exact takes_none s
  next source full =>
    rw [full]
    exact Takes.touch
      ⟨⟨[copyOf source s.nextId], rfl, .inl rfl⟩, (nextIds_one s).symm, rfl⟩

theorem idStep_delete (id : Int) : IdStep s (s.delete id).2 [] := by
  have fewer : ((s.project.widgets.filter fun w => w.id != id).map Widget.id).Sublist s.ids :=
    List.filter_sublist.map _
  unfold delete
  dsimp only
  split
  · exact IdStep.touch (.drops fewer rfl rfl)
  · exact .drops fewer rfl rfl

theorem idStep_deleteSelected : IdStep s s.deleteSelected.2 [] := by
  have fewer : ((s.project.widgets.filter fun w => !s.isSelected w.id).map Widget.id).Sublist
      s.ids := List.filter_sublist.map _
  unfold deleteSelected
  dsimp only
  split
  · exact .drops fewer rfl rfl
  · exact IdStep.touch (.drops fewer rfl rfl)

/-- Another design may come in when its ids are distinct. The counter passes them. -/
theorem idStep_replace {p : Project} (distinct : p.ids.Nodup) : IdStep s (s.replace p) [] := by
  refine .replaces distinct (fun id hid => ?_) (Int.le_max_left ..) rfl
  have above : id ≤ p.maxId := Project.le_maxId hid
  have counter : p.maxId + 1 ≤ (s.replace p).nextId := Int.le_max_right ..
  omega

theorem idStep_load (files : FileTree) (path : Text.Raw) : IdStep s (s.load files path).2 [] := by
  unfold load
  split
  next => exact SameIds.idStep ⟨rfl, rfl⟩
  next => exact SameIds.idStep ⟨rfl, rfl⟩
  next accepted =>
    have replaced := idStep_replace (s := s) (Project.valid_of_load accepted).distinct
    exact IdStep.touch (replaced.congr rfl rfl)

theorem idStep_importText (text : String) : IdStep s (s.importText text).2 [] := by
  unfold importText
  split
  next => exact SameIds.idStep ⟨rfl, rfl⟩
  next accepted =>
    have replaced := idStep_replace (s := s) (Project.valid_of_ofText accepted).distinct
    exact IdStep.touch (replaced.congr rfl rfl)

theorem idStep_newProject : IdStep s s.newProject [] :=
  (idStep_replace (s := s) (p := {}) List.nodup_nil).congr rfl rfl

end Commands

/-- What a command does to the ids and the counter, on whatever desk it is given. -/
theorem idStep_run (c : Command) (d : Desk) :
    IdStep d.session (c.run d).2.session (d.session.issued c) := by
  cases c with
  | place kind center area origin => exact .takes (takes_place kind center area origin)
  | duplicateSelected => exact .takes takes_duplicateSelected
  | paste => exact .takes takes_paste
  | delete id => exact idStep_delete id
  | deleteSelected => exact idStep_deleteSelected
  | newProject => exact idStep_newProject
  | load path => exact idStep_load d.files path
  | importText text => exact idStep_importText text
  | copy => exact sameIds_copy.idStep
  | nudge dx dy => exact (sameContents_nudge dx dy).idStep
  | bringToFront => exact SameContents.idStep sameContents_stack
  | sendToBack => exact SameContents.idStep sameContents_stack
  | align axis how => exact (sameContents_align axis how).idStep
  | matchExtent axis => exact (sameContents_matchExtent axis).idStep
  | distribute axis => exact (sameContents_distribute axis).idStep
  | setItems id items => exact (sameIds_setItems id items).idStep
  | setArea id area => exact (sameContents_setArea id area).idStep
  | setPanelEnabled area enabled => exact (sameContents_setPanelEnabled area enabled).idStep
  | save path => exact (sameContents_save d.files path).idStep
  | touch => exact (SameContents.touch (.refl d.session)).idStep
  | generate => exact (sameContents_generate d.session).idStep
  | selectSingle _ | toggleSelection _ | addToSelection _ | clearSelection | selectAll =>
    exact SameIds.idStep ⟨rfl, rfl⟩

/-! ## What a step preserves -/

/-- The ids are distinct and the counter stands above them. -/
structure Fresh (s : Session) : Prop where
  distinct : s.ids.Nodup
  below : ∀ id ∈ s.ids, id < s.nextId

theorem fresh_start {p : Project} (settings : Settings) (distinct : p.ids.Nodup) :
    (start p settings).Fresh :=
  ⟨distinct, fun _ hid => Int.lt_add_one_of_le (Project.le_maxId hid)⟩

namespace IdStep

variable {s' : Session} {taken : List Int}

theorem nextId_le (h : IdStep s s' taken) : s.nextId ≤ s'.nextId := by
  cases h with
  | drops _ counter _ => exact counter.symm.le
  | takes h => exact h.counter ▸ Int.le_add_of_nonneg_right (Int.natCast_nonneg _)
  | replaces _ _ counter _ => exact counter

/-- What is taken lies from the old counter up to the new one, in rising order. -/
theorem taken_lt (h : IdStep s s' taken) :
    (∀ id ∈ taken, s.nextId ≤ id ∧ id < s'.nextId) ∧ taken.Pairwise (· < ·) := by
  cases h with
  | drops _ _ none_taken => exact none_taken ▸ ⟨nofun, .nil⟩
  | replaces _ _ _ none_taken => exact none_taken ▸ ⟨nofun, .nil⟩
  | takes h =>
    rw [h.consecutive, h.counter]
    exact ⟨fun id hid => mem_nextIds hid, pairwise_nextIds s _⟩

theorem fresh (h : IdStep s s' taken) (fresh : s.Fresh) : s'.Fresh := by
  have bounds := h.taken_lt
  have counter := h.nextId_le
  cases h with
  | drops ids same _ =>
    exact ⟨fresh.distinct.sublist ids, fun id hid => same ▸ fresh.below id (ids.subset hid)⟩
  | replaces distinct below _ _ => exact ⟨distinct, below⟩
  | takes h =>
    obtain ⟨added, widgets, ids⟩ := h.added
    have split : s'.ids = s.ids ++ added.map Widget.id := by
      unfold Session.ids Project.ids
      rw [widgets, List.map_append]
    rcases ids with ids | rfl
    · rw [ids] at split
      refine ⟨?_, fun id hid => ?_⟩
      · rw [split, List.nodup_append]
        refine ⟨fresh.distinct, bounds.2.imp Int.ne_of_lt, fun a ha b hb => ?_⟩
        have := fresh.below a ha
        have := (bounds.1 b hb).1
        omega
      · rw [split] at hid
        rcases List.mem_append.1 hid with old | new
        · exact Int.lt_of_lt_of_le (fresh.below id old) counter
        · exact (bounds.1 id new).2
    · rw [List.map_nil, List.append_nil] at split
      exact ⟨split ▸ fresh.distinct, fun id hid =>
        Int.lt_of_lt_of_le (fresh.below id (split ▸ hid)) counter⟩

end IdStep

/-! ## Runs -/

/-- A command, and the files as they are found when it is given. -/
structure Turn where
  command : Command
  files : FileTree

/-- The session after one more turn. -/
def after (s : Session) (t : Turn) : Session := (t.command.run ⟨s, t.files⟩).2.session

/-- The session after a run. -/
def course (s : Session) (ts : List Turn) : Session := ts.foldl after s

theorem course_append (s : Session) (ts us : List Turn) :
    s.course (ts ++ us) = (s.course ts).course us := List.foldl_append

theorem idStep_after (s : Session) (t : Turn) : IdStep s (s.after t) (s.issued t.command) :=
  idStep_run t.command ⟨s, t.files⟩

theorem Fresh.course (h : s.Fresh) (ts : List Turn) : (s.course ts).Fresh := by
  induction ts generalizing s with
  | nil => exact h
  | cons t ts ih => exact ih ((idStep_after s t).fresh h)

/-- The counter never goes back. -/
theorem nextId_le_course (s : Session) (ts : List Turn) : s.nextId ≤ (s.course ts).nextId := by
  induction ts generalizing s with
  | nil => exact Int.le_refl _
  | cons t ts ih => exact Int.le_trans (idStep_after s t).nextId_le (ih (s.after t))

/-- At some point of the run the id was in the design, or it was taken from the counter. -/
inductive EverUsed (s : Session) (ts : List Turn) (id : Int) : Prop where
  | held (us : List Turn) (earlier : us <+: ts) (mem : id ∈ (s.course us).ids)
  | taken (us : List Turn) (t : Turn) (earlier : us ++ [t] <+: ts)
    (mem : id ∈ (s.course us).issued t.command)

/-- The counter stands above every id that was ever used. -/
theorem EverUsed.lt_nextId (fresh : s.Fresh) {ts : List Turn} {id : Int} (h : EverUsed s ts id) :
    id < (s.course ts).nextId := by
  cases h with
  | held us earlier mem =>
    obtain ⟨vs, rfl⟩ := earlier
    rw [course_append]
    exact Int.lt_of_lt_of_le ((fresh.course us).below id mem) (nextId_le_course _ vs)
  | taken us t earlier mem =>
    obtain ⟨vs, rfl⟩ := earlier
    rw [course_append, course_append]
    have step := (idStep_after (s.course us) t).taken_lt.1 id mem
    exact Int.lt_of_lt_of_le step.2 (nextId_le_course _ vs)

end Session

/-- Does the command put widgets under new ids into the design? -/
def Command.Creates : Command → Prop
  | .place .. => True
  | .duplicateSelected => True
  | .paste => True
  | _ => False

namespace Session

theorem takes_after {t : Turn} (creates : t.command.Creates) (s : Session) :
    Takes s (s.after t) (s.issued t.command) := by
  obtain ⟨c, files⟩ := t
  cases c with
  | place kind center area origin => exact takes_place kind center area origin
  | duplicateSelected => exact takes_duplicateSelected
  | paste => exact takes_paste
  | _ => exact creates.elim

/-- **Ids are not used twice.** Along every run the ids are distinct and below the counter, which
never goes back; and what a command creates comes behind the widgets that are there, under rising
ids above every id that was in the design or was taken before, by failed commands too. -/
theorem ids_of_course (p : Project) (settings : Settings) (distinct : p.ids.Nodup)
    (ts : List Turn) (t : Turn) :
    ((start p settings).course ts).ids.Nodup ∧
      (∀ id ∈ ((start p settings).course ts).ids, id < ((start p settings).course ts).nextId) ∧
      ((start p settings).course ts).nextId ≤ ((start p settings).course (ts ++ [t])).nextId ∧
      (t.command.Creates → ∃ added,
        ((start p settings).course (ts ++ [t])).project.widgets =
          ((start p settings).course ts).project.widgets ++ added ∧
        (added.map Widget.id).Pairwise (· < ·) ∧
        ∀ w ∈ added, ∀ id, EverUsed (start p settings) ts id → id < w.id) := by
  have fresh := (fresh_start settings distinct).course ts
  rw [course_append]
  have step := idStep_after ((start p settings).course ts) t
  refine ⟨fresh.distinct, fresh.below, step.nextId_le, fun creates => ?_⟩
  obtain ⟨added, widgets, ids⟩ := (takes_after creates _).added
  refine ⟨added, widgets, ?_, fun w hw id used => ?_⟩
  · rcases ids with ids | rfl
    · exact ids ▸ step.taken_lt.2
    · exact List.Pairwise.nil
  · rcases ids with ids | rfl
    · have mem : w.id ∈ ((start p settings).course ts).issued t.command :=
        ids ▸ List.mem_map_of_mem hw
      have above := (step.taken_lt.1 w.id mem).1
      have below := used.lt_nextId (fresh_start settings distinct)
      omega
    · exact nomatch hw

/-- The only widget, under the id 7, is deleted and another one is placed: it does not get the
id 7, nor a smaller one. -/
theorem ids_of_course_after_delete :
    ({ widgets := [newWidget 7 .label {} .free] } : Project).ids.Nodup ∧
      ∃ added,
        ((start { widgets := [newWidget 7 .label {} .free] } {}).course
          ([⟨.delete 7, {}⟩] ++ [⟨.place .button {} .free {}, {}⟩])).project.widgets =
          ((start { widgets := [newWidget 7 .label {} .free] } {}).course
            [⟨.delete 7, {}⟩]).project.widgets ++ added ∧
        ∀ w ∈ added, 7 < w.id := by
  have distinct : ({ widgets := [newWidget 7 .label {} .free] } : Project).ids.Nodup :=
    List.pairwise_singleton _ 7
  refine ⟨distinct, ?_⟩
  obtain ⟨-, -, -, created⟩ :=
    ids_of_course _ {} distinct [⟨.delete 7, {}⟩] ⟨.place .button {} .free {}, {}⟩
  obtain ⟨added, widgets, -, above⟩ := created trivial
  exact ⟨added, widgets, fun w hw =>
    above w hw 7 (.held [] (List.nil_prefix) (List.mem_singleton_self 7))⟩

end Session

end Formwork
