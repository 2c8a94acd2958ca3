import Formwork.Proofs.Binary64.Sort
import Formwork.Proofs.Session.Selection

/-!
# Arranging along one axis

A command that arranges the selected widgets looks at them along its axis only: at what there is of
each (`Strip`), its id, its near edge and its extent. From the strips it finds what to set
(`Arrangement.plan`), and it sets at most one coordinate of the selected widgets, nothing else
(`Session.rewrite`). `arrange_eq` says so once for all commands, and it is the only place where they
are told apart.

A selection may name an id that no widget has, or name an id twice. The first is passed over. The
second changes nothing where all are aligned or matched; in a row that is laid out, the last place
counts.
-/

set_option autoImplicit false

namespace Formwork

/-! ## Coordinates and strips -/

/-- A number of a widget that arranging sets. -/
inductive Coordinate where
  | pos (axis : Axis)
  | size (axis : Axis)

/-- What there is of a widget along an axis. -/
structure Strip where
  id : Int
  near : Binary64
  along : Binary64
  deriving DecidableEq

/-- How widgets are arranged along an axis. -/
inductive Arrangement where
  | align (how : Alignment)
  | matchExtent
  | distribute

def Widget.strip (axis : Axis) (w : Widget) : Strip := ⟨w.id, w.near axis, w.along axis⟩

namespace Coordinate

variable {c d : Coordinate}

def axis : Coordinate → Axis
  | pos axis => axis
  | size axis => axis

/-- The widget with another number at the coordinate. -/
def set : Coordinate → Binary64 → Widget → Widget
  | pos axis, x, w => w.moveTo axis x
  | size axis, x, w => w.resize axis x

/-- The strip with another number at the coordinate. -/
def setStrip : Coordinate → Binary64 → Strip → Strip
  | pos _, x, b => { b with near := x }
  | size _, x, b => { b with along := x }

theorem id_set (c : Coordinate) (x : Binary64) (w : Widget) : (c.set x w).id = w.id := by
  cases c <;> rfl

theorem area_set (c : Coordinate) (x : Binary64) (w : Widget) : (c.set x w).area = w.area := by
  cases c <;> rfl

theorem props_set (c : Coordinate) (x : Binary64) (w : Widget) : (c.set x w).props = w.props := by
  cases c <;> rfl

theorem set_set (c : Coordinate) (x y : Binary64) (w : Widget) :
    c.set x (c.set y w) = c.set x w := by
  rcases c with (_ | _) | (_ | _) <;> rfl

theorem set_comm (apart : c.axis ≠ d.axis) (x y : Binary64) (w : Widget) :
    c.set x (d.set y w) = d.set y (c.set x w) := by
  rcases c with (_ | _) | (_ | _) <;> rcases d with (_ | _) | (_ | _)
  all_goals first
    | rfl
    | exact absurd rfl apart

theorem strip_set (c : Coordinate) (x : Binary64) (w : Widget) :
    (c.set x w).strip c.axis = c.setStrip x (w.strip c.axis) := by
  rcases c with (_ | _) | (_ | _) <;> rfl

/-- What is set along one axis does not show along another. -/
theorem strip_set_of_ne {axis : Axis} (apart : c.axis ≠ axis) (x : Binary64) (w : Widget) :
    (c.set x w).strip axis = w.strip axis := by
  rcases c with (_ | _) | (_ | _) <;> cases axis
  all_goals first
    | rfl
    | exact absurd rfl apart

end Coordinate

namespace Strip

/-- The far edge. -/
def far (b : Strip) : Binary64 := b.near + b.along

/-- The middle. -/
def middle (b : Strip) : Binary64 := b.near + b.along / 2

/-- Where the strips with an id come when a row is laid out from `x` on, each strip a gap behind the
one before; the last of them counts. -/
def placeIn (gap : Binary64) (id : Int) : Binary64 → List Strip → Option Binary64
  | _, [] => none
  | x, b :: bs =>
    placeIn gap id (x + (b.along + gap)) bs <|> if b.id = id then some x else none

theorem mem_of_placeIn {gap x y : Binary64} {id : Int} {bs : List Strip}
    (placed : placeIn gap id x bs = some y) : id ∈ bs.map Strip.id := by
  induction bs generalizing x with
  | nil => cases placed
  | cons b bs ih =>
    rw [placeIn] at placed
    rcases (Option.orElse_eq_some _ _ _).1 placed with later | ⟨-, here⟩
    · exact List.mem_cons_of_mem _ (ih later)
    · by_cases named : b.id = id
      · exact named ▸ List.mem_cons_self
      · rw [if_neg named] at here
        cases here

/-- The gap that fills up the room between the outermost edges of a row. -/
def rowGap (row : List Strip) (first last : Strip) : Binary64 :=
  (last.far - first.near - total (row.map Strip.along)) / .ofNat (row.length - 1)

/-- Where a strip of a row comes when the gaps are made equal. -/
def place (row : List Strip) (first last b : Strip) : Binary64 :=
  (placeIn (rowGap row first last) b.id first.near row).getD b.near

/-- Where the strips of a row come when the gaps are made equal; nothing for too few of them. -/
def spread (row : List Strip) : Option (Strip → Binary64) :=
  match row.head?, row.getLast? with
  | some first, some last =>
    if row.length < 3 then none
    else some (place row first last)
  | _, _ => none

end Strip

namespace Arrangement

/-- The coordinate that is set. -/
def coordinate (axis : Axis) : Arrangement → Coordinate
  | align _ => .pos axis
  | matchExtent => .size axis
  | distribute => .pos axis

/-- How many ids are to be selected. -/
def least : Arrangement → Nat
  | align _ => 2
  | matchExtent => 2
  | distribute => 3

theorem axis_coordinate (a : Arrangement) (axis : Axis) : (a.coordinate axis).axis = axis := by
  cases a <;> rfl

/-- What to set, for the strips of the widgets that are arranged; nothing where there are too
few. -/
def plan : Arrangement → List Strip → Option (Strip → Binary64)
  | align _, [] => none
  | align .near, first :: rest =>
    some fun _ => rest.foldl (fun e b => e.lesser b.near) first.near
  | align .far, first :: rest =>
    some fun b => rest.foldl (fun e b => e.greater b.far) first.far - b.along
  | align .center, first :: rest =>
    some fun b => total ((first :: rest).map Strip.middle) / .ofNat (first :: rest).length
      - b.along / 2
  | matchExtent, [] => none
  | matchExtent, first :: _ => some fun _ => first.along
  | distribute, bs => Strip.spread (Binary64.sortBy Strip.near bs)

end Arrangement

namespace Session

variable {s : Session} {c d : Coordinate} {axis : Axis}

/-- The session in which the selected widgets are arranged along an axis. -/
def arrange (s : Session) (axis : Axis) : Arrangement → Session
  | .align how => (s.align axis how).2
  | .matchExtent => (s.matchExtent axis).2
  | .distribute => (s.distribute axis).2

/-- A widget with another number at a coordinate, which may depend on its strip, if it is
selected; otherwise as it is. -/
def rewritten (s : Session) (c : Coordinate) (x : Strip → Binary64) (w : Widget) : Widget :=
  if s.isSelected w.id then c.set (x (w.strip c.axis)) w else w

/-- The session with other numbers at one coordinate of the selected widgets, and nothing else
changed. -/
def rewrite (s : Session) (c : Coordinate) (x : Strip → Binary64) : Session :=
  { s with project := { s.project with widgets := s.project.widgets.map (s.rewritten c x) } }

/-- The strips of the widgets that are arranged. -/
def strips (s : Session) (axis : Axis) (least : Nat) : List Strip :=
  (s.arranged least).map (Widget.strip axis)

/-! ## Generating after a change -/

theorem arranged_touch (s : Session) (least : Nat) : s.touch.2.arranged least = s.arranged least := by
  unfold arranged selectedWidgets
  rw [selected_touch, project_touch]

theorem strips_touch (s : Session) (axis : Axis) (least : Nat) :
    s.touch.2.strips axis least = s.strips axis least := by
  rw [strips, arranged_touch, strips]

/-! ## Rewriting a coordinate -/

theorem id_rewritten (s : Session) (c : Coordinate) (x : Strip → Binary64) (w : Widget) :
    (s.rewritten c x w).id = w.id := by
  unfold rewritten
  split
  · exact c.id_set _ w
  · rfl

theorem area_rewritten (s : Session) (c : Coordinate) (x : Strip → Binary64) (w : Widget) :
    (s.rewritten c x w).area = w.area := by
  unfold rewritten
  split
  · exact c.area_set _ w
  · rfl

theorem props_rewritten (s : Session) (c : Coordinate) (x : Strip → Binary64) (w : Widget) :
    (s.rewritten c x w).props = w.props := by
  unfold rewritten
  split
  · exact c.props_set _ w
  · rfl

/-- Where widgets lie does not matter for the numbers that are written. -/
theorem checkNumbers_rewrite (s : Session) (c : Coordinate) (x : Strip → Binary64)
    (comments : Bool) :
    (s.rewrite c x).project.checkNumbers comments = s.project.checkNumbers comments :=
  Project.checkNumbers_map s.project comments (s.id_rewritten c x) (s.area_rewritten c x)
    fun w => congrArg Props.control (s.props_rewritten c x w)

theorem generate_rewrite_generate (s : Session) (c : Coordinate) (x : Strip → Binary64) :
    (s.generate.2.rewrite c x).generate = (s.rewrite c x).generate := by
  cases checked : s.project.checkNumbers s.comments with
  | error e =>
    have failed : s.generate.2 = s := by
      unfold generate Project.checkedGenerate
      rw [checked]
      rfl
    rw [failed]
  | ok =>
    have written : (s.rewrite c x).project.checkNumbers s.comments = .ok () :=
      (s.checkNumbers_rewrite c x s.comments).trans checked
    rw [generate_eq_ok checked, generate_eq_ok written]
    exact generate_eq_ok written

/-- What was generated before is lost when the session generates after a change. -/
theorem touch_rewrite_touch (s : Session) (c : Coordinate) (x : Strip → Binary64) :
    (s.touch.2.rewrite c x).touch = (s.rewrite c x).touch := by
  have drawn : (s.project.widgets.map (s.rewritten c x)).isEmpty = s.project.widgets.isEmpty :=
    List.isEmpty_map
  by_cases wanted : (s.autoGenerate && !s.project.widgets.isEmpty) = true
  · have first : s.touch = s.generate := if_pos wanted
    have last (u : Session) (auto : u.autoGenerate = s.autoGenerate)
        (widgets : u.project.widgets = s.project.widgets.map (s.rewritten c x)) :
        u.touch = u.generate := by
      refine if_pos ?_
      rw [auto, widgets, drawn]
      exact wanted
    obtain ⟨text, generated⟩ := exists_generate s
    rw [first, last (s.generate.2.rewrite c x) (by rw [generated]; rfl) (by rw [generated]; rfl),
      last (s.rewrite c x) rfl rfl]
    exact s.generate_rewrite_generate c x
  · have first : s.touch = (.ok (), s) := if_neg wanted
    rw [first]

theorem rewritten_of_selected {x : Strip → Binary64} {w : Widget} (selected : w.id ∈ s.selected) :
    s.rewritten c x w = c.set (x (w.strip c.axis)) w :=
  if_pos (List.contains_iff_mem.2 selected)

theorem rewritten_of_not_selected {x : Strip → Binary64} {w : Widget}
    (other : w.id ∉ s.selected) : s.rewritten c x w = w :=
  if_neg fun selected => other (List.contains_iff_mem.1 selected)

/-- The widgets that are arranged have been rewritten, all of them. -/
theorem arranged_rewrite (s : Session) (c : Coordinate) (x : Strip → Binary64) (least : Nat) :
    (s.rewrite c x).arranged least =
      (s.arranged least).map fun w => c.set (x (w.strip c.axis)) w := by
  have widgets : (s.rewrite c x).selectedWidgets =
      s.selectedWidgets.map fun w => c.set (x (w.strip c.axis)) w := by
    unfold selectedWidgets
    rw [List.map_filterMap]
    refine List.filterMap_congr fun id selected => ?_
    have same : ((fun w : Widget => w.id == id) ∘ s.rewritten c x) = fun w => w.id == id :=
      funext fun w => congrArg (· == id) (s.id_rewritten c x w)
    have found : (s.rewrite c x).project.find? id =
        (s.project.find? id).map (s.rewritten c x) := by
      unfold Project.find? rewrite
      rw [List.find?_map, same]
    rw [found]
    cases there : s.project.find? id with
    | none => rfl
    | some w =>
      have named := (Project.mem_of_find? there).2
      exact congrArg some (rewritten_of_selected (named ▸ selected))
  unfold arranged
  rw [widgets]
  show (if least ≤ s.selected.length then _ else _) = _
  split <;> rfl

theorem strips_rewrite (along : c.axis = axis) (s : Session) (x : Strip → Binary64)
    (least : Nat) : (s.rewrite c x).strips axis least =
      (s.strips axis least).map fun b => c.setStrip (x b) b := by
  subst along
  rw [strips, arranged_rewrite, strips, List.map_map, List.map_map]
  exact List.map_congr_left fun w _ => c.strip_set _ w

theorem strips_rewrite_of_ne (apart : c.axis ≠ axis) (s : Session) (x : Strip → Binary64)
    (least : Nat) : (s.rewrite c x).strips axis least = s.strips axis least := by
  rw [strips, arranged_rewrite, strips, List.map_map]
  exact List.map_congr_left fun w _ => Coordinate.strip_set_of_ne apart _ w

/-- Coordinates along different axes may be rewritten in either order. -/
theorem rewrite_comm (apart : c.axis ≠ d.axis) (s : Session) (x y : Strip → Binary64) :
    (s.rewrite c x).rewrite d y = (s.rewrite d y).rewrite c x := by
  have each (w : Widget) : (s.rewrite c x).rewritten d y (s.rewritten c x w) =
      (s.rewrite d y).rewritten c x (s.rewritten d y w) := by
    by_cases selected : w.id ∈ s.selected
    · have chosen : s.rewritten c x w = c.set (x (w.strip c.axis)) w :=
        rewritten_of_selected selected
      have chosen' : s.rewritten d y w = d.set (y (w.strip d.axis)) w :=
        rewritten_of_selected selected
      rw [chosen, chosen', rewritten_of_selected, rewritten_of_selected,
        Coordinate.strip_set_of_ne apart, Coordinate.strip_set_of_ne (Ne.symm apart),
        Coordinate.set_comm apart]
      · rw [Coordinate.id_set]
        exact selected
      · rw [Coordinate.id_set]
        exact selected
    · have kept : s.rewritten c x w = w := rewritten_of_not_selected selected
      have kept' : s.rewritten d y w = w := rewritten_of_not_selected selected
      have still : (s.rewrite c x).rewritten d y w = w := rewritten_of_not_selected selected
      have still' : (s.rewrite d y).rewritten c x w = w := rewritten_of_not_selected selected
      rw [kept, kept', still, still']
  unfold rewrite
  simp only [List.map_map]
  exact congrArg (fun ws => { s with project := { s.project with widgets := ws } })
    (List.map_congr_left fun w _ => each w)

/-- Of two numbers at one coordinate the second counts; it may depend on the first. -/
theorem rewrite_rewrite (s : Session) (c : Coordinate) (x y : Strip → Binary64) :
    (s.rewrite c x).rewrite c y = s.rewrite c fun b => y (c.setStrip (x b) b) := by
  have each (w : Widget) : (s.rewrite c x).rewritten c y (s.rewritten c x w) =
      s.rewritten c (fun b => y (c.setStrip (x b) b)) w := by
    by_cases selected : w.id ∈ s.selected
    · have chosen : s.rewritten c x w = c.set (x (w.strip c.axis)) w :=
        rewritten_of_selected selected
      rw [chosen, rewritten_of_selected, rewritten_of_selected selected, Coordinate.strip_set,
        Coordinate.set_set]
      rw [Coordinate.id_set]
      exact selected
    · have kept : s.rewritten c x w = w := rewritten_of_not_selected selected
      rw [kept, rewritten_of_not_selected selected]
      exact rewritten_of_not_selected selected
  unfold rewrite
  rw [List.map_map]
  exact congrArg (fun ws => { s with project := { s.project with widgets := ws } })
    (List.map_congr_left fun w _ => each w)

/-! ## What the commands do -/

/-- A change that is made once is made once for each widget, however often its id is named. -/
theorem updateEach_eq_map {change : Widget → Widget} (keeps : ∀ w, (change w).id = w.id)
    (again : ∀ w, change (change w) = change w) (s : Session) (ids : List Int) :
    s.updateEach ids change = { s with project := { s.project with
      widgets := s.project.widgets.map fun w => if w.id ∈ ids then change w else w } } := by
  induction ids generalizing s with
  | nil => simp [updateEach]
  | cons id ids ih =>
    have first : s.updateEach (id :: ids) change = (s.update id change).updateEach ids change := rfl
    rw [first, ih, update, Project.update, List.map_map]
    refine congrArg (fun ws => { s with project := { s.project with widgets := ws } })
      (List.map_congr_left fun w _ => ?_)
    by_cases named : w.id = id
    · by_cases later : id ∈ ids
      · simp [named, later, keeps, again]
      · simp [named, later, keeps]
    · simp [named]

theorem moveTo_near (axis : Axis) (w : Widget) : w.moveTo axis (w.near axis) = w := by
  cases axis <;> rfl

theorem resize_along (axis : Axis) (w : Widget) : w.resize axis (w.along axis) = w := by
  cases axis <;> rfl

/-- What is laid out is moved to its place, where it has one. -/
theorem layOut_eq_map (axis : Axis) (gap : Binary64) (s : Session) (x : Binary64)
    (ws : List Widget) : s.layOut axis gap x ws = { s with project := { s.project with
      widgets := s.project.widgets.map fun w =>
        (Strip.placeIn gap w.id x (ws.map (Widget.strip axis))).elim w
          fun y => w.moveTo axis y } } := by
  induction ws generalizing s x with
  | nil => simp [layOut, Strip.placeIn]
  | cons v vs ih =>
    rw [layOut, ih, update, Project.update, List.map_map]
    refine congrArg (fun ws => { s with project := { s.project with widgets := ws } })
      (List.map_congr_left fun w _ => ?_)
    have along : (v.strip axis).along = v.along axis := rfl
    rw [List.map_cons, Strip.placeIn, along]
    have moved (y : Binary64) : (w.moveTo axis x).moveTo axis y = w.moveTo axis y :=
      Coordinate.set_set (.pos axis) y x w
    by_cases here : w.id = v.id
    · have same : (v.strip axis).id = w.id := here.symm
      simp only [Function.comp_apply, beq_iff_eq, here, if_true]
      show Option.elim (Strip.placeIn gap w.id _ _) _ _ = _
      rw [← here, if_pos same]
      cases Strip.placeIn gap w.id (x + (v.along axis + gap)) (vs.map (Widget.strip axis)) with
      | none => rfl
      | some y => exact moved y
    · have other : (v.strip axis).id ≠ w.id := Ne.symm here
      simp only [Function.comp_apply, beq_iff_eq, here, if_false]
      rw [if_neg other]
      cases Strip.placeIn gap w.id (x + (v.along axis + gap)) (vs.map (Widget.strip axis)) <;> rfl

theorem mem_of_mem_arranged {least : Nat} {w : Widget} (h : w ∈ s.arranged least) :
    w ∈ s.project.widgets ∧ w.id ∈ s.selected := by
  unfold arranged at h
  split at h
  next =>
    obtain ⟨id, selected, found⟩ := List.mem_filterMap.1 h
    obtain ⟨there, named⟩ := Project.mem_of_find? found
    exact ⟨there, named ▸ selected⟩
  next => cases h

/-- Where widgets are arranged at all, they are the selected ones. -/
theorem mem_ids_arranged {least : Nat} (enough : s.arranged least ≠ []) {w : Widget}
    (hw : w ∈ s.project.widgets) :
    w.id ∈ (s.arranged least).map Widget.id ↔ w.id ∈ s.selected := by
  have selected : s.arranged least = s.selectedWidgets := by
    unfold arranged at enough ⊢
    split
    next => rfl
    next few =>
      rw [if_neg few] at enough
      exact absurd rfl enough
  have held : w.id ∈ s.ids := List.mem_map_of_mem hw
  rw [selected, map_id_selectedWidgets, List.mem_filter, decide_eq_true held]
  simp

theorem eq_rewrite {f : Widget → Widget} {x : Strip → Binary64}
    (each : ∀ w ∈ s.project.widgets, f w = s.rewritten c x w) :
    { s with project := { s.project with widgets := s.project.widgets.map f } } =
      s.rewrite c x :=
  congrArg (fun ws => { s with project := { s.project with widgets := ws } })
    (List.map_congr_left each)

/-- The edges of the widgets are found from their strips. -/
theorem exists_plan_align (axis : Axis) (how : Alignment) (first : Widget) (rest : List Widget) :
    ∃ x, (Arrangement.align how).plan ((first :: rest).map (Widget.strip axis)) = some x ∧
      ∀ w, alignedEdge axis how first rest w = x (w.strip axis) := by
  cases how with
  | near =>
    refine ⟨_, rfl, fun w => ?_⟩
    rw [List.foldl_map]
    rfl
  | center =>
    refine ⟨_, rfl, fun w => ?_⟩
    have middles : ((first :: rest).map (Widget.strip axis)).map Strip.middle =
        (first :: rest).map fun w => w.middle axis := List.map_map
    rw [List.map_cons] at middles
    rw [middles, List.length_cons, List.length_map]
    rfl
  | far =>
    refine ⟨_, rfl, fun w => ?_⟩
    rw [List.foldl_map]
    rfl

theorem align_eq (s : Session) (axis : Axis) (how : Alignment) : (s.align axis how).2 =
    ((Arrangement.align how).plan (s.strips axis 2)).elim s fun x =>
      (s.rewrite (.pos axis) x).touch.2 := by
  unfold align strips
  cases arranged : s.arranged 2 with
  | nil => rfl
  | cons first rest =>
    obtain ⟨x, plan, edge⟩ := exists_plan_align axis how first rest
    have again (w : Widget) (y : Binary64) :
        alignedEdge axis how first rest (w.moveTo axis y) = alignedEdge axis how first rest w := by
      cases how <;> cases axis <;> rfl
    rw [plan, Option.elim_some]
    dsimp only
    refine congrArg (fun t => t.touch.2) ((updateEach_eq_map ?_ ?_ s _).trans (eq_rewrite ?_))
    · intro w
      rfl
    · intro w
      rw [again]
      exact Coordinate.set_set (.pos axis) _ _ w
    · intro w hw
      have mem := mem_ids_arranged (by rw [arranged]; nofun) hw
      rw [arranged] at mem
      by_cases selected : w.id ∈ s.selected
      · rw [if_pos (mem.2 selected), rewritten_of_selected selected, edge]
        rfl
      · rw [if_neg (mt mem.1 selected), rewritten_of_not_selected selected]

theorem matchExtent_eq (distinct : s.ids.Nodup) (axis : Axis) : (s.matchExtent axis).2 =
    (Arrangement.matchExtent.plan (s.strips axis 2)).elim s fun x =>
      (s.rewrite (.size axis) x).touch.2 := by
  unfold matchExtent strips
  cases arranged : s.arranged 2 with
  | nil => rfl
  | cons first rest =>
    rw [List.map_cons, Arrangement.plan, Option.elim_some]
    dsimp only
    refine congrArg (fun t => t.touch.2) ((updateEach_eq_map ?_ ?_ s _).trans (eq_rewrite ?_))
    · intro w
      rfl
    · intro w
      exact Coordinate.set_set (.size axis) _ _ w
    intro w hw
    have mem := mem_ids_arranged (by rw [arranged]; nofun) hw
    rw [arranged, List.map_cons, List.mem_cons] at mem
    by_cases selected : w.id ∈ s.selected
    · rw [rewritten_of_selected selected]
      show _ = w.resize axis (first.along axis)
      -- The first widget is left out, and it has the extent already.
      by_cases later : w.id ∈ rest.map Widget.id
      · rw [if_pos later]
      · have named : w.id = first.id := (mem.2 selected).resolve_right later
        have there : first ∈ s.project.widgets :=
          (mem_of_mem_arranged (arranged ▸ List.mem_cons_self)).1
        have same : w = first := List.inj_on_of_nodup_map distinct hw there named
        rw [if_neg later, ← same, resize_along]
    · rw [if_neg fun later => selected (mem.1 (.inr later)), rewritten_of_not_selected selected]

/-- The row of the widgets is found from the row of their strips. -/
theorem distribute_eq (s : Session) (axis : Axis) : (s.distribute axis).2 =
    (Arrangement.distribute.plan (s.strips axis 3)).elim s fun x =>
      (s.rewrite (.pos axis) x).touch.2 := by
  have row : Binary64.sortBy Strip.near (s.strips axis 3) =
      (Binary64.sortBy (fun w => w.near axis) (s.arranged 3)).map (Widget.strip axis) :=
    Binary64.sortBy_map Strip.near (Widget.strip axis) (s.arranged 3)
  have named : ∀ w ∈ Binary64.sortBy (fun w => w.near axis) (s.arranged 3), w.id ∈ s.selected :=
    fun w hw => (mem_of_mem_arranged ((Binary64.perm_sortBy _ _).mem_iff.1 hw)).2
  show _ = (Strip.spread (Binary64.sortBy Strip.near (s.strips axis 3))).elim s _
  rw [row, distribute, Strip.spread, List.head?_map, List.getLast?_map, List.length_map]
  generalize Binary64.sortBy (fun w => w.near axis) (s.arranged 3) = ws at named ⊢
  dsimp only
  cases ws.head? with
  | none => rfl
  | some first =>
    cases ws.getLast? with
    | none => rfl
    | some last =>
      dsimp only [Option.map_some]
      by_cases few : ws.length < 3
      · rw [if_pos few, if_pos few]
        rfl
      · rw [if_neg few, if_neg few, Option.elim_some]
        refine congrArg (fun t => t.touch.2) ((layOut_eq_map ..).trans (eq_rewrite fun w hw => ?_))
        have gap : Strip.rowGap (ws.map (Widget.strip axis)) (first.strip axis) (last.strip axis) =
            (last.far axis - first.near axis - total (ws.map fun w => w.along axis)) /
              .ofNat (ws.length - 1) := by
          rw [Strip.rowGap, List.map_map, List.length_map]
          rfl
        rw [← gap]
        by_cases selected : w.id ∈ s.selected
        · rw [rewritten_of_selected selected]
          show _ = w.moveTo axis ((Strip.placeIn _ w.id (first.near axis) _).getD (w.near axis))
          cases Strip.placeIn _ w.id (first.near axis) (ws.map (Widget.strip axis)) with
          | none => exact (moveTo_near axis w).symm
          | some y => rfl
        · rw [rewritten_of_not_selected selected]
          cases placed : Strip.placeIn _ w.id (first.near axis) (ws.map (Widget.strip axis)) with
          | none => rfl
          | some y =>
            have mem := Strip.mem_of_placeIn placed
            rw [List.map_map] at mem
            obtain ⟨v, hv, same⟩ := List.mem_map.1 mem
            have same : v.id = w.id := same
            exact absurd (named v hv) (same ▸ selected)

/-- What an arrangement does: nothing, or it sets what its plan says and generates. -/
theorem arrange_eq (distinct : s.ids.Nodup) (axis : Axis) (a : Arrangement) : s.arrange axis a =
    (a.plan (s.strips axis a.least)).elim s fun x =>
      (s.rewrite (a.coordinate axis) x).touch.2 := by
  cases a with
  | align how => exact s.align_eq axis how
  | matchExtent => exact matchExtent_eq distinct axis
  | distribute => exact s.distribute_eq axis

end Session

end Formwork
