import Formwork.Proofs.Binary64.Value
import Formwork.Proofs.Session.Arrangement
import Mathlib.Algebra.Order.BigOperators.Group.List
import Mathlib.Data.List.Chain
import Mathlib.Tactic.FieldSimp
import Mathlib.Tactic.Ring

/-!
# Equal gaps

Distributing takes the selected widgets in the order of their near edges and lays them out anew, each
a gap behind the one before. The gap is chosen so that the first widget of that row and the last one
stay where they are. Read as rationals, where all that is computed is exact, the gaps in the row are
then equal (`Strip.map_span_placeIn`, `Span.gaps_laid`).

Whether the outermost edges of the selection stay as well is another matter. The last widget of the
row need not be the one that reaches furthest, and where widgets overlap so much that the gap is less
than the negative of a width, the row is laid out backwards for a while. `distribute_distributed_iff`
says when neither happens.
-/

set_option autoImplicit false

namespace Formwork

/-- The edges of a widget along an axis, as rationals. -/
structure Span where
  near : ℚ
  far : ℚ
  deriving DecidableEq

namespace Span

/-- From the far edge of each span to the near edge of the next one; negative where they overlap. -/
def gaps : List Span → List ℚ
  | a :: b :: rest => (b.near - a.far) :: gaps (b :: rest)
  | _ => []

/-- What distributing is for, of spans in the order in which they lie: the gaps are equal, and the
outermost edges are those of before. -/
structure Distributed (before after : List Span) : Prop where
  ordered : (after.map near).Pairwise (· ≤ ·)
  even : ∃ gap, ∀ g ∈ gaps after, g = gap
  near : (after.map near).min? = (before.map near).min?
  far : (after.map far).max? = (before.map far).max?

theorem min?_of_ordered {x : ℚ} {xs : List ℚ} (ordered : (x :: xs).Pairwise (· ≤ ·)) :
    (x :: xs).min? = some x :=
  List.min?_eq_some_iff.2
    ⟨List.mem_cons_self, List.forall_mem_cons.2 ⟨le_rfl, (List.pairwise_cons.1 ordered).1⟩⟩

/-! ## Spans laid out -/

/-- Spans of the given extents from `x` on, each a gap behind the one before. -/
def laid (gap : ℚ) : ℚ → List ℚ → List Span
  | _, [] => []
  | x, d :: ds => ⟨x, x + d⟩ :: laid gap (x + (d + gap)) ds

/-- Where the next span comes. -/
def reach (gap x : ℚ) (ds : List ℚ) : ℚ := x + (ds.map fun d => d + gap).sum

variable {gap x d : ℚ} {ds : List ℚ}

theorem reach_cons : reach gap x (d :: ds) = reach gap (x + (d + gap)) ds := by
  rw [reach, List.map_cons, List.sum_cons, ← add_assoc, reach]

theorem reach_eq (gap x : ℚ) (ds : List ℚ) : reach gap x ds = x + ds.sum + ds.length * gap := by
  induction ds generalizing x with
  | nil => simp [reach]
  | cons d ds ih =>
    rw [reach_cons, ih, List.sum_cons, List.length_cons]
    push_cast
    ring

theorem laid_append (ds es : List ℚ) :
    laid gap x (ds ++ es) = laid gap x ds ++ laid gap (reach gap x ds) es := by
  induction ds generalizing x with
  | nil => simp [laid, reach]
  | cons d ds ih => rw [List.cons_append, laid, ih, laid, List.cons_append, reach_cons]

theorem gaps_laid (gap x : ℚ) (ds : List ℚ) : ∀ g ∈ gaps (laid gap x ds), g = gap := by
  induction ds generalizing x with
  | nil => nofun
  | cons d ds ih =>
    cases ds with
    | nil => nofun
    | cons e es =>
      refine List.forall_mem_cons.2 ⟨?_, ih _⟩
      show x + (d + gap) - (x + d) = gap
      ring

/-- The row runs forward exactly if no span but the last is narrower than the overlap. -/
theorem ordered_laid_iff : ((laid gap x ds).map near).Pairwise (· ≤ ·) ↔
    ∀ d ∈ ds.dropLast, -gap ≤ d := by
  rw [← List.isChain_iff_pairwise]
  induction ds generalizing x with
  | nil => simp [laid]
  | cons d ds ih =>
    cases ds with
    | nil => simp [laid]
    | cons e es =>
      have step : x ≤ x + (d + gap) ↔ -gap ≤ d := by
        rw [le_add_iff_nonneg_right, neg_le_iff_add_nonneg]
      have next := @ih (x + (d + gap))
      rw [laid, List.map_cons] at next
      rw [laid, laid, List.map_cons, List.map_cons, List.isChain_cons_cons, next, step,
        List.dropLast_cons_cons, List.forall_mem_cons]

section Wide

variable (wide : ∀ d ∈ ds, -gap ≤ d)
include wide

theorem le_reach : x ≤ reach gap x ds := by
  rw [reach, le_add_iff_nonneg_right]
  refine List.sum_nonneg fun y hy => ?_
  obtain ⟨d, hd, rfl⟩ := List.mem_map.1 hy
  exact neg_le_iff_add_nonneg.1 (wide d hd)

/-- No span that another one follows reaches further than the near edge of the last one allows. -/
theorem far_le : ∀ a ∈ laid gap x ds, a.far ≤ reach gap x ds - gap := by
  induction ds generalizing x with
  | nil => nofun
  | cons d ds ih =>
    have later := (List.forall_mem_cons.1 wide).2
    rw [laid, reach_cons, List.forall_mem_cons]
    refine ⟨?_, ih later⟩
    have next : x + (d + gap) ≤ reach gap (x + (d + gap)) ds := le_reach later
    show x + d ≤ _
    linarith

omit wide in
/-- The last but one reaches as far as that. -/
theorem exists_far_eq (some_ : ds ≠ []) : ∃ a ∈ laid gap x ds, a.far = reach gap x ds - gap := by
  induction ds generalizing x with
  | nil => exact absurd rfl some_
  | cons d ds ih =>
    cases ds with
    | nil =>
      refine ⟨⟨x, x + d⟩, List.mem_cons_self, ?_⟩
      rw [reach, List.map_cons, List.map_nil, List.sum_cons, List.sum_nil]
      ring
    | cons e es =>
      obtain ⟨a, ha, far⟩ := @ih (x + (d + gap)) (List.cons_ne_nil e es)
      exact ⟨a, List.mem_cons_of_mem _ ha, far.trans (congrArg (· - gap) reach_cons.symm)⟩

/-- How far a row reaches that runs forward. -/
theorem max?_far_laid (some_ : ds ≠ []) (d : ℚ) : ((laid gap x (ds ++ [d])).map far).max? =
    some (max (reach gap x ds - gap) (reach gap x ds + d)) := by
  rw [laid_append, List.map_append, List.max?_eq_some_iff]
  show _ ∈ _ ++ [reach gap x ds + d] ∧ _
  constructor
  · rcases max_choice (reach gap x ds - gap) (reach gap x ds + d) with left | right
    · obtain ⟨a, ha, far_eq⟩ : ∃ a ∈ laid gap x ds, a.far = reach gap x ds - gap :=
        exists_far_eq some_
      rw [left, ← far_eq]
      exact List.mem_append_left _ (List.mem_map_of_mem ha)
    · rw [right]
      exact List.mem_append_right _ (List.mem_singleton_self _)
  · intro y hy
    rcases List.mem_append.1 hy with inner | last
    · obtain ⟨b, hb, rfl⟩ := List.mem_map.1 inner
      exact le_max_of_le_left (far_le wide b hb)
    · rw [List.mem_singleton.1 last]
      exact le_max_right _ _

end Wide

theorem getLast?_laid (last : ds.getLast? = some d) : (laid gap x ds).getLast? =
    some ⟨reach gap x ds.dropLast, reach gap x ds.dropLast + d⟩ := by
  conv_lhs => rw [← List.dropLast_append_getLast? d last, laid_append]
  exact List.getLast?_concat

/-- Where the row fills up the room as far as `e`, its last span ends there. -/
theorem reach_dropLast {e : ℚ} (last : ds.getLast? = some d)
    (fills : (ds.length - 1 : ℕ) * gap = e - x - ds.sum) : reach gap x ds.dropLast = e - d := by
  have sum : ds.dropLast.sum + d = ds.sum := by
    conv_rhs => rw [← List.dropLast_append_getLast? d last]
    rw [List.sum_append, List.sum_singleton]
  rw [reach_eq, List.length_dropLast, fills]
  linarith

/-- A row that begins with the nearest edge of before is what distributing is for exactly if it runs
forward and reaches as far as before. -/
theorem distributed_laid_iff (gap : ℚ) {before : List Span} (nearest : (before.map near).min? = some x)
    (several : ds.dropLast ≠ []) (last : ds.getLast? = some d) :
    Distributed before (laid gap x ds) ↔ (∀ d ∈ ds.dropLast, -gap ≤ d) ∧
      (before.map far).max? =
        some (max (reach gap x ds.dropLast - gap) (reach gap x ds.dropLast + d)) := by
  have whole := List.dropLast_append_getLast? d last
  constructor
  · intro distributed
    have wide := ordered_laid_iff.1 distributed.ordered
    have reached := max?_far_laid (x := x) wide several d
    rw [whole] at reached
    exact ⟨wide, distributed.far.symm.trans reached⟩
  · rintro ⟨wide, reached⟩
    have ordered := ordered_laid_iff (x := x).2 wide
    refine ⟨ordered, ⟨gap, gaps_laid gap x ds⟩, ?_, ?_⟩
    · cases ds with
      | nil => exact absurd rfl several
      | cons e es => exact (min?_of_ordered ordered).trans nearest.symm
    · rw [reached, ← max?_far_laid wide several d, whole]

end Span

/-! ## The row of a session -/

namespace Strip

open Binary64

variable {row : List Strip} {first last : Strip} {gap x : Binary64}

/-- What the strip covers. -/
def span (b : Strip) : Span := ⟨b.near.value, b.near.value + b.along.value⟩

/-- All places of a row that is laid out from `x` on are found exactly. -/
def ExactPlaces (gap : Binary64) : Binary64 → List Strip → Prop
  | _, [] => True
  | x, b :: bs => ExactAdd b.along gap ∧ ExactAdd x (b.along + gap) ∧
    ExactPlaces gap (x + (b.along + gap)) bs

instance decidableExactPlaces (gap : Binary64) :
    (x : Binary64) → (row : List Strip) → Decidable (ExactPlaces gap x row)
  | _, [] => isTrue trivial
  | x, b :: bs =>
    have := decidableExactPlaces gap (x + (b.along + gap)) bs
    inferInstanceAs (Decidable (_ ∧ _ ∧ _))

/-- A row of finite numbers, between its first and its last strip, for which all that distributing
computes is exact. -/
structure Exact (row : List Strip) (first last : Strip) : Prop where
  leads : row.head? = some first
  ends : row.getLast? = some last
  finite : ∀ b ∈ row, b.near.isFinite = true
  far : ExactAdd last.near last.along
  between : ExactSub last.far first.near
  extent : ExactTotal 0 (row.map along)
  room : ExactSub (last.far - first.near) (total (row.map along))
  count : (ofNat (row.length - 1)).Denotes (row.length - 1 : ℕ)
  gap : ExactDiv (last.far - first.near - total (row.map along)) (.ofNat (row.length - 1))
  places : ExactPlaces (rowGap row first last) first.near row

/-- What each gap has of the room that the strips leave. -/
def evenGap (row : List Strip) (first last : Strip) : ℚ :=
  (last.span.far - first.span.near - (row.map fun b => b.along.value).sum) / (row.length - 1 : ℕ)

theorem Exact.value_rowGap (exact : Exact row first last) :
    (rowGap row first last).value = evenGap row first last := by
  have extent : (total (row.map along)).value = (row.map fun b => b.along.value).sum := by
    rw [total, exact.extent.value, value_zero, zero_add, List.map_map]
    rfl
  have far : last.far.value = last.span.far := exact.far.2
  rw [rowGap, exact.gap.2, exact.count.2, exact.room.2, exact.between.2, extent, far]
  rfl

section Ends

variable (exact : Exact row first last) (several : 3 ≤ row.length)
include exact

theorem Exact.getLast?_along : (row.map fun b => b.along.value).getLast? = some last.along.value := by
  rw [List.getLast?_map, exact.ends]
  rfl

include several

/-- With these gaps the last strip stays where it is. -/
theorem Exact.reach_evenGap :
    Span.reach (evenGap row first last) first.span.near (row.map fun b => b.along.value).dropLast =
      last.span.near := by
  have count : ((row.length - 1 : ℕ) : ℚ) ≠ 0 := Nat.cast_ne_zero.2 (by omega)
  rw [Span.reach_dropLast (e := last.span.far) exact.getLast?_along]
  · exact add_sub_cancel_right _ _
  · rw [List.length_map, evenGap]
    field_simp

/-- The outer strips of the row stay where they are. -/
theorem Exact.ends_laid :
    (Span.laid (evenGap row first last) first.span.near (row.map fun b => b.along.value)).head? =
        some first.span ∧
      (Span.laid (evenGap row first last) first.span.near
        (row.map fun b => b.along.value)).getLast? = some last.span := by
  constructor
  · obtain ⟨rest, cons⟩ := List.head?_eq_some_iff.1 exact.leads
    rw [cons]
    rfl
  · rw [Span.getLast?_laid exact.getLast?_along, exact.reach_evenGap several]
    rfl

end Ends

/-- Laid out in places that are found exactly, strips of different ids cover what the row covers. -/
theorem map_span_placeIn (distinct : (row.map Strip.id).Nodup) (places : ExactPlaces gap x row) :
    (row.map fun b => Strip.span { b with near := (placeIn gap b.id x row).getD b.near }) =
      Span.laid gap.value x.value (row.map fun b => b.along.value) := by
  induction row generalizing x with
  | nil => rfl
  | cons b bs ih =>
    obtain ⟨wide, next, later⟩ := places
    obtain ⟨new, distinct⟩ := List.nodup_cons.1 distinct
    have first : placeIn gap b.id x (b :: bs) = some x := by
      have absent : placeIn gap b.id (x + (b.along + gap)) bs = none :=
        Option.eq_none_iff_forall_ne_some.2 fun y placed => new (mem_of_placeIn placed)
      rw [placeIn, absent, if_pos rfl]
      rfl
    have others : ∀ c ∈ bs, placeIn gap c.id x (b :: bs) =
        placeIn gap c.id (x + (b.along + gap)) bs := by
      intro c hc
      have other : b.id ≠ c.id := fun same => new (same ▸ List.mem_map_of_mem hc)
      rw [placeIn, if_neg other]
      cases placeIn gap c.id (x + (b.along + gap)) bs <;> rfl
    rw [List.map_cons, List.map_cons, Span.laid, first, ← wide.2, ← next.2, ← ih distinct later]
    refine congrArg _ (List.map_congr_left fun c hc => ?_)
    rw [others c hc]

/-- What a row covers when the gaps are made equal. -/
theorem Exact.map_span_place (exact : Exact row first last) (distinct : (row.map Strip.id).Nodup) :
    (row.map fun b => Strip.span { b with near := place row first last b }) =
      Span.laid (evenGap row first last) first.span.near (row.map fun b => b.along.value) := by
  have laid := map_span_placeIn distinct exact.places
  rwa [exact.value_rowGap] at laid

end Strip

namespace Session

variable {s : Session} {axis : Axis} {first last : Strip}

/-- What the selected widgets cover along an axis, in the order of selection. -/
def spans (s : Session) (axis : Axis) : List Span :=
  s.selectedWidgets.map fun w => (w.strip axis).span

/-- The selected widgets in the order of their near edges. -/
def row (s : Session) (axis : Axis) : List Strip :=
  Binary64.sortBy Strip.near (s.selectedWidgets.map (Widget.strip axis))

theorem strips_of_le {least : Nat} (enough : least ≤ s.selected.length) :
    s.strips axis least = s.selectedWidgets.map (Widget.strip axis) := by
  rw [strips, arranged, if_pos enough]

theorem spans_eq (s : Session) (axis : Axis) :
    s.spans axis = (s.selectedWidgets.map (Widget.strip axis)).map Strip.span := by
  rw [spans, List.map_map]
  rfl

theorem perm_row (s : Session) (axis : Axis) :
    (s.row axis).Perm (s.selectedWidgets.map (Widget.strip axis)) :=
  Binary64.perm_sortBy _ _

/-- The row begins with the nearest edge. -/
theorem near_le_of_mem_row (exact : Strip.Exact (s.row axis) first last) {b : Strip}
    (hb : b ∈ s.row axis) : first.span.near ≤ b.span.near := by
  have finite := exact.finite
  have sorted : (s.row axis).Pairwise fun a b => a.near.rank ≤ b.near.rank :=
    Binary64.pairwise_sortBy fun a ha =>
      Binary64.isNaN_of_finite (finite a ((s.perm_row axis).mem_iff.2 ha))
  refine (Binary64.value_le_iff (finite first (List.mem_of_head? exact.leads)) (finite b hb)).2 ?_
  obtain ⟨rest, cons⟩ := List.head?_eq_some_iff.1 exact.leads
  rw [cons, List.pairwise_cons] at sorted
  rw [cons] at hb
  rcases List.mem_cons.1 hb with rfl | later
  · exact le_rfl
  · exact sorted.1 b later

theorem min?_near_spans (exact : Strip.Exact (s.row axis) first last) :
    ((s.spans axis).map Span.near).min? = some first.span.near := by
  have mem {b : Strip} : b ∈ s.row axis ↔ b ∈ s.selectedWidgets.map (Widget.strip axis) :=
    (s.perm_row axis).mem_iff
  rw [spans_eq, List.map_map, List.min?_eq_some_iff]
  constructor
  · exact List.mem_map_of_mem (mem.1 (List.mem_of_head? exact.leads))
  · intro y hy
    obtain ⟨b, hb, rfl⟩ := List.mem_map.1 hy
    exact near_le_of_mem_row exact (mem.2 hb)

/-- Where the widgets of the row come. -/
theorem distribute_row (three : 3 ≤ s.selectedWidgets.length)
    (exact : Strip.Exact (s.row axis) first last) :
    (s.distribute axis).2 = (s.rewrite (.pos axis) (Strip.place (s.row axis) first last)).touch.2 := by
  have enough : 3 ≤ s.selected.length := three.trans (List.length_filterMap_le ..)
  have several : ¬(s.row axis).length < 3 := by
    rw [(s.perm_row axis).length_eq, List.length_map]
    exact Nat.not_lt.2 three
  have plan : Arrangement.distribute.plan (s.strips axis 3) =
      some (Strip.place (s.row axis) first last) := by
    rw [strips_of_le enough]
    show Strip.spread (s.row axis) = _
    rw [Strip.spread, exact.leads, exact.ends]
    exact if_neg several
  rw [distribute_eq, plan, Option.elim_some]

theorem spans_rewrite (s : Session) (axis : Axis) (x : Strip → Binary64) :
    (s.rewrite (.pos axis) x).touch.2.spans axis = (s.selectedWidgets.map (Widget.strip axis)).map
      fun b => Strip.span { b with near := x b } := by
  have strips : (s.rewrite (.pos axis) x).strips axis 0 =
      (s.strips axis 0).map fun b => { b with near := x b } := strips_rewrite rfl s x 0
  rw [spans_eq, ← strips_of_le (Nat.zero_le _), strips_touch, strips,
    strips_of_le (Nat.zero_le _), List.map_map]
  rfl

/-- **What distributing does.** In a session where three widgets or more are selected, none of them
twice, and all numbers are exact, distributing moves selected widgets along the axis, does nothing else
and generates. In the row that they are in, the first and the last stay where they are, and all gaps
become equal. That order is the new one too, and the outermost edges are those of before, exactly if no
widget but the last is narrower than the overlap, and the furthest edge of before is the one that the
last widget has or the last but one comes to have. -/
theorem distribute_distributed_iff (once : s.selected.Nodup)
    (three : 3 ≤ s.selectedWidgets.length) (exact : Strip.Exact (s.row axis) first last) :
    ∃ x after gap, (s.distribute axis).2 = (s.rewrite (.pos axis) x).touch.2 ∧
      after = ((s.row axis).map fun b => Strip.span { b with near := x b }) ∧
      after.Perm ((s.distribute axis).2.spans axis) ∧
      after.head? = some first.span ∧ after.getLast? = some last.span ∧
      gap = Strip.evenGap (s.row axis) first last ∧ (∀ g ∈ Span.gaps after, g = gap) ∧
      (Span.Distributed (s.spans axis) after ↔
        (∀ b ∈ (s.row axis).dropLast, -gap ≤ b.along.value) ∧
          ((s.spans axis).map Span.far).max? =
            some (max (last.span.near - gap) last.span.far)) := by
  have perm := s.perm_row axis
  have distinct : ((s.row axis).map Strip.id).Nodup := by
    rw [(perm.map Strip.id).nodup_iff, List.map_map]
    exact nodup_map_id_selectedWidgets once
  have several : 3 ≤ (s.row axis).length := by
    rwa [perm.length_eq, List.length_map]
  obtain ⟨head, foot⟩ := exact.ends_laid several
  refine ⟨_, _, _, distribute_row three exact, (exact.map_span_place distinct).symm, ?_, head, foot,
    rfl, Span.gaps_laid _ _ _, ?_⟩
  · rw [distribute_row three exact, spans_rewrite, ← exact.map_span_place distinct]
    exact perm.map _
  · have inner : ((s.row axis).map fun b => b.along.value).dropLast ≠ [] := by
      refine List.ne_nil_of_length_pos ?_
      rw [List.length_dropLast, List.length_map]
      omega
    have distributed := Span.distributed_laid_iff (Strip.evenGap (s.row axis) first last)
      (min?_near_spans exact) inner exact.getLast?_along
    rw [exact.reach_evenGap several, ← List.map_dropLast, List.forall_mem_map] at distributed
    exact distributed

/-- Labels that lie so along the horizontal axis, all of them selected. -/
def labels (strips : List Strip) : Session where
  project := { widgets := strips.map fun b =>
    { newWidget b.id .label ⟨b.near, 0⟩ .free with size := ⟨b.along, 24⟩ } }
  selected := strips.map Strip.id

/-- The second label overlaps the first, but does not hide it. -/
def overlapping : List Strip := [⟨1, 0, 20⟩, ⟨2, 5, 20⟩, ⟨3, 30, 10⟩]

theorem distribute_distributed_iff_overlapping :
    (labels overlapping).selected.Nodup ∧ 3 ≤ (labels overlapping).selectedWidgets.length ∧
      Strip.Exact ((labels overlapping).row .horizontal) ⟨1, 0, 20⟩ ⟨3, 30, 10⟩ ∧
      ∃ after, after.Perm (((labels overlapping).distribute .horizontal).2.spans .horizontal) ∧
        Span.Distributed ((labels overlapping).spans .horizontal) after := by
  have row : (labels overlapping).row .horizontal = overlapping :=
    Binary64.sortBy_of_pairwise (by decide +kernel) (by decide +kernel)
  have once : (labels overlapping).selected.Nodup := by decide
  have three : 3 ≤ (labels overlapping).selectedWidgets.length := by decide
  have exact : Strip.Exact ((labels overlapping).row .horizontal) ⟨1, 0, 20⟩ ⟨3, 30, 10⟩ := by
    rw [row]
    constructor <;> decide +kernel
  obtain ⟨x, after, gap, -, -, perm, -, -, even, -, distributed⟩ :=
    distribute_distributed_iff once three exact
  refine ⟨once, three, exact, after, perm, distributed.2 ?_⟩
  rw [even, row]
  decide +kernel

/-- The second label reaches far beyond the third, which has the last near edge. -/
def nested : List Strip := [⟨1, 0, 10⟩, ⟨2, 1, 999⟩, ⟨3, 2, 10⟩]

/-- The outermost edges need not stay. The gaps that the row makes room for are so small that the
second label comes to lie before the first, and no label reaches as far as it did. -/
theorem not_distributed_nested :
    (labels nested).ids.Nodup ∧ (labels nested).Live ∧
      3 ≤ (labels nested).selectedWidgets.length ∧
      (∀ b ∈ (labels nested).row .horizontal, 0 ≤ b.along.value) ∧
      Strip.Exact ((labels nested).row .horizontal) ⟨1, 0, 10⟩ ⟨3, 2, 10⟩ ∧
      ¬∃ after, after.Perm (((labels nested).distribute .horizontal).2.spans .horizontal) ∧
        Span.Distributed ((labels nested).spans .horizontal) after := by
  have row : (labels nested).row .horizontal = nested :=
    Binary64.sortBy_of_pairwise (by decide +kernel) (by decide +kernel)
  have three : 3 ≤ (labels nested).selectedWidgets.length := by decide
  have exact : Strip.Exact ((labels nested).row .horizontal) ⟨1, 0, 10⟩ ⟨3, 2, 10⟩ := by
    rw [row]
    constructor <;> decide +kernel
  refine ⟨by decide, ⟨by decide, by decide⟩, three, by rw [row]; decide +kernel, exact, ?_⟩
  rintro ⟨after, perm, distributed⟩
  have moved : (⟨-987 / 2, 1011 / 2⟩ : Span) ∈
      ((labels nested).distribute .horizontal).2.spans .horizontal := by
    rw [distribute_row three exact, row, spans_rewrite]
    decide +kernel
  have nearest : ((labels nested).spans .horizontal |>.map Span.near).min? = some 0 := by
    decide +kernel
  have least := (List.min?_eq_some_iff.1 (distributed.near.trans nearest)).2
  have below : (0 : ℚ) ≤ -987 / 2 := least _ (List.mem_map_of_mem (perm.mem_iff.2 moved))
  exact absurd below (by decide +kernel)

end Session

end Formwork
