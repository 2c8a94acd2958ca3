import Formwork.Proofs.Binary64.Rounding
import Formwork.Proofs.Document.Valid
import Formwork.Source.NumberFault

/-!
# Designs whose numbers can be written

`Project.checkNumbers` is a walk over the widgets in drawing order, so it passes exactly if each of
them does (`checkNumbers_eq_ok_iff`). It passes for every design that a document can hold
(`checkNumbers_of_valid`): a module of a valid design is always generated.

What it says depends on the ids, the areas and the controls alone, not on where the widgets lie
(`checkNumbers_map`).
-/

set_option autoImplicit false

namespace Formwork

namespace Source

section Walks

variable {ε α : Type}

/-- One check after another passes if both pass. -/
theorem bind_eq_ok_iff {x y : Except ε Unit} :
    (x >>= fun _ => y) = .ok () ↔ x = .ok () ∧ y = .ok () := by
  cases x with
  | error e => exact iff_of_false nofun nofun
  | ok => exact (and_iff_right rfl).symm

theorem forM_eq_ok_iff {f : α → Except ε Unit} {as : List α} :
    as.forM f = .ok () ↔ ∀ a ∈ as, f a = .ok () := by
  induction as with
  | nil => simp [pure, Except.pure]
  | cons a as ih =>
    rw [List.forall_mem_cons, ← ih]
    exact bind_eq_ok_iff

theorem bind_eq_error_iff {x y : Except ε Unit} {e : ε} :
    (x >>= fun _ => y) = .error e ↔ x = .error e ∨ x = .ok () ∧ y = .error e := by
  cases x with
  | error e' => simp [bind, Except.bind]
  | ok => simp [bind, Except.bind]

/-- A walk fails with what some step of it fails with. -/
theorem exists_of_forM_error {f : α → Except ε Unit} {as : List α} {e : ε}
    (failed : as.forM f = .error e) : ∃ a ∈ as, f a = .error e := by
  induction as with
  | nil => cases failed
  | cons a as ih =>
    have failed : (f a >>= fun _ => as.forM f) = .error e := failed
    rcases bind_eq_error_iff.1 failed with first | ⟨-, later⟩
    · exact ⟨a, List.mem_cons_self, first⟩
    · obtain ⟨b, mem, failed⟩ := ih later
      exact ⟨b, List.mem_cons_of_mem a mem, failed⟩

theorem forM_map (f : α → Except ε Unit) (change : α → α) (as : List α) :
    (as.map change).forM f = as.forM (f ∘ change) := by
  induction as with
  | nil => rfl
  | cons a as ih => exact congrArg (f (change a) >>= fun _ => ·) ih

end Walks

/-- A drawing that does not name the id is the same for every id. -/
theorem body_eq_of_not_namesId {c : Control} (unnamed : namesId c = false) (id id' : Int)
    (size pos : Vec) : body id size pos c = body id' size pos c := by
  cases c
  all_goals first
    | rfl
    | cases unnamed

/-! ## Numbers within bounds -/

/-- Short integers are the ones that are written. -/
theorem checkInteger_eq_ok_iff {n : Int} : checkInteger n = .ok () ↔ Json.IsShort n := by
  rw [Json.isShort_iff, checkInteger, isOverlong]
  have limit : maxShownDigits = Json.maxNumberLength := rfl
  rw [limit]
  by_cases long : 10 ^ Json.maxNumberLength ≤ n.natAbs
  · rw [if_pos (decide_eq_true long)]
    exact iff_of_false nofun (Nat.not_lt.2 long)
  · rw [if_neg (by rwa [decide_eq_true_eq])]
    exact iff_of_true rfl (Nat.lt_of_not_le long)

theorem checkInteger_of_isShort {n : Int} (short : Json.IsShort n) : checkInteger n = .ok () :=
  checkInteger_eq_ok_iff.2 short

/-- The fraction of a channel within bounds is at most one. -/
theorem checkChannel_of_le {c : Int} (natural : 0 ≤ c) (le : c ≤ Document.maxChannel) :
    checkChannel c = .ok () := by
  obtain ⟨one, -, steps⟩ := exists_oneSteps
  have few : c.natAbs ≤ 255 := by
    unfold Document.maxChannel at le
    omega
  have most : roundSteps (c.natAbs * 2 ^ one) 255 ≤ 1 * 2 ^ one := by
    refine roundSteps_le Nat.one_le_two_pow ?_ (by decide)
    rw [Nat.one_mul, Nat.mul_comm]
    exact Nat.mul_le_mul_left _ few
  have below : roundSteps (c.natAbs * oneSteps) 255 < overflowSteps := by
    rw [steps]
    refine most.trans_lt ?_
    rw [Nat.one_mul, ← steps]
    exact representable_oneSteps.lt_overflowSteps
  have finite : (channelFraction c).isFinite = true := by
    rw [channelFraction, Binary64.ofRatio, dif_pos below]
    rfl
  rw [checkChannel, if_pos finite]

theorem eq_overlong_of_checkInteger {n : Int} {e : NumberFault} (failed : checkInteger n = .error e) :
    e = .overlong := by
  unfold checkInteger at failed
  split at failed
  · exact (Except.error.inj failed).symm
  · cases failed

theorem checkId_true (id : Int) : checkId true id = checkInteger id := if_pos rfl

theorem checkId_of_isShort {id : Int} (short : Json.IsShort id) (written : Bool) :
    checkId written id = .ok () := by
  cases written with
  | false => rfl
  | true =>
    rw [checkId_true]
    exact checkInteger_of_isShort short

theorem checkField_of_valid {w : Widget} (valid : w.Valid) : checkField w = .ok () := by
  refine bind_eq_ok_iff.2 ⟨checkId_of_isShort valid.id_short _, ?_⟩
  have control := valid.control
  cases own : w.props.control with
  | colorPicker text c =>
    rw [own] at control
    refine forM_eq_ok_iff.2 fun n mem => checkInteger_of_isShort ?_
    obtain ⟨natural, le⟩ := control n mem
    refine Json.isShort_of_natAbs_lt (k := 3) ?_ (by decide)
    unfold Document.maxChannel at le
    omega
  | _ => rfl

theorem checkBlock_of_valid (comments : Bool) {w : Widget} (valid : w.Valid) :
    checkBlock comments w = .ok () := by
  refine bind_eq_ok_iff.2 ⟨checkId_of_isShort valid.id_short _, ?_⟩
  have control := valid.control
  cases own : w.props.control with
  | columns text n =>
    rw [own] at control
    refine checkInteger_of_isShort ?_
    rcases Int.le_total n 1 with small | large
    · rw [Int.max_eq_right small]
      decide
    · rw [Int.max_eq_left large]
      exact control.2
  | placeholder text c =>
    rw [own] at control
    exact forM_eq_ok_iff.2 fun n mem => checkChannel_of_le (control n mem).1 (control n mem).2
  | _ => rfl

theorem eq_overlong_of_checkId {written : Bool} {id : Int} {e : NumberFault}
    (failed : checkId written id = .error e) : e = .overlong := by
  cases written with
  | false => cases failed
  | true =>
    rw [checkId_true] at failed
    exact eq_overlong_of_checkInteger failed

theorem eq_overlong_of_checkField {w : Widget} {e : NumberFault}
    (failed : checkField w = .error e) : e = .overlong := by
  rcases bind_eq_error_iff.1 failed with id | ⟨-, initial⟩
  · exact eq_overlong_of_checkId id
  · unfold checkInitial at initial
    split at initial
    next =>
      obtain ⟨n, -, failed⟩ := exists_of_forM_error initial
      exact eq_overlong_of_checkInteger failed
    next => cases initial

/-- With channels within bounds, only digits can be too many. -/
theorem eq_overlong_of_checkBlock {comments : Bool} {w : Widget} {e : NumberFault}
    (valid : w.props.control.Valid) (failed : checkBlock comments w = .error e) :
    e = .overlong := by
  rcases bind_eq_error_iff.1 failed with id | ⟨-, drawing⟩
  · exact eq_overlong_of_checkId id
  · unfold checkDrawing at drawing
    split at drawing
    next => exact eq_overlong_of_checkInteger drawing
    next text c own =>
      rw [own] at valid
      have passes : c.channels.forM checkChannel = .ok () :=
        forM_eq_ok_iff.2 fun n mem => checkChannel_of_le (valid n mem).1 (valid n mem).2
      cases passes.symm.trans drawing
    next => cases drawing

/-- Of a widget only its id and its control are checked. -/
theorem checkField_congr {v w : Widget} (id : v.id = w.id)
    (control : v.props.control = w.props.control) : checkField v = checkField w := by
  unfold checkField
  rw [id, control]

theorem checkBlock_congr {v w : Widget} (comments : Bool) (id : v.id = w.id)
    (control : v.props.control = w.props.control) : checkBlock comments v = checkBlock comments w := by
  unfold checkBlock
  rw [id, control]

end Source

namespace Project

open Source

variable {p : Project} {f : Format} {comments : Bool}

theorem mem_drawn_iff {w : Widget} : w ∈ p.drawn ↔ w ∈ p.widgets := by
  have everywhere : w.area ∈ Area.drawOrder := by
    cases w.area <;> decide
  simp only [drawn, inArea, List.mem_flatMap, List.mem_filter, beq_iff_eq]
  exact ⟨fun ⟨_, _, mem, _⟩ => mem, fun mem => ⟨w.area, everywhere, mem, rfl⟩⟩

/-- A design passes exactly if each widget of it does. -/
theorem checkNumbers_eq_ok_iff : p.checkNumbers comments = .ok () ↔
    ∀ w ∈ p.widgets, checkField w = .ok () ∧ checkBlock comments w = .ok () := by
  rw [checkNumbers, bind_eq_ok_iff, forM_eq_ok_iff, forM_eq_ok_iff, ← forall₂_and]
  simp only [mem_drawn_iff]

theorem checkNumbers_of_valid (valid : p.Valid) : p.checkNumbers comments = .ok () :=
  checkNumbers_eq_ok_iff.2 fun w mem =>
    ⟨checkField_of_valid (valid.widgets w mem), checkBlock_of_valid comments (valid.widgets w mem)⟩

theorem eq_overlong_of_checkNumbers {e : NumberFault}
    (valid : ∀ w ∈ p.widgets, w.props.control.Valid) (failed : p.checkNumbers comments = .error e) :
    e = .overlong := by
  rcases bind_eq_error_iff.1 failed with field | ⟨-, block⟩
  · obtain ⟨w, -, failed⟩ := exists_of_forM_error field
    exact eq_overlong_of_checkField failed
  · obtain ⟨w, mem, failed⟩ := exists_of_forM_error block
    exact eq_overlong_of_checkBlock (valid w (mem_drawn_iff.1 mem)) failed

/-- With comments, every id is written. -/
theorem exists_error_of_mem {w : Widget} (mem : w ∈ p.widgets) (long : ¬ Json.IsShort w.id) :
    ∃ e, p.checkNumbers true = .error e := by
  cases checked : p.checkNumbers true with
  | error e => exact ⟨e, rfl⟩
  | ok =>
    obtain ⟨-, block⟩ := checkNumbers_eq_ok_iff.1 checked w mem
    obtain ⟨id, -⟩ := bind_eq_ok_iff.1 block
    rw [Bool.true_or, checkId_true, checkInteger_eq_ok_iff] at id
    exact absurd id long

/-- The module of a valid design is always generated. -/
theorem checkedGenerate_of_valid (valid : p.Valid) (f : Format) (comments : Bool) :
    p.checkedGenerate f comments = .ok (p.generate f comments) := by
  rw [checkedGenerate, checkNumbers_of_valid valid]
  rfl

theorem checkedGenerate_eq_ok {text : String} (h : p.checkedGenerate f comments = .ok text) :
    text = p.generate f comments := by
  unfold checkedGenerate at h
  cases checked : p.checkNumbers comments with
  | error e =>
    rw [checked] at h
    cases h
  | ok =>
    rw [checked] at h
    exact (Except.ok.inj h).symm

/-- Widgets may be changed in anything but their ids, areas and controls. -/
theorem checkNumbers_map (p : Project) (comments : Bool) {change : Widget → Widget}
    (id : ∀ w, (change w).id = w.id) (area : ∀ w, (change w).area = w.area)
    (control : ∀ w, (change w).props.control = w.props.control) :
    { p with widgets := p.widgets.map change }.checkNumbers comments =
      p.checkNumbers comments := by
  have drawn : { p with widgets := p.widgets.map change }.drawn = p.drawn.map change := by
    unfold Project.drawn
    rw [List.map_flatMap]
    refine List.flatMap_congr fun a _ => ?_
    unfold inArea
    rw [List.filter_map]
    congr 2
    funext w
    exact congrArg (· == a) (area w)
  have walk {g : Widget → Except NumberFault Unit} (same : ∀ w, g (change w) = g w)
      (ws : List Widget) : (ws.map change).forM g = ws.forM g := by
    rw [forM_map]
    exact congrArg ws.forM (funext same)
  unfold checkNumbers
  rw [drawn, walk fun w => checkField_congr (id w) (control w),
    walk fun w => checkBlock_congr comments (id w) (control w)]

end Project

end Formwork
