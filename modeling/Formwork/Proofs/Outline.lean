import Formwork.Outline
import Mathlib.Data.List.TakeDrop

/-!
# The height of an outline

An outline is as high as its deepest line lies: the trees that are read from lines have no more
levels than a bound, exactly when every line that counts lies above that level
(`heightAll_forest_le_iff`).

Trees are built from the last line to the first. On the way the trees that stand there begin at
levels that do not increase, and the first of them begins at most one level below the line that
comes next. So the trees that a line adopts all begin right below it.
-/

set_option autoImplicit false

namespace Formwork

namespace Node

/-- The number of levels of a tree. -/
def height (n : Node) : Nat := n.fold fun _ heights => heights.foldr max 0 + 1

/-- The number of levels of the highest tree. -/
def heightAll (ns : List Node) : Nat := (ns.map height).foldr max 0

theorem foldAll_eq_map {α : Type} (visit : String → List α → α) (ns : List Node) :
    foldAll visit ns = ns.map (fold visit) := by
  induction ns with
  | nil => rfl
  | cons n ns ih => exact congrArg (n.fold visit :: ·) ih

theorem height_node (label : String) (cs : List Node) :
    (node label cs).height = heightAll cs + 1 := by
  rw [height, fold, foldAll_eq_map]
  rfl

theorem heightAll_cons (n : Node) (ns : List Node) :
    heightAll (n :: ns) = max n.height (heightAll ns) := rfl

theorem height_pos (n : Node) : 0 < n.height := by
  cases n with
  | node label cs =>
    rw [height_node]
    exact Nat.succ_pos _

theorem heightAll_le_iff {ns : List Node} {h : Nat} :
    heightAll ns ≤ h ↔ ∀ n ∈ ns, n.height ≤ h := by
  induction ns with
  | nil => exact ⟨fun _ => nofun, fun _ => Nat.zero_le h⟩
  | cons n ns ih => rw [heightAll_cons, Nat.max_le, ih, List.forall_mem_cons]

end Node

namespace Outline

/-- Trees that begin at levels that do not increase, the first one at most at a limit. -/
structure Descending (limit : Nat) (trees : List (Nat × Node)) : Prop where
  limited : ∀ t ∈ trees, t.1 ≤ limit
  descending : trees.Pairwise fun t u => u.1 ≤ t.1

/-- Where levels do not increase, none of those behind the deeper ones is deeper. -/
private theorem level_le_of_mem_dropWhile {level : Nat} {trees : List (Nat × Node)}
    (descending : trees.Pairwise fun t u => u.1 ≤ t.1) :
    ∀ t ∈ trees.dropWhile fun t => level < t.1, t.1 ≤ level := by
  induction trees with
  | nil => exact nofun
  | cons t ts ih =>
    obtain ⟨first, rest⟩ := List.pairwise_cons.1 descending
    rw [List.dropWhile_cons]
    split
    next => exact ih rest
    next other =>
      have highest : t.1 ≤ level := by simpa using other
      exact List.forall_mem_cons.2 ⟨highest, fun u hu => Nat.le_trans (first u hu) highest⟩

variable {e : Entry} {trees : List (Nat × Node)}

/-- Those that a line does not adopt stay behind it. -/
theorem Descending.adopt (h : Descending (e.level + 1) trees) :
    Descending e.level (adopt e trees) := by
  have left : ∀ t ∈ trees.dropWhile fun t => e.level < t.1, t.1 ≤ e.level :=
    level_le_of_mem_dropWhile h.descending
  refine ⟨List.forall_mem_cons.2 ⟨Nat.le_refl e.level, left⟩, List.pairwise_cons.2 ⟨left, ?_⟩⟩
  exact h.descending.sublist (List.dropWhile_sublist _)

/-- The trees that a line adopts begin right below it. -/
theorem Descending.level_of_mem_takeWhile (h : Descending (e.level + 1) trees) :
    ∀ t ∈ trees.takeWhile fun t => e.level < t.1, t.1 = e.level + 1 := by
  intro t ht
  have deeper : e.level < t.1 := by
    simpa using List.all_eq_true.1 List.all_takeWhile t ht
  exact Nat.le_antisymm (h.limited t ((List.takeWhile_sublist _).subset ht)) deeper

theorem descending_nested (limit : Nat) (es : List Entry) :
    Descending limit ((nested limit es).foldr adopt []) := by
  induction es generalizing limit with
  | nil => exact ⟨nofun, .nil⟩
  | cons e es ih =>
    rw [nested]
    split
    next within =>
      rw [List.foldr_cons]
      obtain ⟨limited, descending⟩ := (ih (e.level + 1)).adopt
      exact ⟨fun t ht => Nat.le_trans (limited t ht) within, descending⟩
    next => exact ⟨nofun, .nil⟩

/-- The levels that the trees take up. -/
def Within (h : Nat) (trees : List (Nat × Node)) : Prop := ∀ t ∈ trees, t.1 + t.2.height ≤ h

/-- A line makes trees one level higher, which is the level that it takes up itself. -/
theorem within_adopt_iff {h : Nat} (below : Descending (e.level + 1) trees) :
    Within h (adopt e trees) ↔ e.level < h ∧ Within h trees := by
  have split : Within h trees ↔
      Within h (trees.takeWhile fun t => e.level < t.1) ∧
        Within h (trees.dropWhile fun t => e.level < t.1) := by
    rw [Within, Within, Within, ← List.forall_mem_append, List.takeWhile_append_dropWhile]
  have children : e.level + (Node.heightAll
        ((trees.takeWhile fun t => e.level < t.1).map fun t => t.2) + 1) ≤ h ↔
      e.level < h ∧ Within h (trees.takeWhile fun t => e.level < t.1) := by
    have bound : e.level + (Node.heightAll
          ((trees.takeWhile fun t => e.level < t.1).map fun t => t.2) + 1) ≤ h ↔
        e.level < h ∧ Node.heightAll
          ((trees.takeWhile fun t => e.level < t.1).map fun t => t.2) ≤ h - (e.level + 1) := by
      omega
    rw [bound, Node.heightAll_le_iff, List.forall_mem_map]
    refine and_congr_right fun room => forall₂_congr fun t ht => ?_
    rw [below.level_of_mem_takeWhile t ht]
    omega
  rw [split, ← and_assoc, ← children, Within, adopt, List.forall_mem_cons, Node.height_node]
  rfl

theorem within_nested_iff {h : Nat} (limit : Nat) (es : List Entry) :
    Within h ((nested limit es).foldr adopt []) ↔ ∀ e ∈ nested limit es, e.level < h := by
  induction es generalizing limit with
  | nil => exact ⟨fun _ => nofun, fun _ => nofun⟩
  | cons e es ih =>
    rw [nested]
    split
    next =>
      rw [List.foldr_cons, within_adopt_iff (descending_nested (e.level + 1) es),
        List.forall_mem_cons, ih]
    next => exact ⟨fun _ => nofun, fun _ => nofun⟩

/-- The trees of an outline are as high as its lines are deep. -/
theorem heightAll_forest_le_iff {es : List Entry} {h : Nat} :
    Node.heightAll (forest (nested 0 es)) ≤ h ↔ ∀ e ∈ nested 0 es, e.level < h := by
  have roots := (descending_nested 0 es).limited
  rw [← within_nested_iff, Node.heightAll_le_iff, forest, List.forall_mem_map]
  refine forall₂_congr fun t ht => ?_
  rw [Nat.le_zero.1 (roots t ht), Nat.zero_add]

end Outline

end Formwork
