import Formwork.Proofs.Outline
import Mathlib.Data.List.Chain

/-!
# The listing of an outline

The listing of a forest has an entry for every node, with the level at which the node stands, and
each node comes before those below it. An outline lists what is read from its lines: the listing of
the trees is the longest part of the entries, from the first one on, that begins at level zero and
goes down by one level at a time (`listing_parse`).

Nothing is lost on the way from entries to trees: a line that is put before trees that stand at
their levels comes first in the listing, and what it adopts stays where it was (`listed_adopt`).
-/

set_option autoImplicit false

namespace Formwork

namespace Node

mutual

/-- The entries of a tree that stands at a level, its own one first. -/
def listing (level : Nat) : Node → List Outline.Entry
  | node label cs => ⟨level, label⟩ :: listingAll (level + 1) cs

/-- The entries of trees that stand at a level, tree by tree. -/
def listingAll (level : Nat) : List Node → List Outline.Entry
  | [] => []
  | n :: ns => n.listing level ++ listingAll level ns

end

theorem listingAll_eq_flatMap (level : Nat) (ns : List Node) :
    listingAll level ns = ns.flatMap (listing level) := by
  induction ns with
  | nil => rfl
  | cons n ns ih => rw [listingAll, ih, List.flatMap_cons]

theorem listingAll_eq_nil_iff {level : Nat} {ns : List Node} :
    listingAll level ns = [] ↔ ns = [] := by
  cases ns with
  | nil => exact ⟨fun _ => rfl, fun _ => rfl⟩
  | cons n ns => cases n; exact ⟨nofun, nofun⟩

end Node

namespace Outline

/-! ## From entries to trees -/

/-- The entries of trees that stand at their own levels. -/
def listed (trees : List (Nat × Node)) : List Entry := trees.flatMap fun t => t.2.listing t.1

theorem listingAll_of_level {level : Nat} {trees : List (Nat × Node)}
    (same : ∀ t ∈ trees, t.1 = level) :
    Node.listingAll level (trees.map fun t => t.2) = listed trees := by
  rw [Node.listingAll_eq_flatMap, List.flatMap_map, listed]
  exact List.flatMap_congr fun t ht => by rw [same t ht]

/-- A line that is put before trees is listed before them. -/
theorem listed_adopt {e : Entry} {trees : List (Nat × Node)}
    (below : Descending (e.level + 1) trees) : listed (adopt e trees) = e :: listed trees := by
  have parts : listed (trees.takeWhile fun t => e.level < t.1) ++
      listed (trees.dropWhile fun t => e.level < t.1) = listed trees := by
    rw [listed, listed, ← List.flatMap_append, List.takeWhile_append_dropWhile, listed]
  rw [← parts, adopt, listed, List.flatMap_cons, Node.listing,
    listingAll_of_level below.level_of_mem_takeWhile]
  rfl

theorem listed_nested (limit : Nat) (es : List Entry) :
    listed ((nested limit es).foldr adopt []) = nested limit es := by
  induction es generalizing limit with
  | nil => rfl
  | cons e es ih =>
    rw [nested]
    split
    next => rw [List.foldr_cons, listed_adopt (descending_nested (e.level + 1) es), ih]
    next => rfl

/-- Well-nested entries are listed by the trees that they denote. -/
theorem listing_forest (es : List Entry) :
    Node.listingAll 0 (forest (nested 0 es)) = nested 0 es := by
  have roots : ∀ t ∈ (nested 0 es).foldr adopt [], t.1 = 0 := fun t ht =>
    Nat.le_zero.1 ((descending_nested 0 es).limited t ht)
  rw [forest, listingAll_of_level roots, listed_nested]

/-! ## The longest part that is well nested -/

/-- Levels that begin with zero and go down by one at a time. -/
structure WellNested (es : List Entry) : Prop where
  first : ∀ e ∈ es.head?, e.level = 0
  steps : es.IsChain fun d e => e.level ≤ d.level + 1

theorem nested_isPrefix (limit : Nat) (es : List Entry) : nested limit es <+: es := by
  induction es generalizing limit with
  | nil => exact List.prefix_refl []
  | cons e es ih =>
    rw [nested]
    split
    next => exact List.cons_prefix_cons.2 ⟨rfl, ih (e.level + 1)⟩
    next => exact List.nil_prefix

theorem level_le_of_mem_head?_nested {limit : Nat} {es : List Entry} :
    ∀ e ∈ (nested limit es).head?, e.level ≤ limit := by
  intro e he
  cases es with
  | nil => exact absurd he (Option.not_mem_none e)
  | cons d es =>
    rw [nested] at he
    split at he
    next within =>
      obtain rfl := Option.some.inj he
      exact within
    next => exact absurd he (Option.not_mem_none e)

theorem isChain_nested (limit : Nat) (es : List Entry) :
    (nested limit es).IsChain fun d e => e.level ≤ d.level + 1 := by
  induction es generalizing limit with
  | nil => exact .nil
  | cons e es ih =>
    rw [nested]
    split
    next => exact List.isChain_cons.2 ⟨level_le_of_mem_head?_nested, ih (e.level + 1)⟩
    next => exact .nil

/-- No longer part is well nested. -/
theorem isPrefix_nested {limit : Nat} {front es : List Entry} (part : front <+: es)
    (first : ∀ e ∈ front.head?, e.level ≤ limit)
    (steps : front.IsChain fun d e => e.level ≤ d.level + 1) : front <+: nested limit es := by
  induction es generalizing limit front with
  | nil => exact part
  | cons e es ih =>
    cases front with
    | nil => exact List.nil_prefix
    | cons d front =>
      obtain ⟨rfl, rest⟩ := List.cons_prefix_cons.1 part
      obtain ⟨next, steps⟩ := List.isChain_cons.1 steps
      rw [nested, if_pos (first d rfl)]
      exact List.cons_prefix_cons.2 ⟨rfl, ih rest next steps⟩

/-- Nothing is read from lines exactly when the first of them that counts does not stand at level
zero, or none counts. -/
theorem parse_eq_nil_iff (lines : List String) :
    parse lines = [] ↔ ∀ e ∈ (entries lines).head?, 0 < e.level := by
  rw [← Node.listingAll_eq_nil_iff, parse, listing_forest]
  cases entries lines with
  | nil => exact ⟨fun _ e he => absurd he (Option.not_mem_none e), fun _ => rfl⟩
  | cons e es =>
    rw [nested]
    split
    next root =>
      exact ⟨fun none => absurd none (List.cons_ne_nil _ _),
        fun deeper => absurd (deeper e rfl) (Nat.not_lt.2 root)⟩
    next deeper =>
      refine ⟨fun _ d hd => ?_, fun _ => rfl⟩
      obtain rfl := Option.some.inj hd
      exact Nat.not_le.1 deeper

/-- **An outline lists the longest part of its lines that is well nested.** Whatever the lines, the
listing of the trees that are read from them is a part of the lines that count, from the first one
on; it begins at level zero and goes down by one level at a time; and every such part that does so
is a part of the listing. -/
theorem listing_parse (lines : List String) :
    Node.listingAll 0 (parse lines) <+: entries lines ∧
      WellNested (Node.listingAll 0 (parse lines)) ∧
      ∀ front, front <+: entries lines → WellNested front →
        front <+: Node.listingAll 0 (parse lines) := by
  rw [parse, listing_forest]
  refine ⟨nested_isPrefix 0 _, ⟨?_, isChain_nested 0 _⟩, ?_⟩
  · intro e he
    exact Nat.le_zero.1 (level_le_of_mem_head?_nested e he)
  · intro front part well
    exact isPrefix_nested part (fun e he => Nat.le_of_eq (well.first e he)) well.steps

/-- A line that goes down by two levels ends an outline. -/
example : Node.listingAll 0 (parse ["a", "  b", "      c", "d"]) = [⟨0, "a"⟩, ⟨1, "b"⟩] := by
  decide

end Outline

end Formwork
