import Formwork.Proofs.Outline.Listing

/-!
# Reading an outline from its first line on

The trees of an outline can be built while its lines come in: of the nodes read so far, the last one
at each level is open, and the next line goes into the list of trees at its own level, for which all
deeper levels are closed. A line that is deeper than every list that is open ends the reading.

This gives the trees that `Outline.parse` builds from the last line to the first
(`OpenLevels.forest_readOn`). Every line that is taken comes last in the listing of what has been
read (`OpenLevels.listing_take`), closing levels does not change the listing, and trees are known by
their listing (`forest_listingAll`).
-/

set_option autoImplicit false

namespace Formwork

namespace Outline

/-! ## Trees are known by their listing -/

/-- A line adopts trees that begin right below it, up to one that does not. -/
theorem adopt_append {e : Entry} {ns : List Node} {trees : List (Nat × Node)}
    (behind : ∀ t ∈ trees.head?, t.1 ≤ e.level) :
    adopt e (ns.map (Prod.mk (e.level + 1)) ++ trees) =
      (e.level, .node e.label ns) :: trees := by
  have deeper : ∀ t ∈ ns.map (Prod.mk (e.level + 1)), decide (e.level < t.1) = true := by
    rw [List.forall_mem_map]
    exact fun _ _ => decide_eq_true (Nat.lt_succ_self e.level)
  have stops : (trees.takeWhile fun t => e.level < t.1) = [] ∧
      (trees.dropWhile fun t => e.level < t.1) = trees := by
    cases trees with
    | nil => exact ⟨rfl, rfl⟩
    | cons t ts =>
      have here : decide (e.level < t.1) = false := decide_eq_false (Nat.not_lt.2 (behind t rfl))
      rw [List.takeWhile_cons, List.dropWhile_cons, here]
      exact ⟨rfl, rfl⟩
  rw [adopt, List.takeWhile_append_of_pos deeper, List.dropWhile_append_of_pos deeper, stops.1,
    stops.2, List.append_nil, List.map_map]
  exact congrArg (fun cs => (e.level, Node.node e.label cs) :: trees) (List.map_id ns)

mutual

/-- The entries of a tree denote the tree, in front of trees that are not deeper. -/
theorem foldr_adopt_listing : ∀ (level : Nat) (n : Node) (trees : List (Nat × Node)),
    (∀ t ∈ trees.head?, t.1 ≤ level) →
    (n.listing level).foldr adopt trees = (level, n) :: trees
  | level, .node label cs, trees, behind => by
    have deeper : ∀ t ∈ trees.head?, t.1 ≤ level + 1 := fun t ht => Nat.le_succ_of_le (behind t ht)
    rw [Node.listing, List.foldr_cons, foldr_adopt_listingAll (level + 1) cs trees deeper]
    exact adopt_append behind

theorem foldr_adopt_listingAll : ∀ (level : Nat) (ns : List Node) (trees : List (Nat × Node)),
    (∀ t ∈ trees.head?, t.1 ≤ level) →
    (Node.listingAll level ns).foldr adopt trees = ns.map (Prod.mk level) ++ trees
  | _, [], _, _ => rfl
  | level, n :: ns, trees, behind => by
    have next : ∀ t ∈ (ns.map (Prod.mk level) ++ trees).head?, t.1 ≤ level := by
      cases ns with
      | nil => exact behind
      | cons m ms =>
        intro t ht
        obtain rfl := Option.some.inj ht
        exact Nat.le_refl level
    rw [Node.listingAll, List.foldr_append, foldr_adopt_listingAll level ns trees behind]
    exact foldr_adopt_listing level n _ next

end

/-- The listing of trees denotes these trees. -/
theorem forest_listingAll (ns : List Node) : forest (Node.listingAll 0 ns) = ns := by
  have whole := foldr_adopt_listingAll 0 ns [] nofun
  rw [forest, whole, List.append_nil, List.map_map]
  exact List.map_id ns

/-! ## Levels that are open -/

/-- A node whose children are still being read, behind trees that are finished. -/
structure Opened where
  before : List Node
  label : String

/-- What has been read of an outline: the open nodes, the innermost one first, and the trees that
stand below it, or at the outermost level where no node is open. -/
structure OpenLevels where
  outer : List Opened := []
  trees : List Node := []

namespace OpenLevels

/-- How many nodes are open, which is the deepest level at which a line may stand. -/
def depth (s : OpenLevels) : Nat := s.outer.length

/-- Closes all nodes from a level on. -/
def closeFrom (level : Nat) : List Opened → List Node → OpenLevels
  | [], trees => ⟨[], trees⟩
  | o :: outer, trees =>
    if level ≤ outer.length then closeFrom level outer (o.before ++ [.node o.label trees])
    else ⟨o :: outer, trees⟩

/-- Opens a node at the level of a line. -/
def take (s : OpenLevels) (e : Entry) : OpenLevels :=
  let open' := closeFrom e.level s.outer s.trees
  ⟨⟨open'.trees, e.label⟩ :: open'.outer, []⟩

/-- Takes line after line, up to the first one that is too deep. -/
def readOn (s : OpenLevels) : List Entry → OpenLevels
  | [] => s
  | e :: es => if e.level ≤ s.depth then (s.take e).readOn es else s

/-- The trees that have been read. -/
def forest (s : OpenLevels) : List Node := (closeFrom 0 s.outer s.trees).trees

/-! ## What is listed while reading -/

/-- The entries of open nodes and of the trees in between. -/
def listingFrom : List Opened → List Node → List Entry
  | [], trees => Node.listingAll 0 trees
  | o :: outer, trees => listingFrom outer o.before ++
      ⟨outer.length, o.label⟩ :: Node.listingAll (outer.length + 1) trees

/-- The entries of all that has been read. -/
def listing (s : OpenLevels) : List Entry := listingFrom s.outer s.trees

theorem listingFrom_append (outer : List Opened) (ns ms : List Node) :
    listingFrom outer (ns ++ ms) = listingFrom outer ns ++ Node.listingAll outer.length ms := by
  have both (level : Nat) : Node.listingAll level (ns ++ ms) =
      Node.listingAll level ns ++ Node.listingAll level ms := by
    simp only [Node.listingAll_eq_flatMap, List.flatMap_append]
  cases outer with
  | nil => exact both 0
  | cons o outer =>
    rw [listingFrom, listingFrom, both, List.append_assoc, List.cons_append]
    rfl

variable {s : OpenLevels} {level : Nat} {e : Entry}

theorem listing_closeFrom (level : Nat) (outer : List Opened) (trees : List Node) :
    (closeFrom level outer trees).listing = listingFrom outer trees := by
  induction outer generalizing trees with
  | nil => rfl
  | cons o outer ih =>
    rw [closeFrom]
    split
    next =>
      rw [ih, listingFrom_append, listingFrom, Node.listingAll, Node.listingAll, List.append_nil,
        Node.listing]
    next => rfl

theorem depth_closeFrom {outer : List Opened} (trees : List Node) (within : level ≤ outer.length) :
    (closeFrom level outer trees).depth = level := by
  induction outer generalizing trees with
  | nil => exact (Nat.le_zero.1 within).symm
  | cons o outer ih =>
    rw [closeFrom]
    split
    next still => exact ih _ still
    next deeper => exact Nat.le_antisymm (Nat.not_le.1 deeper) within

/-- A line that is taken comes last. -/
theorem listing_take (within : e.level ≤ s.depth) : (s.take e).listing = s.listing ++ [e] := by
  have level : (closeFrom e.level s.outer s.trees).outer.length = e.level :=
    depth_closeFrom s.trees within
  have before : (closeFrom e.level s.outer s.trees).listing = s.listing :=
    listing_closeFrom e.level s.outer s.trees
  rw [← before, take, listing, listingFrom, level]
  rfl

theorem depth_take (within : e.level ≤ s.depth) : (s.take e).depth = e.level + 1 :=
  congrArg (· + 1) (depth_closeFrom s.trees within)

theorem listing_readOn (s : OpenLevels) (es : List Entry) :
    (s.readOn es).listing = s.listing ++ nested s.depth es := by
  induction es generalizing s with
  | nil => exact (List.append_nil _).symm
  | cons e es ih =>
    rw [readOn, nested]
    split
    next within =>
      rw [ih, listing_take within, depth_take within, List.append_assoc, List.singleton_append]
    next => exact (List.append_nil _).symm

theorem listingAll_forest (s : OpenLevels) : Node.listingAll 0 s.forest = s.listing := by
  have closed : (closeFrom 0 s.outer s.trees).outer = [] :=
    List.eq_nil_of_length_eq_zero (depth_closeFrom s.trees (Nat.zero_le _))
  have same := listing_closeFrom 0 s.outer s.trees
  rwa [listing, closed] at same

/-- **Lines can be taken as they come.** The trees that are built from the first line on are those
that the outline denotes. -/
theorem forest_readOn (lines : List String) :
    (({} : OpenLevels).readOn (entries lines)).forest = parse lines := by
  have listed := listing_readOn {} (entries lines)
  rw [← listingAll_forest] at listed
  have same : Node.listingAll 0 (({} : OpenLevels).readOn (entries lines)).forest =
      nested 0 (entries lines) := listed
  rw [← forest_listingAll (({} : OpenLevels).readOn (entries lines)).forest, same, parse]

end OpenLevels

end Outline

end Formwork
