import Formwork.Proofs.Outline.OpenLevels
import Formwork.Proofs.Outline.StackFold

/-!
# Outlines in memory

An outline can be read into nodes that are changed after they have been made. For a line a node
without children is made and put at the end of the list that is open at the level of the line, be it
that of the roots or that of the children of a node made before; then all deeper lists are closed,
and that of the new node is open. The nodes are the cells of a memory, where one is told from
another by its address.

What stands in the memory is a forest at any time, and the lists that are open are those along its
last branch, so that a line adds a leaf to the branch (`Holds.take`). A line changes one list of a
node that is there already; all other trees stand as they stood (`Tree.standAll_congr`). Addresses
are given away in the order of the lines, which is the order in which the forest lists its nodes:
that is why no node occurs twice (`exists_forest_read`). Without its addresses the forest is the
outline that `Outline.parse` denotes.
-/

set_option autoImplicit false

namespace Formwork

namespace Tree

variable {ν α : Type}

/-! ## Trees with addresses -/

mutual

/-- The nodes of a tree that stands at a level, with their levels, each one before those below it.
-/
def listing (level : Nat) : Tree ν → List (Nat × ν)
  | node a ts => (level, a) :: listingAll (level + 1) ts

def listingAll (level : Nat) : List (Tree ν) → List (Nat × ν)
  | [] => []
  | t :: ts => t.listing level ++ listingAll level ts

end

mutual

private theorem map_snd_listing : ∀ (level : Nat) (t : Tree ν),
    (t.listing level).map Prod.snd = t.nodes
  | level, node a ts => congrArg (a :: ·) (map_snd_listingAll (level + 1) ts)

theorem map_snd_listingAll : ∀ (level : Nat) (ts : List (Tree ν)),
    (listingAll level ts).map Prod.snd = nodesAll ts
  | _, [] => rfl
  | level, t :: ts => by
    rw [listingAll, List.map_append, map_snd_listing level t, map_snd_listingAll level ts, nodesAll]

end

/-- The tree with a label for every node. -/
def labelled (label : ν → String) : Tree ν → Node := fold fun a ns => .node (label a) ns

def labelledAll (label : ν → String) : List (Tree ν) → List Node :=
  foldAll fun a ns => .node (label a) ns

section Labels

variable {label : ν → String}

mutual

private theorem listing_labelled : ∀ (level : Nat) (t : Tree ν),
    (t.labelled label).listing level = (t.listing level).map fun e => ⟨e.1, label e.2⟩
  | level, node a ts => by
    rw [listing, List.map_cons, ← listing_labelledAll (level + 1) ts]
    rfl

theorem listing_labelledAll : ∀ (level : Nat) (ts : List (Tree ν)),
    Node.listingAll level (labelledAll label ts) =
      (listingAll level ts).map fun e => ⟨e.1, label e.2⟩
  | _, [] => rfl
  | level, t :: ts => by
    rw [listingAll, List.map_append, ← listing_labelled level t, ← listing_labelledAll level ts]
    rfl

end

mutual

private theorem fold_labelled (visit : String → List α → α) : ∀ t : Tree ν,
    (t.labelled label).fold visit = t.fold fun a => visit (label a)
  | node a ts => congrArg (visit (label a)) (foldAll_labelledAll visit ts)

/-- A visit that looks at labels alone needs no addresses. -/
theorem foldAll_labelledAll (visit : String → List α → α) : ∀ ts : List (Tree ν),
    Node.foldAll visit (labelledAll label ts) = foldAll (fun a => visit (label a)) ts
  | [] => rfl
  | t :: ts => congrArg₂ List.cons (fold_labelled visit t) (foldAll_labelledAll visit ts)

end

end Labels

/-! ## Where a tree stands -/

section Stand

variable {children children' : ν → List ν}

mutual

private theorem stands_congr : ∀ t : Tree ν, (∀ a ∈ t.nodes, children' a = children a) →
    t.Stands children → t.Stands children'
  | node a ts, same, ⟨own, below⟩ =>
    ⟨(same a List.mem_cons_self).trans own,
      standAll_congr ts (fun b hb => same b (List.mem_cons_of_mem a hb)) below⟩

/-- A forest stands as long as its own nodes keep their children. -/
theorem standAll_congr : ∀ ts : List (Tree ν), (∀ a ∈ nodesAll ts, children' a = children a) →
    StandAll children ts → StandAll children' ts
  | [], _, _ => trivial
  | t :: ts, same, ⟨first, rest⟩ => by
    obtain ⟨here, later⟩ := List.forall_mem_append.1 same
    exact ⟨stands_congr t here first, standAll_congr ts later rest⟩

end

theorem standAll_append {ts us : List (Tree ν)} :
    StandAll children (ts ++ us) ↔ StandAll children ts ∧ StandAll children us := by
  induction ts with
  | nil => exact ⟨fun h => ⟨trivial, h⟩, And.right⟩
  | cons t ts ih => rw [List.cons_append, StandAll, StandAll, ih, and_assoc]

theorem nodesAll_append (ts us : List (Tree ν)) :
    nodesAll (ts ++ us) = nodesAll ts ++ nodesAll us := by
  induction ts with
  | nil => rfl
  | cons t ts ih => rw [List.cons_append, nodesAll, nodesAll, ih, List.append_assoc]

theorem nodesAll_concat (ts : List (Tree ν)) (a : ν) (below : List (Tree ν)) :
    nodesAll (ts ++ [node a below]) = nodesAll ts ++ a :: nodesAll below := by
  rw [nodesAll_append, nodesAll, nodesAll, List.append_nil, nodes]

theorem listingAll_append (level : Nat) (ts us : List (Tree ν)) :
    listingAll level (ts ++ us) = listingAll level ts ++ listingAll level us := by
  induction ts with
  | nil => rfl
  | cons t ts ih => rw [List.cons_append, listingAll, listingAll, ih, List.append_assoc]

end Stand

/-! ## The last branch -/

/-- The last root, its last child, and so on. -/
def lastBranch : List (Tree ν) → List ν
  | [] => []
  | [node a ts] => a :: lastBranch ts
  | _ :: t :: ts => lastBranch (t :: ts)

theorem lastBranch_concat (ts : List (Tree ν)) (a : ν) (below : List (Tree ν)) :
    lastBranch (ts ++ [node a below]) = a :: lastBranch below := by
  induction ts with
  | nil => rw [List.nil_append, lastBranch]
  | cons t ts ih =>
    cases ts with
    | nil => rwa [List.singleton_append, lastBranch]
    | cons u us => rwa [List.cons_append, List.cons_append, lastBranch]

/-- A new leaf below the last branch, at a level that the branch reaches. -/
def grow (new : ν) : Nat → List (Tree ν) → List (Tree ν)
  | 0, ts => ts ++ [node new []]
  | level + 1, ts =>
    match ts.getLast? with
    | none => []
    | some (node a below) => ts.dropLast ++ [node a (grow new level below)]

theorem grow_concat (new : ν) (level : Nat) (ts : List (Tree ν)) (a : ν) (below : List (Tree ν)) :
    grow new (level + 1) (ts ++ [node a below]) = ts ++ [node a (grow new level below)] := by
  rw [grow, List.getLast?_concat, List.dropLast_concat]

/-- A forest with a branch has a last tree. -/
theorem exists_concat {ts : List (Tree ν)} {level : Nat}
    (within : level + 1 ≤ (lastBranch ts).length) :
    ∃ before a below, ts = before ++ [node a below] ∧ level ≤ (lastBranch below).length := by
  rcases List.eq_nil_or_concat ts with rfl | ⟨before, ⟨a, below⟩, rfl⟩
  · rw [lastBranch] at within
    exact absurd within (Nat.not_succ_le_zero level)
  · rw [List.concat_eq_append, lastBranch_concat, List.length_cons] at within
    exact ⟨before, a, below, List.concat_eq_append, Nat.le_of_succ_le_succ within⟩

section Grow

variable {new : ν} {level : Nat} {ts : List (Tree ν)}

theorem map_root_grow (within : level + 1 ≤ (lastBranch ts).length) :
    (grow new (level + 1) ts).map root = ts.map root := by
  obtain ⟨before, a, below, rfl, -⟩ := exists_concat within
  rw [grow_concat, List.map_append, List.map_append]
  rfl

theorem lastBranch_grow (within : level ≤ (lastBranch ts).length) :
    lastBranch (grow new level ts) = (lastBranch ts).take level ++ [new] := by
  induction level generalizing ts with
  | zero => rw [grow, lastBranch_concat, lastBranch, List.take_zero, List.nil_append]
  | succ level ih =>
    obtain ⟨before, a, below, rfl, deeper⟩ := exists_concat within
    rw [grow_concat, lastBranch_concat, lastBranch_concat, ih deeper, List.take_succ_cons,
      List.cons_append]

/-- The new leaf is listed behind all other nodes. -/
theorem listingAll_grow (top : Nat) (within : level ≤ (lastBranch ts).length) :
    listingAll top (grow new level ts) = listingAll top ts ++ [(top + level, new)] := by
  induction level generalizing ts top with
  | zero => rw [grow, listingAll_append]; rfl
  | succ level ih =>
    obtain ⟨before, a, below, rfl, deeper⟩ := exists_concat within
    have last (us : List (Tree ν)) : listingAll top [node a us] =
        (top, a) :: listingAll (top + 1) us := by
      rw [listingAll, listingAll, List.append_nil, listing]
    rw [grow_concat, listingAll_append, listingAll_append, last, last, ih (top + 1) deeper,
      Nat.add_right_comm, List.append_assoc, List.cons_append]
    rfl

theorem lastBranch_subset (ts : List (Tree ν)) : lastBranch ts ⊆ nodesAll ts := by
  fun_induction lastBranch ts with
  | case1 => exact List.nil_subset _
  | case2 a ts ih =>
    rw [nodesAll, nodesAll, List.append_nil, nodes]
    exact List.cons_subset_cons a ih
  | case3 t u us ih => exact List.Subset.trans ih (List.subset_append_right t.nodes _)

variable {children children' : ν → List ν}

/-- Where no node occurs twice, the last tree is apart from the trees before it, and its root from
what is below. -/
private theorem apart_of_nodup {before below : List (Tree ν)} {a : ν}
    (once : (nodesAll (before ++ [.node a below])).Nodup) :
    (nodesAll below).Nodup ∧ a ∉ nodesAll below ∧
      ∀ b ∈ nodesAll before, b ≠ a ∧ b ∉ nodesAll below := by
  rw [nodesAll_concat, List.nodup_append] at once
  obtain ⟨-, last, apart⟩ := once
  obtain ⟨other, onceBelow⟩ := List.nodup_cons.1 last
  refine ⟨onceBelow, other, fun b hb => ⟨apart b hb a List.mem_cons_self, fun mem => ?_⟩⟩
  exact apart b hb b (List.mem_cons_of_mem a mem) rfl

/-- A leaf that becomes the last child of a node of the branch. All other nodes keep their children.
-/
theorem standAll_grow {owner : ν} (stand : StandAll children ts) (once : (nodesAll ts).Nodup)
    (fresh : new ∉ nodesAll ts) (reached : (lastBranch ts)[level]? = some owner)
    (leaf : children' new = []) (added : children' owner = children owner ++ [new])
    (same : ∀ a, a ≠ owner → a ≠ new → children' a = children a) :
    StandAll children' (grow new (level + 1) ts) := by
  induction level generalizing ts with
  | zero =>
    obtain ⟨before, a, below, rfl, -⟩ := exists_concat (List.getElem?_eq_some_iff.1 reached).1
    rw [lastBranch_concat, List.getElem?_cons_zero, Option.some.injEq] at reached
    subst reached
    obtain ⟨left, ⟨own, deeper⟩, -⟩ := standAll_append.1 stand
    obtain ⟨-, other, apart⟩ := apart_of_nodup once
    rw [nodesAll_concat, List.mem_append, List.mem_cons, not_or, not_or] at fresh
    have keep : ∀ b ∈ nodesAll before, children' b = children b := fun b hb =>
      same b (apart b hb).1 (ne_of_mem_of_not_mem hb fresh.1)
    have keepBelow : ∀ b ∈ nodesAll below, children' b = children b := fun b hb =>
      same b (ne_of_mem_of_not_mem hb other) (ne_of_mem_of_not_mem hb fresh.2.2)
    rw [grow_concat, grow]
    refine standAll_append.2 ⟨standAll_congr before keep left, ⟨?_, ?_⟩, trivial⟩
    · rw [added, own, List.map_append]
      rfl
    · exact standAll_append.2 ⟨standAll_congr below keepBelow deeper, ⟨leaf, trivial⟩, trivial⟩
  | succ level ih =>
    obtain ⟨before, a, below, rfl, further⟩ := exists_concat (List.getElem?_eq_some_iff.1 reached).1
    rw [lastBranch_concat, List.getElem?_cons_succ] at reached
    have inside : owner ∈ nodesAll below := lastBranch_subset below (List.mem_of_getElem? reached)
    obtain ⟨left, ⟨own, deeper⟩, -⟩ := standAll_append.1 stand
    obtain ⟨onceBelow, other, apart⟩ := apart_of_nodup once
    rw [nodesAll_concat, List.mem_append, List.mem_cons, not_or, not_or] at fresh
    have keep : ∀ b ∈ nodesAll before, children' b = children b := fun b hb =>
      same b (ne_of_mem_of_not_mem inside (apart b hb).2).symm (ne_of_mem_of_not_mem hb fresh.1)
    rw [grow_concat]
    refine standAll_append.2 ⟨standAll_congr before keep left, ⟨?_, ?_⟩, trivial⟩
    · rw [same a (ne_of_mem_of_not_mem inside other).symm (Ne.symm fresh.2.1), own,
        map_root_grow further]
    · exact ih deeper onceBelow fresh.2.2 reached

end Grow

end Tree

namespace Outline

/-! ## Cells -/

/-- A node in memory. -/
structure Cell where
  label : String
  children : List Nat := []

/-- What has been read of an outline. The address of a cell is its place. Of the lists that are open
the outermost is that of the roots, and the others belong to the nodes with the addresses. -/
structure Memory where
  cells : List Cell := []
  roots : List Nat := []
  opened : List (Option Nat) := [none]

namespace Memory

def children (m : Memory) (a : Nat) : List Nat := (m.cells[a]?).elim [] Cell.children

def label (m : Memory) (a : Nat) : String := (m.cells[a]?).elim "" Cell.label

/-- A node put at the end of a list. -/
def append (m : Memory) (new : Nat) : Option Nat → Memory
  | none => { m with roots := m.roots ++ [new] }
  | some owner => { m with
      cells := m.cells.modify owner fun c => { c with children := c.children ++ [new] } }

/-- A new node. Deeper lists than that at the level are closed, and that of the node is open. -/
def make (m : Memory) (e : Entry) : Memory := { m with
  cells := m.cells ++ [{ label := e.label }]
  opened := m.opened.take (e.level + 1) ++ [some m.cells.length] }

/-- Makes a node for a line and puts it at the end of the list at its level, if one is open there.
-/
def take? (m : Memory) (e : Entry) : Option Memory :=
  (m.opened[e.level]?).map ((m.make e).append m.cells.length)

/-- Takes line after line, up to the first one that is too deep. -/
def readOn (m : Memory) : List Entry → Memory
  | [] => m
  | e :: es =>
    match m.take? e with
    | none => m
    | some next => next.readOn es

end Memory

/-- Reads an outline into memory. -/
def read (lines : List String) : Memory := ({} : Memory).readOn (entries lines)

/-- The memory holds a forest, whose nodes were made for the lines in their order, and the lists
that are open are those along its last branch. -/
structure Memory.Holds (m : Memory) (es : List Entry) (ts : List (Tree Nat)) : Prop where
  roots : m.roots = ts.map Tree.root
  stand : Tree.StandAll m.children ts
  opened : m.opened = none :: (Tree.lastBranch ts).map some
  listed : Tree.listingAll 0 ts = es.zipIdx.map fun e => (e.1.level, e.2)
  labels : m.cells.map Cell.label = es.map Entry.label

namespace Memory

variable {m : Memory} {e : Entry} {es : List Entry} {ts : List (Tree Nat)}

theorem Holds.length_cells (h : m.Holds es ts) : m.cells.length = es.length := by
  have lengths := congrArg List.length h.labels
  rwa [List.length_map, List.length_map] at lengths

/-- Addresses are given away in the order in which the forest lists its nodes. -/
theorem Holds.nodesAll (h : m.Holds es ts) : Tree.nodesAll ts = List.range m.cells.length := by
  rw [← Tree.map_snd_listingAll 0, h.listed, List.map_map, h.length_cells]
  exact List.zipIdx_map_snd 0 es ▸ (List.range_eq_range' (n := es.length)).symm

theorem children_make {a : Nat} (other : a ≠ m.cells.length) :
    (m.make e).children a = m.children a := by
  have same : (m.make e).cells[a]? = m.cells[a]? := by
    rw [make, List.getElem?_append]
    split
    next => rfl
    next behind =>
      rw [List.getElem?_eq_none_iff.2 (Nat.not_lt.1 behind), List.getElem?_eq_none_iff,
        List.length_singleton]
      omega
  rw [children, children, same]

theorem children_make_new : (m.make e).children m.cells.length = [] := by
  rw [children, make, List.getElem?_concat_length]
  rfl

theorem children_append_owner {owner new : Nat} (there : owner < m.cells.length) :
    (m.append new (some owner)).children owner = m.children owner ++ [new] := by
  rw [children, children, append, List.getElem?_modify, List.getElem?_eq_getElem there]
  simp

theorem children_append {owner new a : Nat} (other : a ≠ owner) :
    (m.append new (some owner)).children a = m.children a := by
  rw [children, children, append, List.getElem?_modify]
  simp [Ne.symm other]

theorem map_label_append (list : Option Nat) (new : Nat) :
    (m.append new list).cells.map Cell.label = m.cells.map Cell.label := by
  cases list with
  | none => rfl
  | some owner =>
    refine List.ext_getElem? fun i => ?_
    rw [append, List.getElem?_map, List.getElem?_map, List.getElem?_modify]
    cases m.cells[i]? with
    | none => rfl
    | some c =>
      by_cases own : owner = i
      · simp [own]
      · simp [own]

theorem opened_append (list : Option Nat) (new : Nat) : (m.append new list).opened = m.opened := by
  cases list <;> rfl

/-- The owner of the list is the node of the last branch above the new leaf, if there is one. -/
theorem Holds.stand_append (h : m.Holds es ts) {list : Option Nat}
    (open' : m.opened[e.level]? = some list) :
    ((m.make e).append m.cells.length list).roots =
        (Tree.grow m.cells.length e.level ts).map Tree.root ∧
      Tree.StandAll ((m.make e).append m.cells.length list).children
        (Tree.grow m.cells.length e.level ts) := by
  have old : ∀ a ∈ Tree.nodesAll ts, a < m.cells.length := fun a ha =>
    List.mem_range.1 (h.nodesAll ▸ ha)
  rw [h.opened] at open'
  cases level : e.level with
  | zero =>
    rw [level, List.getElem?_cons_zero, Option.some.injEq] at open'
    subst open'
    have made : Tree.StandAll (m.make e).children ts :=
      Tree.standAll_congr ts (fun a ha => children_make (old a ha).ne) h.stand
    rw [Tree.grow, List.map_append, ← h.roots]
    exact ⟨rfl, Tree.standAll_append.2 ⟨made, ⟨children_make_new, trivial⟩, trivial⟩⟩
  | succ level' =>
    rw [level, List.getElem?_cons_succ, List.getElem?_map, Option.map_eq_some_iff] at open'
    obtain ⟨owner, reached, rfl⟩ := open'
    have there := old owner (Tree.lastBranch_subset ts (List.mem_of_getElem? reached))
    have room : owner < (m.make e).cells.length := by
      rw [make, List.length_append]
      omega
    refine ⟨?_, Tree.standAll_grow h.stand ?_ ?_ reached ?_ ?_ ?_⟩
    · rw [Tree.map_root_grow (List.getElem?_eq_some_iff.1 reached).1, ← h.roots]
      rfl
    · rw [h.nodesAll]
      exact List.nodup_range
    · exact fun new => Nat.lt_irrefl _ (old _ new)
    · rw [children_append there.ne', children_make_new]
    · rw [children_append_owner room, children_make there.ne]
    · exact fun a other old => by rw [children_append other, children_make old]

/-- A line whose level is open makes a leaf of the last branch. -/
theorem Holds.take (h : m.Holds es ts) (within : e.level ≤ (Tree.lastBranch ts).length) :
    ∃ next, m.take? e = some next ∧
      next.Holds (es ++ [e]) (Tree.grow m.cells.length e.level ts) := by
  have bound : e.level < m.opened.length := by
    rw [h.opened, List.length_cons, List.length_map]
    exact Nat.lt_succ_of_le within
  obtain ⟨roots, stand⟩ := h.stand_append (List.getElem?_eq_getElem bound)
  refine ⟨_, congrArg (Option.map _) (List.getElem?_eq_getElem bound), roots, stand, ?_, ?_, ?_⟩
  · rw [opened_append, make, h.opened, List.take_succ_cons, Tree.lastBranch_grow within,
      List.map_append, List.map_take]
    rfl
  · rw [Tree.listingAll_grow 0 within, h.listed, List.zipIdx_append, List.map_append, Nat.zero_add,
      Nat.zero_add, h.length_cells]
    rfl
  · rw [map_label_append, make, List.map_append, List.map_append, h.labels]
    rfl

theorem Holds.take_eq_none (h : m.Holds es ts) (deeper : ¬ e.level ≤ (Tree.lastBranch ts).length) :
    m.take? e = none := by
  rw [take?, h.opened, Option.map_eq_none_iff, List.getElem?_eq_none_iff, List.length_cons,
    List.length_map]
  omega

theorem Holds.readOn (h : m.Holds es ts) (later : List Entry) :
    ∃ us, (m.readOn later).Holds (es ++ nested (Tree.lastBranch ts).length later) us := by
  induction later generalizing m es ts with
  | nil => exact ⟨ts, by rwa [Memory.readOn, nested, List.append_nil]⟩
  | cons e later ih =>
    rw [Memory.readOn, nested]
    by_cases within : e.level ≤ (Tree.lastBranch ts).length
    · obtain ⟨next, taken, holds⟩ := h.take within
      have depth :
          (Tree.lastBranch (Tree.grow m.cells.length e.level ts)).length = e.level + 1 := by
        rw [Tree.lastBranch_grow within, List.length_append, List.length_take_of_le within]
        rfl
      have read := ih holds
      rw [depth, List.append_assoc] at read
      rw [taken, if_pos within]
      exact read
    · rw [h.take_eq_none within, if_neg within, List.append_nil]
      exact ⟨ts, h⟩

theorem Holds.label (h : m.Holds es ts) {a : Nat} (line : (e, a) ∈ es.zipIdx) :
    m.label a = e.label := by
  have found := congrArg (·[a]?) h.labels
  simp only [List.getElem?_map, List.mem_zipIdx_iff_getElem?.1 line, Option.map_some] at found
  obtain ⟨c, there, same⟩ := Option.map_eq_some_iff.1 found
  rw [Memory.label, there]
  exact same

/-- Without its addresses the forest is that of the lines. -/
theorem Holds.labelledAll (h : m.Holds es ts) : Tree.labelledAll m.label ts = forest es := by
  have same : ∀ e ∈ es.zipIdx, (⟨e.1.level, m.label e.2⟩ : Entry) = e.1 := fun e he =>
    congrArg (Entry.mk e.1.level) (h.label he)
  have lines : Node.listingAll 0 (Tree.labelledAll m.label ts) = es := by
    rw [Tree.listing_labelledAll, h.listed, List.map_map]
    exact (List.map_congr_left same).trans (List.zipIdx_map_fst 0 es)
  rw [← forest_listingAll (Tree.labelledAll m.label ts), lines]

end Memory

/-- What is read is a forest that has the addresses from 0 on for its nodes, and it is the outline
that the lines denote. -/
theorem exists_forest_read (lines : List String) :
    ∃ ts, (read lines).roots = ts.map Tree.root ∧ Tree.StandAll (read lines).children ts ∧
      Tree.nodesAll ts = List.range (read lines).cells.length ∧
      Tree.labelledAll (read lines).label ts = parse lines := by
  have branch : Tree.lastBranch ([] : List (Tree Nat)) = [] := by rw [Tree.lastBranch]
  have empty : ({} : Memory).Holds [] [] := ⟨rfl, trivial, by rw [branch]; rfl, rfl, rfl⟩
  obtain ⟨ts, holds⟩ := empty.readOn (entries lines)
  rw [branch] at holds
  exact ⟨ts, holds.roots, holds.stand, holds.nodesAll, holds.labelledAll⟩

open StackFold in
/-- **A fold needs no recursion.** Where the graph below the roots is a forest in which no node
occurs twice, the loop with a stack ends, finds every result that it looks for, and gives for the
roots, in their order, what recursion gives. An outline that is read into memory is such a forest,
so that the results are those of the outline that its lines denote. -/
theorem stackFold_forest :
    (∀ {ν α : Type} [DecidableEq ν] (children : ν → List ν) (ts : List (Tree ν)),
      Tree.StandAll children ts → (Tree.nodesAll ts).Nodup → ∀ visit : ν → List α → α,
        stackFold children visit (ts.map Tree.root) = Part.some (.ok (Tree.foldAll visit ts))) ∧
      ∀ lines : List String, ∃ ts : List (Tree Nat), (read lines).roots = ts.map Tree.root ∧
        Tree.StandAll (read lines).children ts ∧ (Tree.nodesAll ts).Nodup ∧
        ∀ {α : Type} (visit : String → List α → α),
          stackFold (read lines).children (fun a => visit ((read lines).label a))
            (read lines).roots = Part.some (.ok (Node.foldAll visit (parse lines))) := by
  refine ⟨fun _ _ stand once => stackFold_foldAll stand once, fun lines => ?_⟩
  obtain ⟨ts, roots, stand, nodes, denoted⟩ := exists_forest_read lines
  have once : (Tree.nodesAll ts).Nodup := nodes ▸ List.nodup_range
  refine ⟨ts, roots, stand, once, fun visit => ?_⟩
  rw [roots, stackFold_foldAll stand once, ← denoted, Tree.foldAll_labelledAll]

/-- A root above two leaves, with the sum of its tree for every node. -/
theorem stackFold_forest_two_leaves :
    let children : Nat → List Nat := fun a => if a = 0 then [1, 2] else []
    let ts : List (Tree Nat) := [.node 0 [.node 1 [], .node 2 []]]
    Tree.StandAll children ts ∧ (Tree.nodesAll ts).Nodup ∧
      StackFold.stackFold children (fun a sums => sums.foldl (· + ·) a) (ts.map Tree.root) =
        Part.some (.ok [3]) := by
  intro children ts
  have stand : Tree.StandAll children ts :=
    ⟨⟨rfl, ⟨rfl, trivial⟩, ⟨rfl, trivial⟩, trivial⟩, trivial⟩
  have once : (Tree.nodesAll ts).Nodup := by decide
  exact ⟨stand, once, stackFold_forest.1 children ts stand once fun a sums => sums.foldl (· + ·) a⟩

end Outline

end Formwork
