import Formwork.Outline
import Mathlib.Data.List.Nodup
import Mathlib.Data.PFun
import Mathlib.Logic.Function.Basic

/-!
# Folding a forest with a stack

A forest is folded without recursion as follows. On a stack there wait nodes that are to be expanded
and nodes that are to be finished. To expand a node is to put its children in front of it, and to
have it finished after them. To finish it is to take the results of its children out of a table and
to put its own result there. The table tells nodes apart by what they are, not by what they hold.

The nodes are those of any graph. On some graphs the loop never ends, on others it looks for a
result that has been taken already. `stackFold_foldAll` is the law: where the graph below the roots
is a forest in which no node occurs twice, the loop ends, finds every result that it looks for, and
gives the results of the roots that recursion gives. It rests on what the loop does with a single
tree, whatever waits behind it (`loop_tree`): the table is the same afterwards, but for the result
of the root.
-/

set_option autoImplicit false

namespace Formwork

/-- A tree of nodes that are told apart. -/
inductive Tree (ν : Type) where
  | node (root : ν) (below : List (Tree ν))

namespace Tree

variable {ν α : Type}

def root : Tree ν → ν
  | node a _ => a

mutual

/-- The nodes of a tree, each one before those below it. -/
def nodes : Tree ν → List ν
  | node a ts => a :: nodesAll ts

/-- The nodes of a forest, tree by tree. -/
def nodesAll : List (Tree ν) → List ν
  | [] => []
  | t :: ts => t.nodes ++ nodesAll ts

end

mutual

/-- Combines every node with the results of its children, from the leaves up. -/
def fold (visit : ν → List α → α) : Tree ν → α
  | node a ts => visit a (foldAll visit ts)

/-- The results of a forest, tree by tree. -/
def foldAll (visit : ν → List α → α) : List (Tree ν) → List α
  | [] => []
  | t :: ts => t.fold visit :: foldAll visit ts

end

mutual

/-- The tree is what a graph has below the root. -/
def Stands (children : ν → List ν) : Tree ν → Prop
  | node a ts => children a = ts.map root ∧ StandAll children ts

def StandAll (children : ν → List ν) : List (Tree ν) → Prop
  | [] => True
  | t :: ts => t.Stands children ∧ StandAll children ts

end

theorem root_mem_nodes (t : Tree ν) : t.root ∈ t.nodes := by
  cases t
  exact List.mem_cons_self

theorem map_root_sublist_nodesAll (ts : List (Tree ν)) :
    (ts.map root).Sublist (nodesAll ts) := by
  induction ts with
  | nil => exact List.Sublist.refl []
  | cons t ts ih => exact (List.singleton_sublist.2 t.root_mem_nodes).append ih

end Tree

/-! ## The loop -/

namespace StackFold

/-- What waits on the stack. -/
inductive Task (ν : Type) where
  | expand (a : ν)
  | finish (a : ν)

section Loop

variable {ν α : Type} [DecidableEq ν]

/-- Takes the results of nodes out of the table, one after the other; fails with the first node that
has none. -/
def takeAll (done : ν → Option α) : List ν → Except ν (List α × (ν → Option α))
  | [] => .ok ([], done)
  | a :: as =>
    match done a with
    | none => .error a
    | some x =>
      (takeAll (Function.update done a none) as).map fun taken => (x :: taken.1, taken.2)

variable (children : ν → List ν) (visit : ν → List α → α)

/-- One turn of the loop. It ends with the table that is left when the stack is empty, or with a
node whose result is missing; otherwise it goes on with another stack and another table. -/
def turn : List (Task ν) × (ν → Option α) →
    Except ν (ν → Option α) ⊕ List (Task ν) × (ν → Option α)
  | ([], done) => .inl (.ok done)
  | (.expand a :: stack, done) => .inr ((children a).map .expand ++ .finish a :: stack, done)
  | (.finish a :: stack, done) =>
    match takeAll done (children a) with
    | .error missing => .inl (.error missing)
    | .ok (results, rest) => .inr (stack, Function.update rest a (some (visit a results)))

/-- Turn after turn, as long as the loop goes on. It has no value where that is for ever. -/
def loop (stack : List (Task ν)) (done : ν → Option α) : Part (Except ν (ν → Option α)) :=
  PFun.fix (fun state => Part.some (turn children visit state)) (stack, done)

/-- The results of the roots. -/
def stackFold (roots : List ν) : Part (Except ν (List α)) :=
  (loop children visit (roots.map .expand) fun _ => none).map fun found =>
    found.bind fun done => (takeAll done roots).map Prod.fst

end Loop

/-! ## The table -/

section Table

variable {ν α : Type} [DecidableEq ν] {visit : ν → List α → α} {done : ν → Option α}

/-- The table with the results of the roots of a forest put in. -/
def store (visit : ν → List α → α) (done : ν → Option α) : List (Tree ν) → ν → Option α
  | [] => done
  | t :: ts => store visit (Function.update done t.root (some (t.fold visit))) ts

theorem store_of_notMem {ts : List (Tree ν)} {a : ν} (other : a ∉ ts.map Tree.root) :
    store visit done ts a = done a := by
  induction ts generalizing done with
  | nil => rfl
  | cons t ts ih =>
    obtain ⟨first, rest⟩ := not_or.1 (mt List.mem_cons.2 other)
    rw [store, ih rest, Function.update_of_ne first]

theorem update_store {ts : List (Tree ν)} {a : ν} (other : a ∉ ts.map Tree.root) (x : Option α) :
    Function.update (store visit done ts) a x = store visit (Function.update done a x) ts := by
  induction ts generalizing done with
  | nil => rfl
  | cons t ts ih =>
    obtain ⟨first, rest⟩ := not_or.1 (mt List.mem_cons.2 other)
    rw [store, store, ih rest, Function.update_comm first]

/-- What has been put in can be taken out, and then the table is as before. -/
theorem takeAll_store {ts : List (Tree ν)} (once : (ts.map Tree.root).Nodup)
    (fresh : ∀ a ∈ ts.map Tree.root, done a = none) :
    takeAll (store visit done ts) (ts.map Tree.root) = .ok (Tree.foldAll visit ts, done) := by
  induction ts generalizing done with
  | nil => rfl
  | cons t ts ih =>
    obtain ⟨other, later⟩ := List.nodup_cons.1 once
    obtain ⟨own, rest⟩ := List.forall_mem_cons.1 fresh
    have found : store visit done (t :: ts) t.root = some (t.fold visit) := by
      rw [store, store_of_notMem other, Function.update_self]
    have left : Function.update (store visit done (t :: ts)) t.root none =
        store visit done ts := by
      rw [store, update_store other, Function.update_idem, ← own, Function.update_eq_self]
    rw [List.map_cons, takeAll, found]
    simp only [left, ih later rest]
    rfl

end Table

/-! ## What the loop does -/

section Forest

variable {ν α : Type} [DecidableEq ν] {children : ν → List ν} {visit : ν → List α → α}

theorem loop_expand (a : ν) (stack : List (Task ν)) (done : ν → Option α) :
    loop children visit (.expand a :: stack) done =
      loop children visit ((children a).map .expand ++ .finish a :: stack) done :=
  PFun.fix_fwd_eq (Part.mem_some _)

theorem loop_finish {a : ν} {done rest : ν → Option α} {results : List α}
    (taken : takeAll done (children a) = .ok (results, rest)) (stack : List (Task ν)) :
    loop children visit (.finish a :: stack) done =
      loop children visit stack (Function.update rest a (some (visit a results))) := by
  refine PFun.fix_fwd_eq (Part.mem_some_iff.2 ?_)
  rw [turn, taken]

theorem loop_nil (done : ν → Option α) :
    loop children visit [] done = Part.some (.ok done) :=
  Part.eq_some_iff.2 (PFun.fix_stop (Part.mem_some _))

mutual

/-- A tree on top of the stack is worked off: the results of its nodes are put in and taken out
again, but for that of the root. -/
theorem loop_tree : ∀ (t : Tree ν), t.Stands children → t.nodes.Nodup →
    ∀ (stack : List (Task ν)) {done : ν → Option α}, (∀ a ∈ t.nodes, done a = none) →
      loop children visit (.expand t.root :: stack) done =
        loop children visit stack (Function.update done t.root (some (t.fold visit)))
  | .node a ts, stands, once, stack, done, fresh => by
    obtain ⟨own, below⟩ := stands
    obtain ⟨-, onceBelow⟩ := List.nodup_cons.1 once
    have freshBelow : ∀ b ∈ Tree.nodesAll ts, done b = none := fun b hb =>
      fresh b (List.mem_cons_of_mem a hb)
    have roots := Tree.map_root_sublist_nodesAll ts
    have taken : takeAll (store visit done ts) (children a) =
        .ok (Tree.foldAll visit ts, done) := by
      rw [own]
      exact takeAll_store (onceBelow.sublist roots) fun b hb => freshBelow b (roots.subset hb)
    rw [Tree.root, loop_expand, own, loop_forest ts below onceBelow _ freshBelow,
      loop_finish taken, Tree.fold]

theorem loop_forest : ∀ (ts : List (Tree ν)), Tree.StandAll children ts → (Tree.nodesAll ts).Nodup →
    ∀ (stack : List (Task ν)) {done : ν → Option α}, (∀ a ∈ Tree.nodesAll ts, done a = none) →
      loop children visit ((ts.map Tree.root).map .expand ++ stack) done =
        loop children visit stack (store visit done ts)
  | [], _, _, _, _, _ => rfl
  | t :: ts, stands, once, stack, done, fresh => by
    obtain ⟨onceHere, onceLater, apart⟩ := List.nodup_append.1 once
    obtain ⟨freshHere, freshLater⟩ := List.forall_mem_append.1 fresh
    have freshNext : ∀ a ∈ Tree.nodesAll ts,
        Function.update done t.root (some (t.fold visit)) a = none := by
      intro a ha
      rw [Function.update_of_ne (apart t.root t.root_mem_nodes a ha).symm, freshLater a ha]
    rw [List.map_cons, List.map_cons, List.cons_append, loop_tree t stands.1 onceHere _ freshHere,
      loop_forest ts stands.2 onceLater stack freshNext, store]

end

/-- Where the graph is a forest and no node occurs twice, the loop ends, finds every result that it
looks for, and gives the results that recursion gives. -/
theorem stackFold_foldAll {ts : List (Tree ν)} (stand : Tree.StandAll children ts)
    (once : (Tree.nodesAll ts).Nodup) (visit : ν → List α → α) :
    stackFold children visit (ts.map Tree.root) = Part.some (.ok (Tree.foldAll visit ts)) := by
  have worked : loop children visit ((ts.map Tree.root).map .expand ++ []) (fun _ => none) =
      loop children visit [] (store visit (fun _ => none) ts) :=
    loop_forest ts stand once [] fun _ _ => rfl
  have roots := once.sublist (Tree.map_root_sublist_nodesAll ts)
  have taken : takeAll (store visit (fun _ => none) ts) (ts.map Tree.root) =
      .ok (Tree.foldAll visit ts, fun _ => none) := takeAll_store roots fun _ _ => rfl
  rw [List.append_nil] at worked
  rw [stackFold, worked, loop_nil, Part.map_some, Except.bind, taken]
  rfl

end Forest

end StackFold

end Formwork
