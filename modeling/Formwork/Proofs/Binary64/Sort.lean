import Formwork.Binary64.Sort

/-!
# What a sort looks at

A sort by a number compares the keys and looks at nothing else. What leaves the keys alone may
therefore be done before the sort or after it (`sortBy_map`), also where a NaN among the keys makes
the order depend on the comparisons that are chosen. A sort keeps all elements (`perm_sortBy`), and
without a NaN their keys rise (`pairwise_sortBy`).
-/

set_option autoImplicit false

namespace Formwork.Binary64

/-! ## Keys -/

section Map

variable {α β : Type} (key : β → Binary64) (f : α → β)

theorem runLength_map (continues : Binary64 → Binary64 → Bool) (k : Binary64) (as : List α) :
    runLength continues key k (as.map f) = runLength continues (fun a => key (f a)) k as := by
  induction as generalizing k with
  | nil => rfl
  | cons a as ih => rw [List.map_cons, runLength, runLength, ih]

theorem firstRun_map (as : List α) : firstRun key (as.map f) =
    ((firstRun (fun a => key (f a)) as).1.map f, (firstRun (fun a => key (f a)) as).2.map f) := by
  match as with
  | [] => rfl
  | [a] => rfl
  | a :: b :: rest =>
    rw [List.map_cons, List.map_cons, firstRun, firstRun, runLength_map, runLength_map]
    split
    · rw [List.map_reverse, List.map_take, List.map_drop]
      rfl
    · rw [List.map_take, List.map_drop]
      rfl

theorem searchPlace_map (k : Binary64) (sorted : List α) (fuel low high : Nat) :
    searchPlace key k (sorted.map f) fuel low high =
      searchPlace (fun a => key (f a)) k sorted fuel low high := by
  induction fuel generalizing low high with
  | zero => rfl
  | succ fuel ih =>
    rw [searchPlace, searchPlace]
    dsimp only
    rw [List.getElem?_map]
    cases sorted[low + (high - low) / 2]? with
    | none => rfl
    | some a => simp only [Option.map_some, ih]

theorem insertSorted_map (sorted : List α) (a : α) : insertSorted key (sorted.map f) (f a) =
    (insertSorted (fun a => key (f a)) sorted a).map f := by
  rw [insertSorted, insertSorted, searchPlace_map, List.length_map, List.map_append, List.map_cons,
    List.map_take, List.map_drop]

theorem foldl_insertSorted_map (sorted as : List α) :
    (as.map f).foldl (insertSorted key) (sorted.map f) =
      (as.foldl (insertSorted fun a => key (f a)) sorted).map f := by
  induction as generalizing sorted with
  | nil => rfl
  | cons a as ih => rw [List.map_cons, List.foldl_cons, insertSorted_map, ih, List.foldl_cons]

/-- What keeps the keys may be done before a sort or after it. -/
theorem sortBy_map (as : List α) :
    sortBy key (as.map f) = (sortBy (fun a => key (f a)) as).map f := by
  unfold sortBy
  rw [List.all_map]
  by_cases numbers : as.all fun a => !(key (f a)).isNaN
  · have mapped : as.all ((fun b => !(key b).isNaN) ∘ f) := numbers
    rw [if_pos numbers, if_pos mapped]
    exact (List.map_mergeSort (f := f) fun _ _ _ _ => rfl).symm
  · have mapped : ¬as.all ((fun b => !(key b).isNaN) ∘ f) := numbers
    rw [if_neg numbers, if_neg mapped, firstRun_map]
    exact foldl_insertSorted_map key f _ _

end Map

/-! ## Order -/

section Order

variable {α : Type} {key : α → Binary64} {as : List α}

theorem perm_firstRun (key : α → Binary64) (as : List α) :
    ((firstRun key as).1 ++ (firstRun key as).2).Perm as := by
  match as with
  | [] => exact .refl []
  | [a] => exact .refl [a]
  | a :: b :: rest =>
    rw [firstRun]
    split
    · dsimp only
      exact ((List.reverse_perm _).append_right _).trans (.of_eq (List.take_append_drop _ _))
    · exact .of_eq (List.take_append_drop _ _)

theorem perm_insertSorted (key : α → Binary64) (sorted : List α) (a : α) :
    (insertSorted key sorted a).Perm (a :: sorted) := by
  rw [insertSorted]
  refine List.perm_middle.trans (.cons a ?_)
  exact .of_eq (List.take_append_drop _ _)

theorem perm_foldl_insertSorted (key : α → Binary64) (sorted as : List α) :
    (as.foldl (insertSorted key) sorted).Perm (sorted ++ as) := by
  induction as generalizing sorted with
  | nil => exact .of_eq (List.append_nil sorted).symm
  | cons a as ih =>
    rw [List.foldl_cons]
    exact (ih _).trans (((perm_insertSorted key sorted a).append_right as).trans
      List.perm_middle.symm)

/-- A sort keeps everything, even where it cannot bring it in order. -/
theorem perm_sortBy (key : α → Binary64) (as : List α) : (sortBy key as).Perm as := by
  unfold sortBy
  split
  · exact List.mergeSort_perm as _
  · exact (perm_foldl_insertSorted key _ _).trans (perm_firstRun key as)

/-- Numbers that rise already stay as they are. -/
theorem sortBy_of_pairwise (numbers : ∀ a ∈ as, (key a).isNaN = false)
    (sorted : as.Pairwise fun a b => below (key b) (key a) = false) : sortBy key as = as := by
  have all : (as.all fun a => !(key a).isNaN) = true :=
    List.all_eq_true.2 fun a ha => by rw [numbers a ha, Bool.not_false]
  rw [sortBy, if_pos all]
  exact List.mergeSort_of_pairwise (sorted.imp fun h => by rw [h, Bool.not_false])

/-- The place of a number among all numbers; zero for what is none. -/
def rank (x : Binary64) : Int := x.orderKey?.getD 0

theorem orderKey?_zero : orderKey? 0 = some 0 := by decide +kernel

theorem below_iff_rank {x y : Binary64} (hx : x.isNaN = false) (hy : y.isNaN = false) :
    below x y = true ↔ x.rank < y.rank := by
  cases x with
  | nan => cases hx
  | infinite | finite =>
    cases y with
    | nan => cases hy
    | infinite | finite => exact decide_eq_true_iff

/-- Without a NaN among the keys they rise. -/
theorem pairwise_sortBy (numbers : ∀ a ∈ as, (key a).isNaN = false) :
    (sortBy key as).Pairwise fun a b => (key a).rank ≤ (key b).rank := by
  have all : (as.all fun a => !(key a).isNaN) = true :=
    List.all_eq_true.2 fun a ha => by rw [numbers a ha, Bool.not_false]
  have same : ∀ a ∈ as, ∀ b ∈ as,
      (!below (key b) (key a)) = decide ((key a).rank ≤ (key b).rank) := by
    intro a ha b hb
    rw [Bool.eq_iff_iff, Bool.not_eq_true', ← Bool.not_eq_true,
      below_iff_rank (numbers b hb) (numbers a ha), Int.not_lt, decide_eq_true_iff]
  -- The order that the sort asks for is none where there is a NaN; this one always is.
  have sorted := List.map_mergeSort
    (s := fun a b => decide ((key a).rank ≤ (key b).rank)) (f := id) same
  rw [List.map_id, List.map_id] at sorted
  rw [sortBy, if_pos all, sorted]
  refine (List.pairwise_mergeSort ?_ ?_ as).imp decide_eq_true_iff.1
  · intro a b c first second
    exact decide_eq_true (Int.le_trans (of_decide_eq_true first) (of_decide_eq_true second))
  · intro a b
    simp only [Bool.or_eq_true, decide_eq_true_eq]
    exact Int.le_total _ _

end Order

end Formwork.Binary64
