import Formwork.Binary64.Basic

/-!
# Sorting by a number

A list is sorted stably by a key that is a number. Where no key is NaN that says all. A NaN is
neither below nor above anything, so what a sort makes of it depends on the comparisons that it
chooses: then the first run of the list is taken, turned round when it falls, and every further
element is put where a binary search ends. A sort that cuts lists of 64 elements and more into runs
and merges them chooses others for these; what is proved of `sortBy` holds of both.
-/

set_option autoImplicit false

namespace Formwork.Binary64

variable {α : Type}

/-- The length of the run at the head of a list, after an element with the key `k`. -/
def runLength (continues : Binary64 → Binary64 → Bool) (key : α → Binary64) (k : Binary64) :
    List α → Nat
  | [] => 0
  | b :: bs => if continues k (key b) then runLength continues key (key b) bs + 1 else 0

/-- The first run of a list in rising order, and the rest. -/
def firstRun (key : α → Binary64) : List α → List α × List α
  | [] => ([], [])
  | [a] => ([a], [])
  | a :: b :: rest =>
    if below (key b) (key a) then
      let n := runLength (fun k l => below l k) key (key b) rest + 2
      (((a :: b :: rest).take n).reverse, (a :: b :: rest).drop n)
    else
      let n := runLength (fun k l => !below l k) key (key b) rest + 2
      ((a :: b :: rest).take n, (a :: b :: rest).drop n)

/-- The place between `low` and `high` where a binary search for a key ends. -/
def searchPlace (key : α → Binary64) (k : Binary64) (sorted : List α) : Nat → Nat → Nat → Nat
  | 0, low, _ => low
  | fuel + 1, low, high =>
    if high ≤ low then low
    else
      let middle := low + (high - low) / 2
      match sorted[middle]? with
      | none => low
      | some a =>
        if below k (key a) then searchPlace key k sorted fuel low middle
        else searchPlace key k sorted fuel (middle + 1) high

/-- Puts an element into a sorted list. -/
def insertSorted (key : α → Binary64) (sorted : List α) (a : α) : List α :=
  let place := searchPlace key (key a) sorted (sorted.length + 1) 0 sorted.length
  sorted.take place ++ a :: sorted.drop place

/-- Sorts a list by a key. -/
def sortBy (key : α → Binary64) (as : List α) : List α :=
  if as.all fun a => !(key a).isNaN then as.mergeSort fun a b => !below (key b) (key a)
  else
    let (run, rest) := firstRun key as
    rest.foldl (insertSorted key) run

end Formwork.Binary64
