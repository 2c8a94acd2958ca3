import Formwork.Proofs.Source.Brackets

/-!
# Statements and blocks of a text

Program text is read as a list of statements. A statement goes on to the end of its line, and over
the line where a bracket is open (`Text.statementLines`). It has a column, the number of blanks that
it begins with, and it opens a block if it ends in a colon (`Text.Statement`). Lines without code
are no statements.

Statements form blocks (`Text.inBlocks`) when what follows the head of a block is four columns to
the right of it, and every other statement is at a column of a block that is still open.
-/

set_option autoImplicit false

namespace Formwork

namespace Text

open Brackets (after next)

/-- Is the last character that is not a blank a colon? Before the text it is, if `colon` is true. -/
def colonAfter (colon : Bool) (cs : List Char) : Bool :=
  cs.foldl (fun colon c => if c = ' ' then colon else c = ':') colon

/-- The lines of code that hold a statement each, with the line breaks inside of brackets; nothing,
if the brackets do not nest or stay open. -/
def statementLines : List Char → List Char → Option (List (List Char))
  | pending, [] => if pending = [] then some [[]] else none
  | pending, c :: cs =>
    if c = '\n' ∧ pending = [] then (statementLines [] cs).map ([] :: ·)
    else (next pending c).bind fun rest => (statementLines rest cs).map (List.modifyHead (c :: ·))

/-- Where a statement begins, and whether a block follows it. -/
structure Statement where
  column : Nat
  opens : Bool
  deriving DecidableEq, Repr

/-- The statement of a line, unless the line is blank. -/
def statement? (line : List Char) : Option Statement :=
  if line.all (· = ' ') then none
  else some ⟨(line.takeWhile (· = ' ')).length, colonAfter false line⟩

/-- The statements of code. -/
def statements? (code : List Char) : Option (List Statement) :=
  (statementLines [] code).map (List.filterMap statement?)

/-- Do statements form blocks? The columns of the blocks that are open are listed from the innermost
one outwards; `opened` says that the head of a block has been read just now. -/
def inBlocks : List Nat → Bool → List Statement → Bool
  | _, opened, [] => !opened
  | columns, true, s :: ss =>
    s.column = columns.headD 0 + 4 && inBlocks (s.column :: columns) s.opens ss
  | columns, false, s :: ss =>
    columns.contains s.column && inBlocks (columns.dropWhile (· ≠ s.column)) s.opens ss

example : (statements? "if a:\n    b(\nc)\n\n    d\ne\n".toList).map (inBlocks [0] false) =
    some true := by decide

example : (statements? "if a:\n\nb\n".toList).map (inBlocks [0] false) = some false := by decide

/-! ## Colons -/

theorem colonAfter_append (colon : Bool) (cs ds : List Char) :
    colonAfter colon (cs ++ ds) = colonAfter (colonAfter colon cs) ds := List.foldl_append

theorem colonAfter_of_not_mem {cs : List Char} (none : ':' ∉ cs) : colonAfter false cs = false := by
  induction cs with
  | nil => rfl
  | cons c cs ih =>
    obtain ⟨first, rest⟩ := not_or.1 (mt List.mem_cons.2 none)
    have stays : (if c = ' ' then false else decide (c = ':')) = false := by
      rw [decide_eq_false (Ne.symm first), ite_self]
    rw [colonAfter, List.foldl_cons, stays]
    exact ih rest

/-! ## Lines of statements -/

/-- The text does not go beyond the end of a statement. -/
def Joins (p cs q : List Char) : Prop :=
  ∀ ds, statementLines p (cs ++ ds) = (statementLines q ds).map (List.modifyHead (cs ++ ·))

namespace Joins

variable {p q r cs ds : List Char}

theorem append (hc : Joins p cs q) (hd : Joins q ds r) : Joins p (cs ++ ds) r := by
  intro es
  rw [List.append_assoc, hc, hd, Option.map_map]
  refine congrArg (Option.map · _) (funext fun lines => ?_)
  cases lines with
  | nil => rfl
  | cons line lines => exact congrArg (· :: lines) (List.append_assoc cs ds line).symm

/-- Neither does a text on one line. -/
theorem of_after (reached : after p cs = some q) (single : '\n' ∉ cs) : Joins p cs q := by
  intro ds
  induction cs generalizing p with
  | nil =>
    obtain rfl := Option.some.inj reached
    have same : List.modifyHead (fun line : List Char => [] ++ line) = id := by
      funext lines
      cases lines <;> rfl
    rw [same, Option.map_id]
    rfl
  | cons c cs ih =>
    obtain ⟨first, others⟩ := not_or.1 (mt List.mem_cons.2 single)
    obtain ⟨rest, step, later⟩ := Option.bind_eq_some_iff.1 reached
    rw [List.cons_append, statementLines, if_neg fun feed => first feed.1.symm, step,
      Option.bind_some, ih later others, Option.map_map]
    refine congrArg (Option.map · _) (funext fun lines => ?_)
    cases lines <;> rfl

/-- Inside of brackets a line break does not either. -/
theorem feed {d : Char} : Joins (d :: p) ['\n'] (d :: p) := by
  intro ds
  have inside : ¬ ('\n' = '\n' ∧ d :: p = []) := fun h => List.cons_ne_nil d p h.2
  rw [List.singleton_append, statementLines, if_neg inside]
  rfl

/-- A text whose brackets are closed is a statement up to the line break. -/
theorem statements?_eq (h : Joins [] cs []) (ds : List Char) :
    statements? (cs ++ '\n' :: ds) = (statements? ds).map ((statement? cs).toList ++ ·) := by
  rw [statements?, h, statementLines, if_pos ⟨rfl, rfl⟩, statements?, Option.map_map,
    Option.map_map, Option.map_map]
  refine congrArg (Option.map · _) (funext fun lines => ?_)
  simp only [Function.comp, List.modifyHead, List.append_nil, List.filterMap_cons]
  cases statement? cs <;> rfl

end Joins

/-- The columns of the blocks that are open at a depth. -/
def columnsOf : Nat → List Nat
  | 0 => [0]
  | d + 1 => 4 * (d + 1) :: columnsOf d

theorem columnsOf_eq_cons (d : Nat) : ∃ rest, columnsOf d = 4 * d :: rest := by
  cases d with
  | zero => exact ⟨[], rfl⟩
  | succ d => exact ⟨columnsOf d, rfl⟩

/-- A block is found among those that are open, and those inside of it are left. -/
theorem contains_columnsOf {d e : Nat} (outer : d ≤ e) :
    (columnsOf e).contains (4 * d) = true ∧
      (columnsOf e).dropWhile (· ≠ 4 * d) = columnsOf d := by
  induction e with
  | zero =>
    obtain rfl := Nat.le_zero.1 outer
    exact ⟨rfl, rfl⟩
  | succ e ih =>
    rcases Nat.lt_or_eq_of_le outer with inner | rfl
    · obtain ⟨found, left⟩ := ih (Nat.le_of_lt_succ inner)
      have other : 4 * (e + 1) ≠ 4 * d := by omega
      constructor
      · rw [columnsOf, List.contains_cons, found, Bool.or_true]
      · rw [columnsOf, List.dropWhile_cons, if_pos (decide_eq_true other), left]
    · constructor
      · rw [columnsOf, List.contains_cons, beq_self_eq_true, Bool.true_or]
      · rw [columnsOf, List.dropWhile_cons_of_neg (by simp)]

/-- A statement at a column that is open closes the blocks inside. -/
theorem inBlocks_columnsOf {d e : Nat} (outer : d ≤ e) (opens : Bool) (ss : List Statement) :
    inBlocks (columnsOf e) false (⟨4 * d, opens⟩ :: ss) = inBlocks (columnsOf d) opens ss := by
  obtain ⟨found, left⟩ := contains_columnsOf outer
  rw [inBlocks, found, left, Bool.true_and]

/-- The first statement of a block follows its head as it would follow another statement of the
block. -/
theorem inBlocks_head (d : Nat) (opens : Bool) (ss : List Statement) :
    inBlocks (columnsOf d) true (⟨4 * (d + 1), opens⟩ :: ss) =
      inBlocks (columnsOf (d + 1)) false (⟨4 * (d + 1), opens⟩ :: ss) := by
  obtain ⟨rest, columns⟩ := columnsOf_eq_cons d
  have next : (4 * (d + 1) = (columnsOf d).headD 0 + 4) := by
    rw [columns]
    rfl
  rw [inBlocks_columnsOf (Nat.le_refl _), inBlocks, decide_eq_true next, Bool.true_and, columnsOf]

end Text

end Formwork
