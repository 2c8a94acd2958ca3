import Formwork.Text.Blank

/-!
# Outlines

An outline is written as lines, two leading spaces to a level; lines without a label do not
count. Each line may stand at any level that is open, or begin one level below the line before
it. The first line that is deeper than that ends the outline: it and all later lines are dropped.

So an outline is read in two steps. `Outline.nested` keeps the longest part in which every level
is allowed, and `Outline.forest` builds the trees from the last line to the first: a line takes
as children the trees that follow it and lie deeper.
-/

set_option autoImplicit false

namespace Formwork

/-- A labelled tree. -/
inductive Node where
  | node (label : String) (children : List Node)

namespace Node

def label : Node → String
  | node l _ => l

def children : Node → List Node
  | node _ cs => cs

section Fold

variable {α : Type} (visit : String → List α → α)

mutual

/-- Combines the label of every node with the results of its children, from the leaves up. -/
def fold : Node → α
  | node l cs => visit l (foldAll cs)

/-- The results of a forest, tree by tree. -/
def foldAll : List Node → List α
  | [] => []
  | n :: ns => n.fold :: foldAll ns

end

end Fold

end Node

namespace Outline

/-- A line that counts: its level and its label. -/
structure Entry where
  level : Nat
  label : String
  deriving DecidableEq, Repr

/-- The level of a line: half of its leading spaces, rounded down. -/
def indentLevel (line : String) : Nat := (line.toList.takeWhile (· = ' ')).length / 2

/-- The lines that have a label. -/
def entries (lines : List String) : List Entry :=
  (lines.map fun line => ⟨indentLevel line, Text.strip line⟩).filter fun e => e.label ≠ ""

/-- The longest part of the entries in which each level is at most one more than the level
before it; `limit` bounds the first one. -/
def nested (limit : Nat) : List Entry → List Entry
  | [] => []
  | e :: es => if e.level ≤ limit then e :: nested (e.level + 1) es else []

/-- Puts an entry before trees that stand at their levels; it adopts the leading ones that lie
deeper. -/
def adopt (e : Entry) (trees : List (Nat × Node)) : List (Nat × Node) :=
  (e.level, .node e.label ((trees.takeWhile fun t => e.level < t.1).map fun t => t.2))
    :: trees.dropWhile fun t => e.level < t.1

/-- The trees that a well-nested list of entries denotes. -/
def forest (es : List Entry) : List Node := (es.foldr adopt []).map fun t => t.2

/-- Reads an outline. -/
def parse (lines : List String) : List Node := forest (nested 0 (entries lines))

end Outline

end Formwork
