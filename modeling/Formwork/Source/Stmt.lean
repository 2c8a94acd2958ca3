import Formwork.Source.Piece

/-!
# Statements of generated code

Generated code is a list of statements, and blocks are nested in the data, not in the text:
`Stmt.lines` writes the body of a block one level deeper than its head, so indentation cannot go
wrong. A call or a tuple that is set out over several lines is one statement.

Comments can be left out as a whole (`Stmt.withoutComments`).
-/

set_option autoImplicit false

namespace Formwork.Source

/-- A statement, or what stands between statements. -/
inductive Stmt where
  | line (l : Line)
  /-- A head, a colon, and statements one level deeper. -/
  | block (head : Line) (body : List Stmt)
  /-- One statement over several lines: inside its brackets each line is one level deeper. -/
  | wrapped (opening : Line) (inner : List Line) (closing : Line)
  | comment (text : String)
  | blank

/-- The indentation of a level. -/
def indentation (depth : Nat) : String := String.ofList (List.replicate (4 * depth) ' ')

/-- A comment line. -/
def commentText (text : String) : String := if text = "" then "#" else "# " ++ text

namespace Stmt

mutual

/-- The lines of a statement at a level. -/
def lines (depth : Nat) : Stmt → List String
  | line l => [indentation depth ++ l.render]
  | block head body => (indentation depth ++ head.render ++ ":") :: linesAll (depth + 1) body
  | wrapped opening inner closing =>
    (indentation depth ++ opening.render)
      :: inner.map (fun l => indentation (depth + 1) ++ l.render)
      ++ [indentation depth ++ closing.render]
  | comment text => [indentation depth ++ commentText text]
  | blank => [""]

/-- The lines of a list of statements. -/
def linesAll (depth : Nat) : List Stmt → List String
  | [] => []
  | s :: ss => s.lines depth ++ linesAll depth ss

end

mutual

/-- A statement without the comments in it; nothing, where it is one. -/
def withoutComments : Stmt → List Stmt
  | comment _ => []
  | block head body => [block head (withoutCommentsAll body)]
  | line l => [line l]
  | wrapped opening inner closing => [wrapped opening inner closing]
  | blank => [blank]

def withoutCommentsAll : List Stmt → List Stmt
  | [] => []
  | s :: ss => s.withoutComments ++ withoutCommentsAll ss

end

/-- Statements with their comments, or without. -/
def commented (comments : Bool) (ss : List Stmt) : List Stmt :=
  if comments then ss else withoutCommentsAll ss

/-- The text of statements: every line ends in a line feed. -/
def text (ss : List Stmt) : String := String.join ((linesAll 0 ss).map fun l => l ++ "\n")

end Stmt

end Formwork.Source
