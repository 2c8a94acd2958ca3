import Formwork.Text.Raw

/-!
# Paths

A path begins at the root or at the working directory, and is kept as its segments, without empty
ones and without those that stay where they are. A segment that goes up is kept: whether it cancels
the segment before it depends on what that segment is. `Path.resolve` cancels it without looking; it
gives a place rather than a way to it.
-/

set_option autoImplicit false

namespace Formwork

/-- Where a path begins. -/
inductive Start where
  | home
  | root
  /-- At the root as well, but written with two slashes. -/
  | doubleRoot
  deriving DecidableEq

/-- A way through the directories. -/
structure Path where
  segments : List Text.Raw := []
  start : Start := .home
  deriving DecidableEq

/-- A place, by its shortest way from the root. -/
structure Location where
  segments : List Text.Raw := []
  deriving DecidableEq

/-- The segment that goes up. -/
def upward : Text.Raw := ".."

namespace Location

/-- The place one level up; nothing is above the root. -/
def parent (l : Location) : Location := ⟨l.segments.dropLast⟩

/-- The place that one segment leads to. -/
def enter (l : Location) (segment : Text.Raw) : Location :=
  if segment = upward then l.parent else ⟨l.segments ++ [segment]⟩

/-- The place as a way to it. -/
def path (l : Location) : Path := ⟨l.segments, .root⟩

end Location

/-- The way to the start. -/
def Start.raw : Start → Text.Raw
  | home => ""
  | root => "/"
  | doubleRoot => "//"

namespace Path

/-- Does the segment lead anywhere? -/
def isStep (segment : Text.Raw) : Bool := segment != "" && segment != "."

/-- Where the path begins that a text names. Two slashes stay two, and more are one. -/
def startOf (s : Text.Raw) : Start :=
  match (s.units.takeWhile (· = .char '/')).length with
  | 0 => .home
  | 2 => .doubleRoot
  | _ => .root

/-- The path that a text names. -/
def ofText (s : Text.Raw) : Path := ⟨(s.split '/').filter isStep, startOf s⟩

/-- The path as it is written. -/
def raw (p : Path) : Text.Raw :=
  if p.segments.isEmpty ∧ p.start = .home then "." else p.start.raw ++ .join "/" p.segments

/-- The path as messages write it. -/
def text (p : Path) : String := p.raw.text

/-- The path without its last segment. -/
def parent (p : Path) : Path := { p with segments := p.segments.dropLast }

/-- The path one segment further. -/
def child (p : Path) (segment : Text.Raw) : Path := { p with segments := p.segments ++ [segment] }

/-- The place where the path begins, in a working directory. -/
def origin (home : Location) (p : Path) : Location :=
  match p.start with
  | .home => home
  | _ => {}

/-- The place that a path names when going up cancels any segment. -/
def resolve (home : Location) (p : Path) : Location := p.segments.foldl .enter (p.origin home)

/-- Can there be a file with such a path? -/
def isNameable (p : Path) : Bool := p.segments.all Text.Raw.isNameable

/-- What is wrong with a path that is none. -/
def flaw (p : Path) : Text.Flaw := p.raw.flaw

/-- The first flaw on the way from a place. -/
def flawFrom? (here : Location) : List Text.Raw → Option Text.Flaw
  | [] => none
  | s :: ss =>
    if s.isNameable then flawFrom? (here.enter s) ss
    else
      let before := if here.segments.isEmpty then 1 else here.path.raw.units.length + 1
      some (s.flaw.shift before)

/-- What is wrong with a path, found out where it is followed place by place. -/
def wayFlaw? (home : Location) (p : Path) : Option Text.Flaw :=
  flawFrom? (p.origin home) p.segments

end Path

end Formwork
