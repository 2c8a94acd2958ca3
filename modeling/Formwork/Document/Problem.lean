import Formwork.Json.Reader
import Formwork.Design.Kind

/-!
# What is wrong with a document

A document that is refused is refused with every problem it has, each at its place. A place is
the path of keys, positions and kind tags that leads to a value.

`Checked` is a value or a non-empty list of problems. Two checked values combine to a checked
pair that has the problems of both, those of the first one first, so a record is checked field
by field in order and no problem hides another.
-/

set_option autoImplicit false

namespace Formwork.Document

/-- What is wrong at one place. -/
inductive Problem where
  | malformed (e : Json.SyntaxError)
  | objectExpected
  | listExpected
  | textExpected
  | areaExpected
  | missing
  | extra
  | tagMissing
  | unknownTag (shown : String)
  | tooManyChannels (count : Nat)
  | belowMinimum (bound : Nat)
  | aboveMaximum (bound : Nat)
  | integerExpected
  | unreadableInteger
  | fractionalInteger
  | oversizedInteger
  | nonFinite
  | numberExpected
  | unreadableNumber
  | flagExpected
  | unreadableFlag
  | duplicateId (id : Int)

/-- A tag as messages list it. -/
def quotedTag (s : String) : String := "'" ++ s ++ "'"

def Problem.message : Problem → String
  | .malformed e => "Invalid JSON: " ++ e.message
  | .objectExpected => "Input should be an object"
  | .listExpected => "Input should be a valid array"
  | .textExpected => "Input should be a valid string"
  | .areaExpected => "Input should be 'Free', 'Top', 'Bottom', 'Left', 'Right' or 'Center'"
  | .missing => "Field required"
  | .extra => "Extra inputs are not permitted"
  | .tagMissing => "Unable to extract tag using discriminator 'kind'"
  | .unknownTag shown =>
    "Input tag '" ++ shown
      ++ "' found using 'kind' does not match any of the expected tags: "
      ++ ", ".intercalate (Kind.all.map fun k => quotedTag k.tag)
  | .tooManyChannels count =>
    "Tuple should have at most 4 items after validation, not " ++ count.repr
  | .belowMinimum bound => "Input should be greater than or equal to " ++ bound.repr
  | .aboveMaximum bound => "Input should be less than or equal to " ++ bound.repr
  | .integerExpected => "Input should be a valid integer"
  | .unreadableInteger => "Input should be a valid integer, unable to parse string as an integer"
  | .fractionalInteger =>
    "Input should be a valid integer, got a number with a fractional part"
  | .oversizedInteger => "Unable to parse input string as an integer, exceeded maximum size"
  | .nonFinite => "Input should be a finite number"
  | .numberExpected => "Input should be a valid number"
  | .unreadableNumber => "Input should be a valid number, unable to parse string as a number"
  | .flagExpected => "Input should be a valid boolean"
  | .unreadableFlag => "Input should be a valid boolean, unable to interpret input"
  | .duplicateId id => "Value error, duplicate widget id " ++ (toString id)

/-- A problem and the path that leads to it. -/
structure Issue where
  path : List String
  problem : Problem

/-- The path as messages write it. -/
def Issue.place (i : Issue) : String := ".".intercalate i.path

def Issue.within (key : String) (i : Issue) : Issue := { i with path := key :: i.path }

/-- Why a document is refused: at least one issue. -/
structure Rejection where
  first : Issue
  others : List Issue

namespace Rejection

def issues (r : Rejection) : List Issue := r.first :: r.others

/-- A single problem at the place where it is found. -/
def of (p : Problem) : Rejection := ⟨⟨[], p⟩, []⟩

/-- The issues of both, in order. -/
def append (r s : Rejection) : Rejection := ⟨r.first, r.others ++ s.issues⟩

/-- The issues seen from one level further out. -/
def within (key : String) (r : Rejection) : Rejection :=
  ⟨r.first.within key, r.others.map (Issue.within key)⟩

def message (r : Rejection) : String := "Invalid project document: " ++ r.first.problem.message

end Rejection

/-- A value, or the issues that stand against it. -/
inductive Checked (α : Type) where
  | ok (value : α)
  | rejected (r : Rejection)

namespace Checked

variable {α β γ : Type}

/-- A value that is refused for one reason. -/
def refuse (p : Problem) : Checked α := .rejected (.of p)

def map (f : α → β) : Checked α → Checked β
  | .ok a => .ok (f a)
  | .rejected r => .rejected r

/-- The check that comes after another one, and only where that succeeds. -/
def andThen (x : Checked α) (f : α → Checked β) : Checked β :=
  match x with
  | .ok a => f a
  | .rejected r => .rejected r

/-- Combines two checks, neither of which depends on the other. -/
def both (f : α → β → γ) : Checked α → Checked β → Checked γ
  | .ok a, .ok b => .ok (f a b)
  | .ok _, .rejected s => .rejected s
  | .rejected r, .ok _ => .rejected r
  | .rejected r, .rejected s => .rejected (r.append s)

/-- The check seen from one level further out. -/
def within (key : String) : Checked α → Checked α
  | .ok a => .ok a
  | .rejected r => .rejected (r.within key)

instance : Functor Checked := ⟨map, fun a => map (fun _ => a)⟩

instance : Pure Checked := ⟨.ok⟩

instance : Seq Checked := ⟨fun f x => both (fun g a => g a) f (x ())⟩

instance : SeqLeft Checked := ⟨fun x y => both (fun a _ => a) x (y ())⟩

/-- Checks every element, each under its position. -/
def listFrom (check : α → Checked β) (position : Nat) : List α → Checked (List β)
  | [] => .ok []
  | a :: as =>
    both List.cons ((check a).within position.repr) (listFrom check (position + 1) as)

end Checked

end Formwork.Document
