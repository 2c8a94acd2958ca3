import Formwork.Proofs.Source.Expressions
import Mathlib.Data.List.DropRight

/-!
# Calls of the drawing library

A line of code calls a function of the drawing library at most once that takes an identity, and that
call is the first one of the line. `event?` reads it from the text of the line: a literal, or a
literal with gaps, that is the first argument. It reads the head of a loop over options as well,
since the gaps are filled in from the options.

Almost everything in a line is program text, which is the same for every design, and the texts of a
design stand in literals. So what is read from the text of a line is known from its pieces. `Calls`
goes through the pieces up to the first bracket, `Says` adds what stands behind it, and `SaysAll`
goes through statements; what they derive is what is read (`event?_of_says`, `events_of_saysAll`).
-/

set_option autoImplicit false

namespace Formwork.Source

open Text (Begins)
open Text.Literal (quote read? read?_quote)
open Stmt (linesAll commented)

/-! ## Reading -/

/-- What a line says about identities. -/
inductive Event where
  /-- A loop over options. -/
  | loop (items : List String)
  /-- An identity that is passed as it stands. -/
  | identity (value : String)
  /-- An identity with gaps for an option and its position. -/
  | pattern (value : String)
  deriving DecidableEq

/-- What comes behind the last blank. -/
def lastWord (cs : List Char) : List Char := cs.rtakeWhile (· ≠ ' ')

/-- What comes before and behind the first opening bracket. -/
def splitCall? : List Char → Option (List Char × List Char)
  | [] => none
  | c :: cs =>
    if c = '(' then some ([], cs)
    else (splitCall? cs).map fun split => (c :: split.1, split.2)

/-- The literals behind one of a list. -/
def moreTexts? : Nat → List Char → Option (List String)
  | 0, _ => none
  | _ + 1, ']' :: _ => some []
  | turns + 1, ',' :: ' ' :: cs =>
    (read? cs).bind fun first => (moreTexts? turns first.2).map (first.1 :: ·)
  | _ + 1, _ => none

/-- The literals of the list at the head of a text. -/
def texts? : List Char → Option (List String)
  | '[' :: ']' :: _ => some []
  | '[' :: cs =>
    (read? cs).bind fun first => (moreTexts? first.2.length first.2).map (first.1 :: ·)
  | _ => none

/-- What stands before the name of a function of the drawing library. -/
def libraryMark : List Char := ['i', 'm', 'g', 'u', 'i', '.']

/-- The functions of the library whose first argument is a text to be shown: `text`,
`text_disabled`, `text_wrapped` and `set_item_tooltip`. -/
def showing : List (List Char) := [
  ['t', 'e', 'x', 't'],
  ['t', 'e', 'x', 't', '_', 'd', 'i', 's', 'a', 'b', 'l', 'e', 'd'],
  ['t', 'e', 'x', 't', '_', 'w', 'r', 'a', 'p', 'p', 'e', 'd'],
  ['s', 'e', 't', '_', 'i', 't', 'e', 'm', '_', 't', 'o', 'o', 'l', 't', 'i', 'p']]

/-- Is a literal that comes first an identity? It is one for every other function of the library. -/
def takesIdentity (callee : List Char) : Bool :=
  match callee.dropPrefix? libraryMark with
  | some name => !showing.contains name
  | none => false

/-- The function that goes through options. -/
def enumeration : List Char := ['e', 'n', 'u', 'm', 'e', 'r', 'a', 't', 'e']

/-- The identity that comes first among arguments, where it is a literal. -/
def argument? : List Char → Option Event
  | '"' :: cs => (read? ('"' :: cs)).map fun read => .identity read.1
  | 'f' :: '"' :: cs => (read? ('"' :: cs)).map fun read => .pattern read.1
  | _ => none

/-- What a call says about identities. -/
def callEvent? (callee arguments : List Char) : Option Event :=
  if callee = enumeration then (texts? arguments).map .loop
  else if takesIdentity callee then argument? arguments
  else none

/-- What a line says about identities. A comment says nothing. -/
def event? (line : String) : Option Event :=
  match line.toList.dropWhile Char.isWhitespace with
  | '#' :: _ => none
  | cs => (splitCall? cs).bind fun split => callEvent? (lastWord split.1) split.2

/-! ## Texts -/

theorem splitCall?_eq_none {cs : List Char} (h : '(' ∉ cs) : splitCall? cs = none := by
  induction cs with
  | nil => rfl
  | cons c cs ih =>
    obtain ⟨first, others⟩ := not_or.1 (mt List.mem_cons.2 h)
    rw [splitCall?, if_neg (Ne.symm first), ih others]
    rfl

theorem notMem_of_splitCall? {cs : List Char} (h : splitCall? cs = none) : '(' ∉ cs := by
  induction cs with
  | nil => nofun
  | cons c cs ih =>
    rw [splitCall?] at h
    split at h
    next => cases h
    next other =>
      rw [List.mem_cons]
      exact not_or.2 ⟨Ne.symm other, ih (Option.map_eq_none_iff.1 h)⟩

theorem splitCall?_append {pre : List Char} (h : '(' ∉ pre) (cs : List Char) :
    splitCall? (pre ++ cs) = (splitCall? cs).map fun split => (pre ++ split.1, split.2) := by
  induction pre with
  | nil => exact Option.map_id'.symm
  | cons c pre ih =>
    obtain ⟨first, others⟩ := not_or.1 (mt List.mem_cons.2 h)
    rw [List.cons_append, splitCall?, if_neg (Ne.symm first), ih others, Option.map_map]
    rfl

theorem splitCall?_append_of_some {cs before arguments : List Char}
    (h : splitCall? cs = some (before, arguments)) (rest : List Char) :
    splitCall? (cs ++ rest) = some (before, arguments ++ rest) := by
  induction cs generalizing before with
  | nil => cases h
  | cons c cs ih =>
    rw [splitCall?] at h
    rw [List.cons_append, splitCall?]
    split at h
    next opens =>
      cases h
      rw [if_pos opens]
    next other =>
      obtain ⟨⟨_, _⟩, inner, same⟩ := Option.map_eq_some_iff.1 h
      cases same
      rw [if_neg other, ih inner]
      rfl

/-- What comes before a text with a blank does not change its last word. -/
theorem lastWord_append {cs : List Char} (blank : ' ' ∈ cs) (pre : List Char) :
    lastWord (pre ++ cs) = lastWord cs := by
  have ends : (cs.reverse.takeWhile (· ≠ ' ')).length ≠ cs.reverse.length := by
    intro all
    have whole := (List.takeWhile_prefix fun c => decide (c ≠ ' ')).eq_of_length all
    have other := List.takeWhile_eq_self_iff.1 whole ' ' (List.mem_reverse.2 blank)
    exact of_decide_eq_true other rfl
  rw [lastWord, List.rtakeWhile, List.reverse_append, List.takeWhile_append, if_neg ends, lastWord,
    List.rtakeWhile]

theorem moreTexts?_moreText (items : List String) {turns : Nat} (enough : items.length < turns)
    (rest : List Char) : moreTexts? turns (moreText (items.map quote) ++ rest) = some items := by
  induction items generalizing turns with
  | nil =>
    obtain ⟨turns, rfl⟩ : ∃ t, turns = t + 1 := ⟨turns - 1, by omega⟩
    rfl
  | cons s items ih =>
    rw [List.length_cons] at enough
    obtain ⟨turns, rfl⟩ : ∃ t, turns = t + 1 := ⟨turns - 1, by omega⟩
    rw [List.map_cons, moreText, List.cons_append, List.cons_append, List.append_assoc,
      moreTexts?, read?_quote, Option.bind_some, ih (by omega), Option.map_some]

theorem length_lt_moreText (items : List String) : items.length < (moreText items).length := by
  induction items with
  | nil => exact Nat.zero_lt_one
  | cons s items ih =>
    rw [moreText, List.length_cons, List.length_cons, List.length_cons, List.length_append]
    omega

/-- A list of literals is read as their texts. -/
theorem texts?_listText (items : List String) (rest : List Char) :
    texts? ((listText (items.map quote)).toList ++ rest) = some items := by
  cases items with
  | nil => rfl
  | cons s items =>
    have enough : items.length < (moreText (items.map quote) ++ rest).length := by
      have more := length_lt_moreText (items.map quote)
      rw [List.length_map] at more
      rw [List.length_append]
      omega
    have read := read?_quote s (moreText (items.map quote) ++ rest)
    obtain ⟨cs, begins⟩ := exists_quote s
    rw [List.map_cons, toList_listText_cons, List.cons_append, List.append_assoc]
    rw [begins, List.cons_append] at read ⊢
    rw [texts?, read, Option.bind_some, moreTexts?_moreText items enough, Option.map_some]
    · nofun

/-! ## Pieces -/

/-- A function that is called, and its arguments: the program text behind the bracket, and the pieces
behind that. -/
structure Call where
  callee : List Char
  code : List Char
  pieces : Line

/-- The first call of a line, or that there is none. Before it stands program text or the name of a
field, and the name of the function is not cut by the end of a piece. A line begins with program
text that is no comment. -/
inductive Calls : Bool → Line → Option Call → Prop where
  | nil : Calls false [] none
  | code {first : Bool} {cs before arguments : List Char} {ps : Line}
    (split : splitCall? cs = some (before, arguments))
    (whole : (if first then cs.head?.any opensCode else before.contains ' ') = true) :
    Calls first (.code (String.ofList cs) :: ps) (some ⟨lastWord before, arguments, ps⟩)
  | plain {first : Bool} {cs : List Char} {ps : Line} {call : Option Call}
    (none : splitCall? cs = none) (opens : (!first || cs.head?.any opensCode) = true)
    (rest : Calls false ps call) : Calls first (.code (String.ofList cs) :: ps) call
  | slot {t : Slot} {ps : Line} {call : Option Call} (rest : Calls false ps call) :
    Calls false (.slot t :: ps) call

/-- The identity that comes first among arguments, or that there is none. No answer, where the
arguments do not tell. -/
def argumentOf? : List Char → Line → Option (Option Event)
  | [], .text s :: _ => some (some (.identity s))
  | ['f'], .text s :: _ => some (some (.pattern s))
  | [], .number _ (_ + 1) :: _ => some none
  | [], .vector _ :: _ => some none
  | [], _ => none
  | c :: _, _ => if c = '"' ∨ c = 'f' then none else some none

/-- What a call says about identities. -/
def Call.event? (call : Call) : Option (Option Event) :=
  if call.callee = enumeration then
    match call.code, call.pieces with
    | [], .texts items :: _ => some (some (.loop items))
    | _, _ => none
  else if takesIdentity call.callee then argumentOf? call.code call.pieces
  else some none

/-- What a line says about identities. -/
inductive Says : Line → Option Event → Prop where
  | call {l : Line} {call : Call} {e : Option Event} (first : Calls true l (some call))
    (event : call.event? = some e) : Says l e
  | none {l : Line} (first : Calls true l none) : Says l none

namespace Says

variable {cs before arguments : List Char} {ps : Line} {e : Option Event}

/-- A line that calls a function in its first piece. -/
theorem direct (split : splitCall? cs = some (before, arguments))
    (opens : cs.head?.any opensCode = true)
    (event : Call.event? ⟨lastWord before, arguments, ps⟩ = some e) :
    Says (.code (String.ofList cs) :: ps) e :=
  .call (.code split opens) event

/-- A line that gives a field what a function returns. -/
theorem assigning {start : List Char} {t : Slot} (plain : splitCall? start = .none)
    (opens : start.head?.any opensCode = true) (split : splitCall? cs = some (before, arguments))
    (whole : before.contains ' ' = true)
    (event : Call.event? ⟨lastWord before, arguments, ps⟩ = some e) :
    Says (.code (String.ofList start) :: .slot t :: .code (String.ofList cs) :: ps) e :=
  .call (.plain plain opens (.slot (.code split whole))) event

/-- A line that gives a field another value. -/
theorem setting {start : List Char} {t : Slot} (plain : splitCall? start = .none)
    (opens : start.head?.any opensCode = true) (value : splitCall? cs = .none) :
    Says [.code (String.ofList start), .slot t, .code (String.ofList cs)] .none :=
  .none (.plain plain opens (.slot (.plain value rfl .nil)))

/-- A condition on a field. -/
theorem condition {t : Slot} (plain : splitCall? cs = .none)
    (opens : cs.head?.any opensCode = true) : Says [.code (String.ofList cs), .slot t] .none :=
  .none (.plain plain opens (.slot .nil))

end Says

/-! ## One line -/

/-- No name of a field has a bracket. -/
theorem notMem_slotName (t : Slot) : '(' ∉ t.name.toList := by
  cases t with
  | panel p => cases p <;> decide
  | widget stem id =>
    have start : '(' ∉ stem.start.toList := by cases stem <;> decide
    have finish : '(' ∉ stem.finish.toList := by cases stem <;> decide
    have digits : '(' ∉ (intText id).toList := notMem_intText rfl (by decide)
    rw [Slot.name, String.toList_append, String.toList_append, List.mem_append, List.mem_append]
    exact not_or.2 ⟨not_or.2 ⟨start, digits⟩, finish⟩

theorem toList_render_cons (piece : Piece) (ps : Line) (rest : List Char) :
    (Line.render (piece :: ps)).toList ++ rest =
      piece.render.toList ++ ((Line.render ps).toList ++ rest) := by
  rw [render_cons, String.toList_append, List.append_assoc]

/-- The text of the arguments of a call. -/
def Call.arguments (call : Call) : List Char := call.code ++ (Line.render call.pieces).toList

/-- The call stands in a text, or there is none in it. -/
def StandsIn (rest cs : List Char) : Option Call → Prop
  | none => splitCall? cs = none
  | some call => ∃ before, lastWord before = call.callee ∧
      splitCall? cs = some (before, call.arguments ++ rest)

/-- The first call of a line is found in its text. -/
theorem standsIn_render {l : Line} {first : Bool} {call : Option Call} (h : Calls first l call)
    {pre : List Char} (plain : '(' ∉ pre) (start : first = true → pre = []) {rest : List Char}
    (ending : '(' ∉ rest) : StandsIn rest (pre ++ (l.render.toList ++ rest)) call := by
  induction h generalizing pre with
  | nil => exact splitCall?_eq_none (List.not_mem_append plain ending)
  | @code first cs before arguments ps split whole =>
    refine ⟨pre ++ before, ?_, ?_⟩
    · cases first with
      | true => rw [start rfl, List.nil_append]
      | false => exact lastWord_append (List.contains_iff_mem.1 whole) pre
    · rw [toList_render_cons, splitCall?_append plain, Piece.render, String.toList_ofList,
        splitCall?_append_of_some split, Call.arguments, List.append_assoc]
      rfl
  | plain none _ _ ih =>
    rw [toList_render_cons, ← List.append_assoc, Piece.render, String.toList_ofList]
    exact ih (List.not_mem_append plain (notMem_of_splitCall? none)) (absurd · Bool.false_ne_true)
  | slot _ ih =>
    rw [toList_render_cons, ← List.append_assoc]
    exact ih (List.not_mem_append plain (notMem_slotName _)) (absurd · Bool.false_ne_true)

/-- A text that begins with neither a quote nor an f is no identity. -/
theorem argument?_of_ne {c : Char} {cs : List Char} (quote : c ≠ '"') (letter : c ≠ 'f') :
    argument? (c :: cs) = none := by
  unfold argument?
  split
  next same => exact absurd (List.cons.inj same).1 quote
  next same => exact absurd (List.cons.inj same).1 letter
  next => rfl

/-- A number is no identity: where its text begins with an f, it goes on as no literal does. -/
theorem argument?_number {places : Nat} (some_place : 0 < places) (x : Binary64)
    (rest : List Char) : argument? ((numberText places x).toList ++ rest) = none := by
  refine numberText_induction (motive := fun cs => argument? (cs ++ rest) = none) ?call ?decimal
    ?minus x
  case call =>
    intro word
    rw [String.toList_append, String.toList_append]
    rfl
  case decimal =>
    intro u
    obtain ⟨c, cs, text, digit⟩ := exists_fixedSteps some_place u
    rw [text]
    refine argument?_of_ne ?_ ?_ <;> (rintro rfl; cases digit)
  case minus => exact fun _ _ => argument?_of_ne (by decide) (by decide)

theorem argument?_argumentOf {code : List Char} {ps : Line} {e : Option Event}
    (h : argumentOf? code ps = some e) (rest : List Char) :
    argument? (code ++ ((Line.render ps).toList ++ rest)) = e := by
  have literal (t : String) (make : String → Event) (rest : List Char) :
      (read? ((quote t).toList ++ rest)).map (fun read => make read.1) = some (make t) := by
    rw [read?_quote, Option.map_some]
  unfold argumentOf? at h
  split at h
  next s ps =>
    cases h
    obtain ⟨cs, begins⟩ := exists_quote s
    have read := literal s .identity ((Line.render ps).toList ++ rest)
    rw [toList_render_cons, Piece.render]
    rw [begins] at read ⊢
    exact read
  next s ps =>
    cases h
    obtain ⟨cs, begins⟩ := exists_quote s
    have read := literal s .pattern ((Line.render ps).toList ++ rest)
    rw [toList_render_cons, Piece.render]
    rw [begins] at read ⊢
    exact read
  next x places ps =>
    cases h
    rw [toList_render_cons]
    exact argument?_number (Nat.succ_pos places) x _
  next v ps =>
    cases h
    obtain ⟨c, cs, text, begins⟩ : Begins (· == 'i') (vectorText v) :=
      ((((Begins.chars 'i' _ rfl).append _).append _).append _).append _
    rw [toList_render_cons, Piece.render, text, beq_iff_eq.1 begins]
    rfl
  next => cases h
  next c cs _ _ _ =>
    split at h
    next => cases h
    next other =>
      cases h
      obtain ⟨quote, letter⟩ := not_or.1 other
      exact argument?_of_ne quote letter

theorem callEvent?_event {call : Call} {e : Option Event} (h : call.event? = some e)
    (rest : List Char) : callEvent? call.callee (call.arguments ++ rest) = e := by
  rw [Call.arguments, List.append_assoc]
  unfold Call.event? at h
  unfold callEvent?
  split_ifs at h ⊢ with loop identifies
  · split at h
    next items ps code pieces =>
      cases h
      rw [code, pieces, List.nil_append, toList_render_cons, Piece.render, texts?_listText]
      rfl
    next => cases h
  · exact argument?_argumentOf h rest
  · exact Option.some.inj h

/-- Program text at the head of a line is read as such. -/
theorem event?_of_calls {l : Line} {call : Option Call} (h : Calls true l call) (depth : Nat)
    (ending : String) : event? (indentation depth ++ (l.render ++ ending)) =
      (splitCall? (l.render.toList ++ ending.toList)).bind fun split =>
        callEvent? (lastWord split.1) split.2 := by
  obtain ⟨cs, ps, rfl, code⟩ :
      ∃ cs ps, l = .code (String.ofList cs) :: ps ∧ cs.head?.any opensCode = true := by
    cases h with
    | code _ whole => exact ⟨_, _, rfl, whole⟩
    | plain _ opens _ => exact ⟨_, _, rfl, opens⟩
  obtain ⟨c, first, opens⟩ := (Option.any_eq_true _ _).1 code
  obtain ⟨cs, rfl⟩ := List.head?_eq_some_iff.1 first
  have text : (Line.render (.code (String.ofList (c :: cs)) :: ps)).toList ++ ending.toList =
      c :: (cs ++ ((Line.render ps).toList ++ ending.toList)) := by
    rw [toList_render_cons, Piece.render, String.toList_ofList]
    rfl
  rw [opensCode, Bool.and_eq_true, Bool.not_eq_true'] at opens
  rw [event?, dropWhile_indentation, String.toList_append, text,
    List.dropWhile_cons_of_neg (Bool.eq_false_iff.1 opens.1)]
  split
  next same =>
    rw [(List.cons.inj same).1] at opens
    cases opens.2
  next => rfl

/-- What a line says is read from its text, also behind it where it is the head of a block. -/
theorem event?_of_says {l : Line} {e : Option Event} (h : Says l e) (depth : Nat)
    (ending : String) (plain : '(' ∉ ending.toList) :
    event? (indentation depth ++ (l.render ++ ending)) = e := by
  cases h with
  | call first event =>
    obtain ⟨before, word, split⟩ := standsIn_render first List.not_mem_nil (fun _ => rfl) plain
    rw [List.nil_append] at split
    rw [event?_of_calls first, split, Option.bind_some, word]
    exact callEvent?_event event ending.toList
  | none first =>
    have split := standsIn_render first List.not_mem_nil (fun _ => rfl) plain
    rw [List.nil_append, StandsIn] at split
    rw [event?_of_calls first, split, Option.bind_none]

/-- A comment says nothing. -/
theorem event?_comment (depth : Nat) (t : String) :
    event? (indentation depth ++ commentText t) = none := by
  obtain ⟨cs, sign⟩ := exists_commentText t
  rw [event?, dropWhile_indentation, sign, List.dropWhile_cons_of_neg (by decide)]
  rfl

/-! ## Statements -/

/-- What statements say about identities, line by line. -/
inductive SaysAll : List Stmt → List Event → Prop where
  | nil : SaysAll [] []
  | line {l : Line} {e : Option Event} {ss : List Stmt} {es : List Event} (first : Says l e)
    (rest : SaysAll ss es) : SaysAll (.line l :: ss) (e.toList ++ es)
  | block {head : Line} {e : Option Event} {body ss : List Stmt} {es fs : List Event}
    (first : Says head e) (inside : SaysAll body es) (rest : SaysAll ss fs) :
    SaysAll (.block head body :: ss) (e.toList ++ (es ++ fs))
  | comment {t : String} {ss : List Stmt} {es : List Event} (rest : SaysAll ss es) :
    SaysAll (.comment t :: ss) es

namespace SaysAll

variable {l head : Line} {e : Event} {body ss ts : List Stmt} {es fs : List Event}

/-- A line that says nothing. -/
theorem quiet (first : Says l none) (rest : SaysAll ss es) : SaysAll (.line l :: ss) es :=
  .line first rest

/-- A line that says something. -/
theorem naming (first : Says l (some e)) (rest : SaysAll ss es) :
    SaysAll (.line l :: ss) (e :: es) :=
  .line first rest

/-- A block whose head says nothing; what comes behind it says nothing either. -/
theorem quietHead (first : Says head none) (inside : SaysAll body es) (rest : SaysAll ss []) :
    SaysAll (.block head body :: ss) es := by
  have block := SaysAll.block first inside rest
  rwa [List.append_nil] at block

/-- A block whose head says something; what comes behind it says nothing. -/
theorem namingHead (first : Says head (some e)) (inside : SaysAll body es) (rest : SaysAll ss []) :
    SaysAll (.block head body :: ss) (e :: es) := by
  have block := SaysAll.block first inside rest
  rwa [List.append_nil] at block

theorem append (h : SaysAll ss es) (h' : SaysAll ts fs) : SaysAll (ss ++ ts) (es ++ fs) := by
  induction h with
  | nil => exact h'
  | line first _ ih =>
    rw [List.append_assoc]
    exact .line first ih
  | block first inside _ _ ih =>
    rw [List.append_assoc, List.append_assoc]
    exact .block first inside ih
  | comment _ ih => exact .comment ih

/-- Statements behind others that say nothing. -/
theorem after (h : SaysAll ss []) (h' : SaysAll ts fs) : SaysAll (ss ++ ts) fs := h.append h'

theorem whereText (h : SaysAll ss []) (text : String) : SaysAll (whereText text ss) [] := by
  unfold Source.whereText
  split
  next => exact .nil
  next => exact h

theorem whereDisabled {l : Line} (h : Says l none) (props : Props) :
    SaysAll (whereDisabled props (.line l)) [] := by
  unfold Source.whereDisabled
  split
  next => exact .nil
  next => exact .quiet h .nil

theorem withoutComments (h : SaysAll ss es) : SaysAll (Stmt.withoutCommentsAll ss) es := by
  induction h with
  | nil => exact .nil
  | line first _ ih => exact .line first ih
  | block first _ _ inside rest => exact .block first inside rest
  | comment _ ih => exact ih

theorem commented (h : SaysAll ss es) (comments : Bool) :
    SaysAll (Stmt.commented comments ss) es := by
  cases comments with
  | true => exact h
  | false => exact h.withoutComments

end SaysAll

/-- What the lines of a text say about identities. -/
def events (lines : List String) : List Event := lines.filterMap event?

theorem events_cons (line : String) (lines : List String) :
    events (line :: lines) = (event? line).toList ++ events lines := by
  rw [events, List.filterMap_cons]
  cases event? line <;> rfl

/-- What statements say is read from their lines. -/
theorem events_of_saysAll {ss : List Stmt} {es : List Event} (h : SaysAll ss es) (depth : Nat) :
    events (linesAll depth ss) = es := by
  induction h generalizing depth with
  | nil => rfl
  | line first _ ih =>
    have line := event?_of_says first depth "" (by decide)
    rw [String.append_empty] at line
    rw [linesAll, Stmt.lines, List.singleton_append, events_cons, line, ih]
  | block first _ _ inside rest =>
    have head := event?_of_says first depth ":" (by decide)
    rw [← String.append_assoc] at head
    rw [linesAll, Stmt.lines, List.cons_append, events_cons, head, events, List.filterMap_append]
    exact congrArg (_ ++ ·) (congrArg₂ (· ++ ·) (inside (depth + 1)) (rest depth))
  | comment _ ih =>
    rw [linesAll, Stmt.lines, List.singleton_append, events_cons, event?_comment, ih]
    rfl

end Formwork.Source
