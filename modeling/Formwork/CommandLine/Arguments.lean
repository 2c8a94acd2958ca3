import Formwork.Decimal.Typed
import Formwork.Text.Raw

/-!
# Argument vectors

A `Grammar` says which options and operands a command takes. An argument vector is first taken
for tokens: options, arguments, and the separator after which everything is an argument. An
option may be shortened as long as one name only begins like it, and may carry its value behind
an equals sign. What looks like a negative number is an argument. Arguments are raw texts; no name of
an option has anything but characters in it, so it is looked for in the text that shows them.

Options and operands may come in any order. Operands are filled from the left, as many at a time
as the arguments before the next option allow; what is left over is reported together at the end.
-/

set_option autoImplicit false

namespace Formwork.CommandLine

open Text (Raw)

/-- What stands behind the name of an option. -/
inductive Takes where
  | nothing
  | text
  | number
  | choice (allowed : List String)

/-- An option, by its names. -/
structure Switch where
  names : List String
  takes : Takes := .nothing
  required : Bool := false
  /-- Nothing behind the option is read. -/
  stops : Bool := false

/-- What a command takes. -/
structure Grammar where
  program : String
  switches : List Switch
  operands : List String := []
  /-- The one operand that takes everything behind it as well. -/
  command : Option String := none

/-- The value of an option. -/
inductive Value where
  | given
  | text (s : Raw)
  | number (x : Binary64)

/-- What is wrong with an argument vector. -/
inductive Misuse where
  | ambiguous (argument : Raw) (candidates : List String)
  | valueMissing (switch : String)
  | valueIgnored (switch : String) (value : Raw)
  | notANumber (switch : String) (value : Raw)
  | notAChoice (name : String) (value : Raw) (allowed : List String)
  | missing (names : List String)
  | unrecognized (arguments : List Raw)

/-- The choices as messages list them. -/
def choicesText (allowed : List String) : String :=
  ", ".intercalate (allowed.map Text.Quoted.text)

def Misuse.message : Misuse → String
  | ambiguous argument candidates =>
    "ambiguous option: " ++ argument.text ++ " could match " ++ ", ".intercalate candidates
  | valueMissing switch => "argument " ++ switch ++ ": expected one argument"
  | valueIgnored switch value =>
    "argument " ++ switch ++ ": ignored explicit argument " ++ value.quoted
  | notANumber switch value =>
    "argument " ++ switch ++ ": invalid float value: " ++ value.quoted
  | notAChoice name value allowed =>
    "argument " ++ name ++ ": invalid choice: " ++ value.quoted
      ++ " (choose from " ++ choicesText allowed ++ ")"
  | missing names => "the following arguments are required: " ++ ", ".intercalate names
  | unrecognized arguments =>
    "unrecognized arguments: " ++ " ".intercalate (arguments.map Raw.text)

/-- A misuse, and the program that reports it. -/
structure UsageError where
  program : String
  misuse : Misuse

def UsageError.message (e : UsageError) : String :=
  e.program ++ ": error: " ++ e.misuse.message

namespace Switch

/-- The name that messages use. -/
def title (s : Switch) : String := "/".intercalate s.names

/-- The name under which its value is kept: the last one. -/
def key (s : Switch) : String := s.names.getLastD ""

end Switch

/-! ## Tokens -/

/-- An option as it was found: the switch, and the value behind an equals sign. -/
structure Found where
  switch : Switch
  value : Option Raw

/-- One argument, and what it is taken for. -/
inductive Token where
  | argument (s : Raw)
  | separator
  | known (s : Raw) (found : Found)
  | unknown (s : Raw)

/-- The argument as it was given. -/
def Token.raw : Token → Raw
  | argument s => s
  | separator => "--"
  | known s _ => s
  | unknown s => s

/-- Is the token an option? -/
def Token.isOption : Token → Bool
  | known _ _ => true
  | unknown _ => true
  | _ => false

/-- Decimal digits of any script, and nothing else. -/
def allDigits (cs : List Char) : Bool := cs.all fun c => (Text.digitValue? c).isSome

/-- Does the text look like a negative number without an exponent? A line end behind it does not
count. -/
def looksNegative (s : String) : Bool :=
  match s.toList with
  | '-' :: cs =>
    let body := if cs.getLast? = some '\n' then cs.dropLast else cs
    let behind := (body.dropWhile (· ≠ '.')).drop 1
    (body ≠ [] && allDigits body)
      || (allDigits (body.takeWhile (· ≠ '.')) && behind ≠ [] && allDigits behind)
  | _ => false

/-- The text before the first equals sign, and the text behind it. -/
def splitAtEquals (s : Raw) : String × Option Raw :=
  match s.units.dropWhile (· ≠ .char '=') with
  | [] => (s.text, none)
  | _ :: rest => ((Raw.mk (s.units.takeWhile (· ≠ .char '='))).text, some ⟨rest⟩)

/-- Does a text begin with another one? -/
def startsWith (s start : String) : Bool := start.toList.isPrefixOf s.toList

namespace Grammar

/-- Every name of an option with its switch. -/
def names (g : Grammar) : List (String × Switch) :=
  g.switches.flatMap fun s => s.names.map fun n => (n, s)

/-- The switch with exactly that name. -/
def switch? (g : Grammar) (name : String) : Option Switch :=
  (g.names.find? fun n => n.1 == name).map Prod.snd

/-- The options that a shortened name may stand for. Letters behind an option of one letter are
further options; a dash among them is a value that it does not take. -/
def candidates (g : Grammar) (s : Raw) : List (String × Found) :=
  if startsWith s.text "--" then
    let (name, value) := splitAtEquals s
    (g.names.filter fun n => startsWith n.1 name).map fun n => (n.1, ⟨n.2, value⟩)
  else
    let letter : Raw := ⟨s.units.take 2⟩
    g.names.filterMap fun n =>
      if n.1 == letter.text then
        let behind : Raw := ⟨s.units.drop 2⟩
        some (n.1, ⟨n.2, if startsWith behind.text "-" then some behind else none⟩)
      else if startsWith n.1 s.text then some (n.1, ⟨n.2, none⟩)
      else none

/-- The option that the text before an equals sign names. -/
def withValue? (g : Grammar) (s : Raw) : Option Found :=
  match splitAtEquals s with
  | (name, some value) => (g.switch? name).map fun switch => ⟨switch, some value⟩
  | (_, none) => none

/-- What an argument before the separator is taken for. -/
def token (g : Grammar) (s : Raw) : Except Misuse Token :=
  if !startsWith s.text "-" then .ok (.argument s)
  else match g.switch? s.text with
  | some switch => .ok (.known s ⟨switch, none⟩)
  | none =>
    if s = "-" then .ok (.argument s)
    else match g.withValue? s with
    | some found => .ok (.known s found)
    | none =>
      match g.candidates s with
      | [(_, found)] => .ok (.known s found)
      | [] =>
        if looksNegative s.text || s.units.contains (.char ' ') then .ok (.argument s)
        else .ok (.unknown s)
      | many => .error (.ambiguous s (many.map Prod.fst))

/-- The tokens of an argument vector. -/
def tokens (g : Grammar) : List Raw → Except Misuse (List Token)
  | [] => .ok []
  | s :: ss =>
    if s = "--" then .ok (.separator :: ss.map .argument)
    else do
      let t ← g.token s
      let ts ← g.tokens ss
      return t :: ts

end Grammar

/-! ## Reading tokens -/

/-- What has been read of an argument vector. -/
structure Parsed where
  values : List (String × Value) := []
  operands : List (String × Raw) := []
  command : Option (List Raw) := none
  extras : List Raw := []
  /-- The option at which reading stopped. -/
  stoppedAt : Option String := none

/-- The value that a text gives an option. -/
def valueOf (s : Switch) (given : Raw) : Except Misuse Value :=
  match s.takes with
  | .number =>
    match Numeral.typed? given.text with
    | some x => .ok (.number x)
    | none => .error (.notANumber s.title given)
  | .choice allowed =>
    if allowed.contains given.text then .ok (.text given)
    else .error (.notAChoice s.title given allowed)
  | _ => .ok (.text given)

/-- Reads an option; `rest` are the tokens behind it. -/
def takeOption (found : Found) (rest : List Token) : Except Misuse (Value × List Token) :=
  match found.switch.takes, found.value with
  | .nothing, none => .ok (.given, rest)
  | .nothing, some text => .error (.valueIgnored found.switch.title text)
  | _, some text => (valueOf found.switch text).map fun v => (v, rest)
  | _, none =>
    match rest with
    | .argument text :: after => (valueOf found.switch text).map fun v => (v, after)
    | _ => .error (.valueMissing found.switch.title)

def isSeparator : Token → Bool
  | .separator => true
  | _ => false

/-- Reads one operand, with the separators around it. -/
def takeOperand? (ts : List Token) : Option (Raw × List Token) :=
  match ts.dropWhile isSeparator with
  | .argument s :: rest =>
    let between := (ts.takeWhile isSeparator ++ rest.takeWhile isSeparator).isEmpty
    -- The first separator of a group is taken out of it, even if it is the operand itself.
    some (if s = ("--" : Raw) && between then "[]" else s, rest.dropWhile isSeparator)
  | _ => none

/-- Reads operands as far as there are arguments; answers the names that are left. -/
def takeOperands (p : Parsed) : List String → List Token → Parsed × List String × List Token
  | [], ts => (p, [], ts)
  | n :: ns, ts =>
    match takeOperand? ts with
    | some (s, rest) => takeOperands { p with operands := p.operands ++ [(n, s)] } ns rest
    | none => (p, n :: ns, ts)

/-- What remains to be read of a grammar. -/
structure Due where
  operands : List String
  command : Option String

/-- Reads what a grammar still expects in front of the next option. -/
def takeDue (p : Parsed) (due : Due) (ts : List Token) : Parsed × Due × List Token :=
  let (p, operands, rest) := takeOperands p due.operands ts
  match due.command, operands with
  | some _, [] =>
    match rest.dropWhile isSeparator with
    | .argument _ :: _ =>
      ({ p with command := some (rest.map Token.raw) }, ⟨[], none⟩, [])
    | _ => (p, ⟨operands, due.command⟩, rest)
  | _, _ => (p, ⟨operands, due.command⟩, rest)

/-- Reads tokens. The fuel is a bound on their number. -/
def readTokens : Nat → Parsed → Due → List Token → Except Misuse (Parsed × Due)
  | 0, p, due, _ => .ok (p, due)
  | fuel + 1, p, due, ts =>
    match ts with
    | .known _ found :: rest => do
      let (v, after) ← takeOption found rest
      let p := { p with values := p.values ++ [(found.switch.key, v)] }
      if found.switch.stops then return ({ p with stoppedAt := some found.switch.key }, due)
      else readTokens fuel p due after
    | .unknown s :: rest => readTokens fuel { p with extras := p.extras ++ [s] } due rest
    | ts =>
      let (p, due, rest) := takeDue p due ts
      if rest.any Token.isOption then
        if rest.length < ts.length then readTokens fuel p due rest
        else
          let skipped := (rest.takeWhile fun t => !t.isOption).map Token.raw
          readTokens fuel { p with extras := p.extras ++ skipped } due
            (rest.dropWhile fun t => !t.isOption)
      else .ok ({ p with extras := p.extras ++ rest.map Token.raw }, due)

namespace Parsed

/-- Was an option given? -/
def has (p : Parsed) (key : String) : Bool := p.values.any fun v => v.1 == key

/-- The value that was given last. -/
def value? (p : Parsed) (key : String) : Option Value :=
  (p.values.reverse.find? fun v => v.1 == key).map Prod.snd

/-- The text of an option. -/
def text? (p : Parsed) (key : String) : Option Raw :=
  match p.value? key with
  | some (.text s) => some s
  | _ => none

/-- The number of an option, or a default. -/
def number (p : Parsed) (key : String) (default : Binary64) : Binary64 :=
  match p.value? key with
  | some (.number x) => x
  | _ => default

/-- The text of an operand. -/
def operand (p : Parsed) (name : String) : Raw :=
  ((p.operands.find? fun o => o.1 == name).map Prod.snd).getD ""

end Parsed

/-- What is required and was not given. -/
def Grammar.absent (g : Grammar) (p : Parsed) (due : Due) : List String :=
  due.operands ++ due.command.toList
    ++ (g.switches.filter fun s => s.required && !p.has s.key).map Switch.title

/-- Reads an argument vector. What is left over is no misuse yet. -/
def Grammar.read (g : Grammar) (arguments : List Raw) : Except UsageError Parsed :=
  let result : Except Misuse Parsed := do
    let ts ← g.tokens arguments
    let (p, due) ← readTokens (ts.length + 1) {} ⟨g.operands, g.command⟩ ts
    match p.stoppedAt, g.absent p due with
    | none, names@(_ :: _) => .error (.missing names)
    | _, _ => return p
  result.mapError (⟨g.program, ·⟩)

end Formwork.CommandLine
