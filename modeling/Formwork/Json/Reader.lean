import Formwork.Json.Basic

/-!
# Reading JSON text

`Json.read` reads one value and nothing after it. The syntax is RFC 8259 with `NaN`, `Infinity`
and `-Infinity` as further numbers, at most 201 open containers, and at most 4300 characters to
a number, a minus sign not counted.

Every reading function takes the characters that are left and answers a value with the
characters after it, or a fault with the characters from the offending one on. Line and column
follow from the text and that rest alone (`Position.of`), so the readers keep no count. The loops
over characters, list items and object members take a bound on their turns. It is the length of
the whole text, which no loop exceeds, because every turn reads a character.
-/

set_option autoImplicit false

namespace Formwork.Json

/-- What is wrong with a JSON text. -/
inductive Cause where
  | endInValue
  | endInList
  | endInObject
  | endInString
  | expectedValue
  | expectedIdent
  | expectedColon
  | expectedCommaOrBrace
  | expectedCommaOrBracket
  | keyNotString
  | trailingComma
  | trailingCharacters
  | invalidNumber
  | numberOutOfRange
  | invalidEscape
  | controlCharacter
  | loneSurrogate
  | endOfHexEscape
  | recursionLimit
  deriving DecidableEq, Repr

def Cause.message : Cause → String
  | .endInValue => "EOF while parsing a value"
  | .endInList => "EOF while parsing a list"
  | .endInObject => "EOF while parsing an object"
  | .endInString => "EOF while parsing a string"
  | .expectedValue => "expected value"
  | .expectedIdent => "expected ident"
  | .expectedColon => "expected \x60:\x60"
  | .expectedCommaOrBrace => "expected \x60,\x60 or \x60\x7d\x60"
  | .expectedCommaOrBracket => "expected \x60,\x60 or \x60]\x60"
  | .keyNotString => "key must be a string"
  | .trailingComma => "trailing comma"
  | .trailingCharacters => "trailing characters"
  | .invalidNumber => "invalid number"
  | .numberOutOfRange => "number out of range"
  | .invalidEscape => "invalid escape"
  | .controlCharacter => "control character (\\u0000-\\u001F) found while parsing a string"
  | .loneSurrogate => "lone leading surrogate in hex escape"
  | .endOfHexEscape => "unexpected end of hex escape"
  | .recursionLimit => "recursion limit exceeded"

/-- A fault, and the text from the offending character on. -/
structure Fault where
  cause : Cause
  rest : List Char

/-- A line, counted from one, and the bytes of it that were read. -/
structure Position where
  line : Nat
  column : Nat
  deriving DecidableEq, Repr

/-- The position after one more character. -/
def Position.next (p : Position) (c : Char) : Position :=
  if c = '\n' then ⟨p.line + 1, 0⟩ else ⟨p.line, p.column + c.utf8Size⟩

/-- The position of the character with which `rest` begins, or of the end of the text. The
offending character counts as read with its first byte. -/
def Position.of (text rest : List Char) : Position :=
  let before := (text.take (text.length - rest.length)).foldl Position.next ⟨1, 0⟩
  match rest with
  | [] => before
  | c :: _ => if c = '\n' then before.next c else ⟨before.line, before.column + 1⟩

/-- A reading function: a value and the text after it, or a fault. -/
abbrev Reader (α : Type) := List Char → Except Fault (α × List Char)

/-- The characters that separate tokens. -/
def isSpace (c : Char) : Bool := c == ' ' || c == '\t' || c == '\n' || c == '\r'

def skipSpace (cs : List Char) : List Char := cs.dropWhile isSpace

/-- Reads the remaining characters of a bare word. -/
def readWord (value : Json) : List Char → List Char → Except Fault (Json × List Char)
  | [], cs => .ok (value, cs)
  | _ :: _, [] => .error ⟨.endInValue, []⟩
  | w :: ws, c :: cs => if c = w then readWord value ws cs else .error ⟨.expectedIdent, c :: cs⟩

/-! ## Numbers -/

/-- The most characters that the number of a text has behind its sign. -/
def maxNumberLength : Nat := 4300

/-- Is a number of `length` characters too long? They begin at `start`. -/
def checkLength (length : Nat) (start : List Char) : Except Fault Unit :=
  if maxNumberLength < length then .error ⟨.numberOutOfRange, start.drop (maxNumberLength + 1)⟩
  else .ok ()

/-- At least one digit is due. -/
def readDigits (cs : List Char) : Except Fault (List Char × List Char) :=
  match cs with
  | [] => .error ⟨.endInValue, []⟩
  | c :: _ =>
    if c.isDigit then .ok (cs.takeWhile Char.isDigit, cs.dropWhile Char.isDigit)
    else .error ⟨.invalidNumber, cs⟩

/-- The digits before the point: a zero alone, or digits that begin with another one. -/
def readWhole (cs : List Char) : Except Fault (List Char × List Char) :=
  match cs with
  | '0' :: c :: rest =>
    if c.isDigit then .error ⟨.invalidNumber, c :: rest⟩ else .ok (['0'], c :: rest)
  | cs => readDigits cs

/-- The digits after a point, where there is one. -/
def readFraction (cs : List Char) : Except Fault (Option (List Char) × List Char) :=
  match cs with
  | '.' :: rest => (readDigits rest).map fun (ds, r) => (some ds, r)
  | cs => .ok (none, cs)

/-- An exponent: its sign, if it has one, and its digits. -/
structure Exponent where
  sign : List Char
  digits : List Char

namespace Exponent

/-- The characters of an exponent, its letter included. -/
def width (e : Exponent) : Nat := 1 + e.sign.length + e.digits.length

def value (e : Exponent) : Int :=
  let n : Int := Nat.ofDigitChars 10 e.digits 0
  if e.sign = ['-'] then -n else n

end Exponent

/-- An exponent, where there is one. -/
def readExponent (cs : List Char) : Except Fault (Option Exponent × List Char) :=
  match cs with
  | c :: rest =>
    if c = 'e' ∨ c = 'E' then
      let sign := (rest.take 1).filter fun s => s == '+' || s == '-'
      (readDigits (rest.drop sign.length)).map fun (ds, r) => (some ⟨sign, ds⟩, r)
    else .ok (none, c :: rest)
  | [] => .ok (none, [])

/-- The number that digits, a fraction and an exponent denote. -/
def numberOf (negative : Bool) (whole : List Char) :
    Option (List Char) → Option Exponent → Json
  | none, none =>
    let n : Int := Nat.ofDigitChars 10 whole 0
    .integer (if negative then -n else n)
  | fraction, exponent =>
    let part := fraction.getD []
    .number (Binary64.ofDecimal negative (Nat.ofDigitChars 10 (whole ++ part) 0)
      ((exponent.map Exponent.value).getD 0 - part.length))

/-- The characters of a fraction, its point included. -/
def fractionWidth (fraction : Option (List Char)) : Nat :=
  (fraction.map fun ds => 1 + ds.length).getD 0

/-- The digits of a number whose sign has been read. -/
def readMagnitude (negative : Bool) (cs : List Char) : Except Fault (Json × List Char) := do
  let (whole, r₁) ← readWhole cs
  checkLength whole.length cs
  let (fraction, r₂) ← readFraction r₁
  let (exponent, r₃) ← readExponent r₂
  checkLength (whole.length + fractionWidth fraction + (exponent.map Exponent.width).getD 0) cs
  return (numberOf negative whole fraction exponent, r₃)

/-- A number that begins with a minus sign, which has been read. -/
def readNegative (cs : List Char) : Except Fault (Json × List Char) :=
  match cs with
  | 'I' :: rest => readWord (.number (.infinite true)) "nfinity".toList rest
  | cs => readMagnitude true cs

/-! ## Strings -/

/-- The value of a hexadecimal digit. -/
def hexValue? (c : Char) : Option Nat :=
  if c.isDigit then some (c.toNat - '0'.toNat)
  else if 'a' ≤ c ∧ c ≤ 'f' then some (c.toNat - 'a'.toNat + 10)
  else if 'A' ≤ c ∧ c ≤ 'F' then some (c.toNat - 'A'.toNat + 10)
  else none

/-- Reads `count` hexadecimal digits onto a value. -/
def readHex : Nat → Nat → List Char → Except Fault (Nat × List Char)
  | 0, n, cs => .ok (n, cs)
  | _ + 1, _, [] => .error ⟨.endInString, []⟩
  | count + 1, n, c :: cs =>
    match hexValue? c with
    | some d => readHex count (16 * n + d) cs
    | none => .error ⟨.invalidEscape, c :: cs⟩

def isHighSurrogate (n : Nat) : Bool := 0xD800 ≤ n && n < 0xDC00

def isLowSurrogate (n : Nat) : Bool := 0xDC00 ≤ n && n < 0xE000

/-- The last of the four hexadecimal digits at the head of `cs`. -/
def atLastDigit (cs : List Char) : List Char := cs.drop 3

/-- The second half of a surrogate pair, an escape of its own. -/
def readLowSurrogate (high : Nat) (cs : List Char) : Except Fault (Char × List Char) :=
  match cs with
  | [] => .error ⟨.endInString, []⟩
  | '\\' :: [] => .error ⟨.endInString, []⟩
  | '\\' :: 'u' :: digits => do
    let (low, rest) ← readHex 4 0 digits
    if isLowSurrogate low then
      return (Char.ofNat (0x10000 + (high - 0xD800) * 0x400 + (low - 0xDC00)), rest)
    else .error ⟨.loneSurrogate, atLastDigit digits⟩
  | '\\' :: rest => .error ⟨.endOfHexEscape, rest⟩
  | cs => .error ⟨.endOfHexEscape, cs⟩

/-- A character written by its number. -/
def readUnicodeEscape (cs : List Char) : Except Fault (Char × List Char) := do
  let (n, rest) ← readHex 4 0 cs
  if isLowSurrogate n then .error ⟨.loneSurrogate, atLastDigit cs⟩
  else if isHighSurrogate n then readLowSurrogate n rest
  else return (Char.ofNat n, rest)

/-- The character that an escape denotes, after the backslash. -/
def readEscape (cs : List Char) : Except Fault (Char × List Char) :=
  match cs with
  | [] => .error ⟨.endInString, []⟩
  | '"' :: rest => .ok ('"', rest)
  | '\\' :: rest => .ok ('\\', rest)
  | '/' :: rest => .ok ('/', rest)
  | 'b' :: rest => .ok ('\x08', rest)
  | 'f' :: rest => .ok ('\x0c', rest)
  | 'n' :: rest => .ok ('\n', rest)
  | 'r' :: rest => .ok ('\r', rest)
  | 't' :: rest => .ok ('\t', rest)
  | 'u' :: rest => readUnicodeEscape rest
  | cs => .error ⟨.invalidEscape, cs⟩

/-- The characters of a string after its opening quote, onto those read so far, last first. -/
def readChars : Nat → List Char → List Char → Except Fault (String × List Char)
  | 0, _, cs => .error ⟨.endInString, cs⟩
  | _ + 1, _, [] => .error ⟨.endInString, []⟩
  | turns + 1, read, c :: cs =>
    if c = '"' then .ok (String.ofList read.reverse, cs)
    else if c = '\\' then do
      let (d, rest) ← readEscape cs
      readChars turns (d :: read) rest
    else if c.toNat < 0x20 then .error ⟨.controlCharacter, c :: cs⟩
    else readChars turns (c :: read) cs

/-- A string after its opening quote. -/
def readString (turns : Nat) (cs : List Char) : Except Fault (String × List Char) :=
  readChars turns [] cs

/-! ## Containers -/

/-- The items of a list after the first one, onto those read so far, last first. -/
def readItems (value : Reader Json) :
    Nat → List Json → List Char → Except Fault (List Json × List Char)
  | 0, _, cs => .error ⟨.endInList, cs⟩
  | turns + 1, read, cs =>
    match skipSpace cs with
    | [] => .error ⟨.endInList, []⟩
    | c :: rest =>
      if c = ']' then .ok (read.reverse, rest)
      else if c = ',' then
        match skipSpace rest with
        | [] => .error ⟨.endInValue, []⟩
        | d :: more =>
          if d = ']' then .error ⟨.trailingComma, d :: more⟩
          else do
            let (item, after) ← value (d :: more)
            readItems value turns (item :: read) after
      else .error ⟨.expectedCommaOrBracket, c :: rest⟩

/-- A list after its opening bracket. -/
def readList (value : Reader Json) (turns : Nat) (cs : List Char) :
    Except Fault (List Json × List Char) :=
  match skipSpace cs with
  | [] => .error ⟨.endInList, []⟩
  | c :: rest =>
    if c = ']' then .ok ([], rest)
    else do
      let (item, after) ← value (c :: rest)
      readItems value turns [item] after

/-- A key, a colon and a value; the opening quote of the key has been read. -/
def readMember (value : Reader Json) (turns : Nat) (cs : List Char) :
    Except Fault ((String × Json) × List Char) := do
  let (key, r₁) ← readString turns cs
  match skipSpace r₁ with
  | [] => .error ⟨.endInObject, []⟩
  | c :: r₂ =>
    if c = ':' then
      match skipSpace r₂ with
      | [] => .error ⟨.endInValue, []⟩
      | r₃ => do
        let (v, r₄) ← value r₃
        return ((key, v), r₄)
    else .error ⟨.expectedColon, c :: r₂⟩

/-- The members of an object after the first one, onto those read so far, last first. The
strings among them are read in at most `total` turns. -/
def readMembers (value : Reader Json) (total : Nat) :
    Nat → List (String × Json) → List Char → Except Fault (List (String × Json) × List Char)
  | 0, _, cs => .error ⟨.endInObject, cs⟩
  | turns + 1, read, cs =>
    match skipSpace cs with
    | [] => .error ⟨.endInObject, []⟩
    | c :: rest =>
      if c = '}' then .ok (read.reverse, rest)
      else if c = ',' then
        match skipSpace rest with
        | [] => .error ⟨.endInValue, []⟩
        | d :: more =>
          if d = '"' then do
            let (member, after) ← readMember value total more
            readMembers value total turns (member :: read) after
          else if d = '}' then .error ⟨.trailingComma, d :: more⟩
          else .error ⟨.keyNotString, d :: more⟩
      else .error ⟨.expectedCommaOrBrace, c :: rest⟩

/-- An object after its opening brace. -/
def readObject (value : Reader Json) (turns : Nat) (cs : List Char) :
    Except Fault (List (String × Json) × List Char) :=
  match skipSpace cs with
  | [] => .error ⟨.endInObject, []⟩
  | c :: rest =>
    if c = '}' then .ok ([], rest)
    else if c = '"' then do
      let (member, after) ← readMember value turns rest
      readMembers value turns turns [member] after
    else .error ⟨.keyNotString, c :: rest⟩

/-- The most containers that are open at once. -/
def maxOpen : Nat := 201

/-- A value, where `room` more containers may be opened around its parts. Nothing may begin
inside the last container. -/
def readValue (turns : Nat) : Nat → List Char → Except Fault (Json × List Char)
  | _, [] => .error ⟨.endInValue, []⟩
  | 0, cs => .error ⟨.recursionLimit, cs⟩
  | room + 1, c :: cs =>
    match c with
    | '{' => (readObject (readValue turns room) turns cs).map fun (ms, r) => (.object ms, r)
    | '[' => (readList (readValue turns room) turns cs).map fun (xs, r) => (.list xs, r)
    | '"' => (readString turns cs).map fun (s, r) => (.text s, r)
    | 't' => readWord (.bool true) "rue".toList cs
    | 'f' => readWord (.bool false) "alse".toList cs
    | 'n' => readWord .null "ull".toList cs
    | 'N' => readWord (.number .nan) "aN".toList cs
    | 'I' => readWord (.number (.infinite false)) "nfinity".toList cs
    | '-' => readNegative cs
    | c =>
      if c.isDigit then readMagnitude false (c :: cs)
      else .error ⟨.expectedValue, c :: cs⟩

/-- One value, blank space around it, and nothing else. -/
def readText (cs : List Char) : Except Fault Json := do
  let (v, rest) ← readValue (cs.length + 1) maxOpen (skipSpace cs)
  match skipSpace rest with
  | [] => return v
  | r => .error ⟨.trailingCharacters, r⟩

/-- Why a text is no JSON, and where. -/
structure SyntaxError where
  cause : Cause
  position : Position

def SyntaxError.message (e : SyntaxError) : String :=
  e.cause.message ++ " at line " ++ e.position.line.repr ++ " column " ++ e.position.column.repr

/-- Reads a JSON text. -/
def read (s : String) : Except SyntaxError Json :=
  match readText s.toList with
  | .ok v => .ok v
  | .error f => .error ⟨f.cause, Position.of s.toList f.rest⟩

end Formwork.Json
