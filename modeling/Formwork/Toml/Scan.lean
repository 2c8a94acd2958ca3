import Formwork.Json.Reader
import Formwork.Text.Literal

/-!
# Words of a settings text

The reading functions for the parts of TOML that have no structure: blank space and comments,
strings, and keys. Each takes the characters that are left and answers a value with the
characters after it, or a fault with the characters from the offending one on, so that places
follow from the text and that rest alone.

Lines end with a line feed.
-/

set_option autoImplicit false

namespace Formwork.Toml

/-- What is wrong with a settings text. -/
inductive Problem where
  | invalidStatement
  | invalidValue
  | equalsExpected
  | tableEndExpected
  | listEndExpected
  | lineEndExpected
  | keyExpected
  | closingExpected (closing : String)
  | unterminatedString
  | unescapedBackslash
  | illegalCharacter (c : Char)
  | invalidCharacter (c : Char)
  | invalidHex
  | notAScalar
  | invalidMoment
  | unclosedArray
  | unclosedTable
  | duplicateKey (key : String)
  | overwritten
  | declaredTwice (key : List String)
  | redefined (key : List String)
  | frozen (key : List String)
  deriving DecidableEq

/-- A key as messages write it. -/
def keyText (key : List String) : String :=
  match key with
  | [k] => "(" ++ Text.Quoted.text k ++ ",)"
  | ks => "(" ++ ", ".intercalate (ks.map Text.Quoted.text) ++ ")"

def Problem.message : Problem → String
  | invalidStatement => "Invalid statement"
  | invalidValue => "Invalid value"
  | equalsExpected => "Expected '=' after a key in a key/value pair"
  | tableEndExpected => "Expected ']' at the end of a table declaration"
  | listEndExpected => "Expected ']]' at the end of an array declaration"
  | lineEndExpected => "Expected newline or end of document after a statement"
  | keyExpected => "Invalid initial character for a key part"
  | closingExpected closing => "Expected " ++ Text.Quoted.text closing
  | unterminatedString => "Unterminated string"
  | unescapedBackslash => "Unescaped '\\' in a string"
  | illegalCharacter c => "Illegal character " ++ Text.Quoted.text c.toString
  | invalidCharacter c => "Found invalid character " ++ Text.Quoted.text c.toString
  | invalidHex => "Invalid hex value"
  | notAScalar => "Escaped character is not a Unicode scalar value"
  | invalidMoment => "Invalid date or datetime"
  | unclosedArray => "Unclosed array"
  | unclosedTable => "Unclosed inline table"
  | duplicateKey key => "Duplicate inline table key " ++ Text.Quoted.text key
  | overwritten => "Cannot overwrite a value"
  | declaredTwice key => "Cannot declare " ++ keyText key ++ " twice"
  | redefined key => "Cannot redefine namespace " ++ keyText key
  | frozen key => "Cannot mutate immutable namespace " ++ keyText key

/-- Why reading stops: a problem and the text from it on, or an integer with too many digits. -/
inductive Fault where
  | problem (p : Problem) (rest : List Char)
  | longInteger (digits : Nat)

/-- A reading function. -/
abbrev Reader (α : Type) := List Char → Except Fault (α × List Char)

/-- Reading stops here. -/
def stop {α : Type} (p : Problem) (rest : List Char) : Except Fault α := .error (.problem p rest)

/-! ## Blank space and comments -/

def isSpace (c : Char) : Bool := c == ' ' || c == '\t'

def isSpaceOrLine (c : Char) : Bool := isSpace c || c == '\n'

def skipSpace (cs : List Char) : List Char := cs.dropWhile isSpace

/-- May the character not stand in a line? -/
def isControl (c : Char) : Bool := (c.toNat < 0x20 && c != '\t') || c == '\x7f'

/-- May the character not stand in a text of many lines? -/
def isControlInLines (c : Char) : Bool := isControl c && c != '\n'

/-- The characters of `body` may all stand there; `after` is what comes behind it. -/
def checkBody (bad : Char → Bool) (body after : List Char) : Except Fault Unit :=
  match body.dropWhile fun c => !bad c with
  | [] => .ok ()
  | c :: rest => stop (.invalidCharacter c) (c :: rest ++ after)

/-- Skips a comment, if one begins here, up to the end of its line. -/
def skipComment (cs : List Char) : Except Fault (List Char) :=
  match cs with
  | '#' :: rest => do
    let after := rest.dropWhile (· ≠ '\n')
    checkBody isControl (rest.takeWhile (· ≠ '\n')) after
    return after
  | cs => .ok cs

/-- Skips blank space, line ends and comments. The fuel is a bound on their characters. -/
def skipBlank : Nat → List Char → Except Fault (List Char)
  | 0, cs => .ok cs
  | fuel + 1, cs =>
    match cs.dropWhile isSpaceOrLine with
    | '#' :: rest => do skipBlank fuel (← skipComment ('#' :: rest))
    | rest => .ok rest

/-- Skips whatever separates the items of an array. -/
def skipBetween (cs : List Char) : Except Fault (List Char) := skipBlank (cs.length + 1) cs

/-! ## Strings -/

/-- A character written by its number in `count` hexadecimal digits. -/
def readScalar (count : Nat) (cs : List Char) : Except Fault (Char × List Char) :=
  match (cs.take count).mapM Json.hexValue? with
  | some ds =>
    if ds.length < count then stop .invalidHex cs
    else
      let n := ds.foldl (fun n d => 16 * n + d) 0
      if n.isValidChar then .ok (Char.ofNat n, cs.drop count)
      else stop .notAScalar (cs.drop count)
  | none => stop .invalidHex cs

/-- The character that an escape denotes, after the backslash. -/
def readEscape (cs : List Char) : Except Fault (Char × List Char) :=
  match cs with
  | 'b' :: rest => .ok ('\x08', rest)
  | 't' :: rest => .ok ('\t', rest)
  | 'n' :: rest => .ok ('\n', rest)
  | 'f' :: rest => .ok ('\x0c', rest)
  | 'r' :: rest => .ok ('\r', rest)
  | '"' :: rest => .ok ('"', rest)
  | '\\' :: rest => .ok ('\\', rest)
  | 'u' :: rest => readScalar 4 rest
  | 'U' :: rest => readScalar 8 rest
  | cs => stop .unescapedBackslash (cs.drop 1)

/-- A backslash at the end of a line takes away all blank space up to the next text. -/
def joinLines (cs : List Char) : Except Fault (List Char) :=
  match skipSpace cs with
  | [] => .ok []
  | '\n' :: rest => .ok (rest.dropWhile isSpaceOrLine)
  | rest => stop .unescapedBackslash rest

/-- The characters of a string in one line, onto those read so far, last first. -/
def readLineChars : Nat → List Char → List Char → Except Fault (String × List Char)
  | 0, _, cs => stop .unterminatedString cs
  | _ + 1, _, [] => stop .unterminatedString []
  | fuel + 1, read, c :: cs =>
    if c = '"' then .ok (String.ofList read.reverse, cs)
    else if c = '\\' then do
      let (d, rest) ← readEscape cs
      readLineChars fuel (d :: read) rest
    else if isControl c then stop (.illegalCharacter c) (c :: cs)
    else readLineChars fuel (c :: read) cs

/-- A string in one line, after its opening quote. -/
def readLine (cs : List Char) : Except Fault (String × List Char) :=
  readLineChars (cs.length + 1) [] cs

/-- The characters of a string of many lines, onto those read so far, last first. -/
def readLinesChars : Nat → List Char → List Char → Except Fault (List Char × List Char)
  | 0, _, cs => stop .unterminatedString cs
  | _ + 1, _, [] => stop .unterminatedString []
  | fuel + 1, read, c :: cs =>
    if c = '"' then
      match cs with
      | '"' :: '"' :: rest => .ok (read.reverse, rest)
      | cs => readLinesChars fuel (c :: read) cs
    else if c = '\\' then
      if cs.head?.any isSpaceOrLine then do
        readLinesChars fuel read (← joinLines cs)
      else do
        let (d, rest) ← readEscape cs
        readLinesChars fuel (d :: read) rest
    else if isControlInLines c then stop (.illegalCharacter c) (c :: cs)
    else readLinesChars fuel (c :: read) cs

/-- Up to two quotes that stand before the closing ones belong to the text. -/
def takeQuotes (quote : Char) (body cs : List Char) : String × List Char :=
  let extra := ((cs.take 2).takeWhile (· == quote)).length
  (String.ofList (body ++ List.replicate extra quote), cs.drop extra)

/-- A line end right after the opening quotes does not count. -/
def skipFirstLine : List Char → List Char
  | '\n' :: cs => cs
  | cs => cs

/-- A string of many lines, after its opening quotes. -/
def readLines (cs : List Char) : Except Fault (String × List Char) := do
  let (body, rest) ← readLinesChars (cs.length + 1) [] (skipFirstLine cs)
  return takeQuotes '"' body rest

/-- The characters before the first occurrence of `closing`, and those from it on. -/
def splitAtClosing (closing : List Char) : List Char → Option (List Char × List Char)
  | [] => none
  | c :: cs =>
    if closing.isPrefixOf (c :: cs) then some ([], c :: cs)
    else (splitAtClosing closing cs).map fun (body, rest) => (c :: body, rest)

/-- A text in which nothing is escaped, up to its closing quotes. -/
def readLiteral (closing : String) (bad : Char → Bool) (cs : List Char) :
    Except Fault (List Char × List Char) :=
  match splitAtClosing closing.toList cs with
  | none => stop (.closingExpected closing) []
  | some (body, rest) => do
    checkBody bad body rest
    return (body, rest.drop closing.length)

/-- A literal string in one line, after its opening quote. -/
def readLiteralLine (cs : List Char) : Except Fault (String × List Char) := do
  let (body, rest) ← readLiteral "'" isControl cs
  return (String.ofList body, rest)

/-- A literal string of many lines, after its opening quotes. -/
def readLiteralLines (cs : List Char) : Except Fault (String × List Char) := do
  let (body, rest) ← readLiteral "'''" isControlInLines (skipFirstLine cs)
  return takeQuotes '\'' body rest

/-! ## Keys -/

def isBareKeyChar (c : Char) : Bool := c.isAlphanum || c == '-' || c == '_'

/-- One part of a key. -/
def readKeyPart (cs : List Char) : Except Fault (String × List Char) :=
  match cs with
  | [] => stop .keyExpected []
  | c :: rest =>
    if isBareKeyChar c then
      .ok (String.ofList (cs.takeWhile isBareKeyChar), cs.dropWhile isBareKeyChar)
    else if c = '\'' then readLiteralLine rest
    else if c = '"' then readLine rest
    else stop .keyExpected cs

/-- The parts of a key after the first one, onto those read so far. -/
def readKeyParts : Nat → List String → List Char → Except Fault (List String × List Char)
  | 0, read, cs => .ok (read, cs)
  | fuel + 1, read, cs =>
    match skipSpace cs with
    | '.' :: rest => do
      let (part, after) ← readKeyPart (skipSpace rest)
      readKeyParts fuel (read ++ [part]) after
    | rest => .ok (read, rest)

/-- A key, its parts separated by points. -/
def readKey (cs : List Char) : Except Fault (List String × List Char) := do
  let (part, rest) ← readKeyPart cs
  readKeyParts (rest.length + 1) [part] rest

/-- May a key begin with the character? -/
def beginsKey (c : Char) : Bool := isBareKeyChar c || c == '"' || c == '\''

end Formwork.Toml
