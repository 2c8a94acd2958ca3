import Formwork.Json.Reader
import Formwork.Text.Literal

/-!
# Literals are read back

`Literal.read?` is a reader of one-line literals between double quotes. A backslash takes a letter,
which stands for one character, or for the count of hexadecimal digits that are to follow; a line
feed or a carriage return breaks the literal off. `Literal.read?_quote` is the law: what is written
for a text is read as that text, whatever comes behind it.

Escapes of different widths do not run into each other, since a reader counts its digits: what is
written for one character is read by itself (`readChars?_escapePoint`).
-/

set_option autoImplicit false

namespace Formwork.Text.Literal

-- A power of a natural number is the one of the core library, whatever else is imported.
attribute [local instance (2000)] instPowNat

/-- Where a reader of a literal stands. -/
inductive Reading where
  | plain
  /-- Right after a backslash. -/
  | escaped
  /-- In the digits of an escape, behind those that make up the value; the next one is followed by
  `more` others. -/
  | numeric (more value : Nat)

/-- The character that a letter after a backslash denotes. -/
def letter? : Char → Option Char
  | '\\' => some '\\'
  | '"' => some '"'
  | 'n' => some '\n'
  | 'r' => some '\r'
  | 't' => some '\t'
  | _ => none

/-- How many digits follow the first one, after a letter that begins a numeric escape. -/
def more? : Char → Option Nat
  | 'x' => some 1
  | 'u' => some 3
  | 'U' => some 7
  | _ => none

/-- A character in front of what is read next. -/
def onto (c : Char) (read : List Char × List Char) : List Char × List Char :=
  (c :: read.1, read.2)

/-- The characters of a literal up to its closing quote, and what comes behind. -/
def readChars? : Reading → List Char → Option (List Char × List Char)
  | _, [] => none
  | .plain, c :: cs =>
    if c = '"' then some ([], cs)
    else if c = '\\' then readChars? .escaped cs
    else if c = '\n' ∨ c = '\r' then none
    else (readChars? .plain cs).map (onto c)
  | .escaped, c :: cs =>
    match letter? c, more? c with
    | some d, _ => (readChars? .plain cs).map (onto d)
    | none, some more => readChars? (.numeric more 0) cs
    | none, none => none
  | .numeric more value, c :: cs =>
    match Json.hexValue? c, more with
    | none, _ => none
    | some digit, more + 1 => readChars? (.numeric more (16 * value + digit)) cs
    | some digit, 0 =>
      if (16 * value + digit).isValidChar then
        (readChars? .plain cs).map (onto (Char.ofNat (16 * value + digit)))
      else none

/-- The text that a literal at the head of `cs` denotes, and what comes behind the literal. -/
def read? : List Char → Option (String × List Char)
  | '"' :: cs => (readChars? .plain cs).map fun read => (String.ofList read.1, read.2)
  | _ => none

/-! ## Numeric escapes -/

private theorem hexValue?_digit (n : Nat) :
    Json.hexValue? (Nat.digitChar (n % 16)) = some (n % 16) := by
  have each : ∀ d : Fin 16, Json.hexValue? (Nat.digitChar d) = some d.val := by decide
  exact each ⟨n % 16, Nat.mod_lt n (by decide)⟩

/-- A digit that is followed by others. -/
private theorem readChars?_digit (more value n : Nat) (rest : List Char) :
    readChars? (.numeric (more + 1) value) (Nat.digitChar (n % 16) :: rest) =
      readChars? (.numeric more (16 * value + n % 16)) rest := by
  simp only [readChars?, hexValue?_digit]

/-- The last digit. -/
private theorem readChars?_lastDigit {value n : Nat} {c : Char}
    (same : 16 * value + n % 16 = c.toNat) (rest : List Char) :
    readChars? (.numeric 0 value) (Nat.digitChar (n % 16) :: rest) =
      (readChars? .plain rest).map (onto c) := by
  have valid : c.toNat.isValidChar := c.valid
  simp only [readChars?, hexValue?_digit, same, if_pos valid, Char.ofNat_toNat]

/-- The value of the digits before the last one, and the last one. -/
private theorem value_hexDigits (width n : Nat) :
    16 * (n / 16 % 16 ^ width) + n % 16 = n % 16 ^ (width + 1) := by
  rw [Nat.pow_succ', Nat.mod_mul, Nat.add_comm]

private theorem hexDigits_append (width n : Nat) (rest : List Char) :
    hexDigits (width + 1) n ++ rest =
      hexDigits width (n / 16) ++ Nat.digitChar (n % 16) :: rest := by
  rw [hexDigits, List.append_assoc, List.singleton_append]

/-- Digits that are followed by others are read as a value. -/
private theorem readChars?_hexDigits (width more n : Nat) (rest : List Char) :
    readChars? (.numeric (more + width) 0) (hexDigits width n ++ rest) =
      readChars? (.numeric more (n % 16 ^ width)) rest := by
  induction width generalizing more n rest with
  | zero =>
    rw [Nat.pow_zero, Nat.mod_one]
    rfl
  | succ width ih =>
    have count : more + (width + 1) = more + 1 + width := by omega
    rw [hexDigits_append, count, ih, readChars?_digit, value_hexDigits]

/-- All digits of an escape are read as the character that they are written for. -/
private theorem readChars?_number (width : Nat) {c : Char} (fits : c.toNat < 16 ^ (width + 1))
    (rest : List Char) :
    readChars? (.numeric width 0) (hexDigits (width + 1) c.toNat ++ rest) =
      (readChars? .plain rest).map (onto c) := by
  have earlier := readChars?_hexDigits width 0 (c.toNat / 16)
    (Nat.digitChar (c.toNat % 16) :: rest)
  rw [Nat.zero_add] at earlier
  rw [hexDigits_append, earlier]
  refine readChars?_lastDigit ?_ rest
  rw [value_hexDigits, Nat.mod_eq_of_lt fits]

private theorem readChars?_numericEscape (c : Char) (rest : List Char) :
    readChars? .plain (numericEscape c.toNat ++ rest) =
      (readChars? .plain rest).map (onto c) := by
  have largest : c.toNat < 16 ^ 8 := by
    rcases c.valid with low | ⟨-, high⟩
    · exact Nat.lt_trans low (by decide)
    · exact Nat.lt_trans high (by decide)
  unfold numericEscape
  split
  next two => exact readChars?_number 1 two rest
  next =>
    split
    next four => exact readChars?_number 3 four rest
    next => exact readChars?_number 7 largest rest

/-! ## Characters and texts -/

/-- What is written for a character is read as that character. -/
theorem readChars?_escapePoint (c : Char) (rest : List Char) :
    readChars? .plain (escapePoint '"' c.toNat ++ rest) =
      (readChars? .plain rest).map (onto c) := by
  have is {d : Char} (same : c.toNat = d.toNat) : c = d := Char.toNat_inj.1 same
  unfold escapePoint
  split
  next same => rw [is (d := '\\') same]; rfl
  rename_i backslash
  split
  next same => rw [is same]; rfl
  rename_i quote
  split
  next same => rw [is (d := '\n') same]; rfl
  rename_i feed
  split
  next same => rw [is (d := '\r') same]; rfl
  rename_i ret
  split
  next same => rw [is (d := '\t') same]; rfl
  split
  next =>
    have differs {d : Char} (other : ¬ c.toNat = d.toNat) : c ≠ d := fun same =>
      other (congrArg Char.toNat same)
    have breaks : ¬ (c = '\n' ∨ c = '\r') := not_or.2 ⟨differs feed, differs ret⟩
    rw [Char.ofNat_toNat, List.singleton_append, readChars?, if_neg (differs quote),
      if_neg (differs (d := '\\') backslash), if_neg breaks]
  next => exact readChars?_numericEscape c rest

theorem readChars?_escape (cs rest : List Char) :
    readChars? .plain (cs.flatMap (fun c => escapePoint '"' c.toNat) ++ '"' :: rest) =
      some (cs, rest) := by
  induction cs with
  | nil => rfl
  | cons c cs ih =>
    rw [List.flatMap_cons, List.append_assoc, readChars?_escapePoint, ih]
    rfl

/-- A literal is read as the text that it is written for. -/
theorem read?_quote (s : String) (rest : List Char) :
    read? ((quote s).toList ++ rest) = some (s, rest) := by
  have text : (quote s).toList ++ rest =
      '"' :: (s.toList.flatMap (fun c => escapePoint '"' c.toNat) ++ '"' :: rest) := by
    rw [quote, escape, String.toList_append, String.toList_append, String.toList_ofList,
      String.toList_ofList, List.append_assoc, List.append_assoc]
    rfl
  rw [text, read?, readChars?_escape, Option.map_some, String.ofList_toList]

end Formwork.Text.Literal
