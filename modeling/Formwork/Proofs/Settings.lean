import Formwork.Proofs.Binary64.Sort
import Formwork.Proofs.Document.Store
import Formwork.Proofs.Files.Refusal
import Formwork.SettingsFile

/-!
# Settings are taken or refused

A settings file says what it admits or is refused, with an error that says so (`Refuses`). Some things
get past that. A grid that is NaN is not below zero, so it is taken. An integer that is no number, or
has too many digits to be read or to be shown, ends in the error of that conversion, and so do bytes
that are no text. Values with more levels than there is room for can be neither read nor shown. And
where the system does not let one look whether there is a file, that is all that is said of it.
`Settings.Astray` says when one of these is met before anything that is refused, and
`Settings.load_taken_or_refused_iff` that there is no other.
-/

set_option autoImplicit false

namespace Formwork

namespace Binary64

/-! ## Natural numbers -/

theorem exists_ofRatio (negative : Bool) (num den : Nat) :
    (∃ u fits, ofRatio negative num den = .finite negative u fits) ∨
      ofRatio negative num den = .infinite negative := by
  unfold ofRatio
  split
  next fits => exact .inl ⟨_, representable_roundSteps fits, rfl⟩
  next => exact .inr rfl

theorem atMost_zero_ofInt? {n : Int} {x : Binary64} (natural : 0 ≤ n)
    (near : ofInt? n = some x) : atMost 0 x = true := by
  -- The definition is opened as a function. At an argument, to compare it with its body is to
  -- compute with the steps of the number one.
  have opened : ofInt? = ofInt? := rfl
  conv at opened =>
    rhs
    delta ofInt?
  rw [opened] at near
  simp only [decide_eq_false (Int.not_lt.2 natural)] at near
  generalize n.natAbs * oneSteps = num at near
  rcases exists_ofRatio false num 1 with ⟨u, fits, rounded⟩ | rounded
  · rw [rounded] at near
    obtain rfl := Option.some.inj near
    rw [atMost, orderKey?_zero]
    exact decide_eq_true (Int.natCast_nonneg u)
  · rw [rounded] at near
    cases near

end Binary64

namespace FileTree

/-! ## Files -/

variable {t : FileTree} {p : Path} {text : String}

theorem contains_of_read {bytes : ByteArray} (there : t.read p = .ok bytes) :
    t.contains p = .ok true := by
  obtain ⟨l, located, found⟩ := read_eq_ok.1 there
  rw [contains, located]
  simp [found]

theorem exists_read_of_readText (there : t.readText p = .ok text) :
    ∃ bytes, t.read p = .ok bytes := by
  unfold readText at there
  split at there
  next => cases there
  next bytes found => exact ⟨bytes, found⟩

theorem read_of_readText {e : FileError}
    (failed : t.readText p = .error (.file e)) : t.read p = .error e := by
  unfold readText at failed
  split at failed
  next found =>
    cases failed
    exact found
  next => split at failed <;> cases failed

theorem exists_decode_of_readText {f : Text.Utf8.Fault}
    (failed : t.readText p = .error (.encoding f)) :
    ∃ bytes, t.read p = .ok bytes ∧ Text.Utf8.decode bytes = .error f := by
  unfold readText at failed
  split at failed
  next => cases failed
  next bytes found =>
    split at failed
    next faulty =>
      cases failed
      exact ⟨bytes, found, faulty⟩
    next => cases failed

end FileTree

namespace Text.Utf8

theorem isValidUTF8_iff {bytes : ByteArray} :
    bytes.IsValidUTF8 ↔ ∃ s, decode bytes = .ok s := by
  unfold decode String.fromUTF8?
  by_cases valid : bytes.IsValidUTF8
  · simp [valid]
  · simp [valid]

end Text.Utf8

/-! ## Errors -/

/-- The error says that a table is refused. The others are those of conversions. -/
def SettingsError.Refuses : SettingsError → Prop
  | .oversizedGrid => False
  | .overlong => False
  | .tooDeep => False
  | _ => True

/-- The error says that a file is refused. -/
def SettingsFileError.Refuses : SettingsFileError → Prop
  | .settings e => e.Refuses
  | .malformed (.malformed ..) => True
  | .malformed (.longInteger _) => False
  | .unreadable (.refused ..) _ => True
  | .unreadable (.nameless _) _ => False
  | .encoding _ => False
  | .unknown _ => False
  | .tooDeep => False

section Strays

variable {ε α β : Type} {refuses : ε → Prop}

/-- There is an error, and it does not say that anything is refused. -/
def Strays (refuses : ε → Prop) (m : Except ε α) : Prop := ∃ e, m = .error e ∧ ¬refuses e

theorem not_strays_ok {a : α} : ¬Strays refuses (.ok a) := by
  rintro ⟨e, mismatch, -⟩
  cases mismatch

theorem strays_error_iff {e : ε} : Strays refuses (.error e : Except ε α) ↔ ¬refuses e := by
  constructor
  · rintro ⟨e', same, h⟩
    cases same
    exact h
  · exact fun h => ⟨e, rfl, h⟩

theorem strays_bind_iff {m : Except ε α} {f : α → Except ε β} :
    Strays refuses (m >>= f) ↔ Strays refuses m ∨ ∃ a, m = .ok a ∧ Strays refuses (f a) := by
  cases m with
  | error e =>
    show Strays refuses (.error e) ↔ _
    simp [strays_error_iff]
  | ok a =>
    show Strays refuses (f a) ↔ _
    simp [not_strays_ok]

theorem bind_eq_ok_iff {m : Except ε α} {f : α → Except ε β} {b : β} :
    m >>= f = .ok b ↔ ∃ a, m = .ok a ∧ f a = .ok b := by
  cases m with
  | error e => exact iff_of_false nofun nofun
  | ok a =>
    show f a = .ok b ↔ _
    simp

end Strays

namespace Settings

/-! ## What a table says -/

variable {stack : Stack} {entries table designer codegen : List (String × Datum)}
  {key name : String} {v : Datum}

/-- What a key says, or the default where it is not there. -/
def Tells {α : Type} (entries : List (String × Datum)) (key : String) (default : α)
    (meaning : Datum → α → Prop) (a : α) : Prop :=
  match find? entries key with
  | none => a = default
  | some v => meaning v a

/-- The section of a table; one that is not there is empty. -/
def Section (table : List (String × Datum)) (name : String) : List (String × Datum) → Prop :=
  Tells table name [] fun v entries => v = .table entries

/-- The grid that a value gives: the number next to a natural number, or a number not below zero. -/
inductive GivesGrid : Datum → Binary64 → Prop where
  | integer {n : Int} {x : Binary64} (natural : 0 ≤ n) (near : Binary64.ofInt? n = some x) :
    GivesGrid (.integer n) x
  | number {x : Binary64} (above : Binary64.below x 0 = false) : GivesGrid (.number x) x

/-- The text of a value names a format. -/
def GivesFormat (stack : Stack) (v : Datum) (f : Source.Format) : Prop :=
  stack.exhausts (.shown v) = false ∧ v.isOverlong = false ∧ Source.Format.ofName v.bare = .ok f

/-- The settings are what two sections say. -/
structure Accepted (stack : Stack) (designer codegen : List (String × Datum)) (c : Settings) :
    Prop where
  gridSize : Tells designer "grid_size" 1 GivesGrid c.gridSize
  autoGenerate : Tells designer "auto_generate" false (fun v b => v = .flag b) c.autoGenerate
  format : Tells codegen "format" .single (GivesFormat stack) c.format
  comments : Tells codegen "comments" true (fun v b => v = .flag b) c.comments

/-! ## Reading a table -/

theorem section?_eq_ok_iff : section? table name = .ok entries ↔ Section table name entries := by
  unfold section? Section Tells
  cases find? table name with
  | none => simp [eq_comm]
  | some v => cases v <;> simp

theorem not_strays_section? : ¬Strays SettingsError.Refuses (section? table name) := by
  unfold section?
  split
  next => exact not_strays_ok
  next => exact not_strays_ok
  next =>
    rw [strays_error_iff]
    exact not_not.2 trivial

section Read

variable {α : Type} {default : α} {given : Datum → Except SettingsError α}

theorem read_eq_ok_iff {a : α} : read entries key default given = .ok a ↔
    Tells entries key default (fun v a => given v = .ok a) a := by
  unfold read Tells
  cases find? entries key with
  | none => simp [eq_comm]
  | some v => exact Iff.rfl

theorem strays_read_iff : Strays SettingsError.Refuses (read entries key default given) ↔
    ∃ v, find? entries key = some v ∧ Strays SettingsError.Refuses (given v) := by
  unfold read
  cases find? entries key with
  | none => simp [not_strays_ok]
  | some v => simp

end Read

/-- No message can show the value: it has more levels than there is room for, or an integer with too
many digits in it. -/
def Unshowable (stack : Stack) (v : Datum) : Prop :=
  stack.exhausts (.shown v) = true ∨ v.isOverlong = true

/-- A value of few levels can be shown unless it has an overlong integer in it. -/
theorem unshowable_iff_of_levels (few : v.levels ≤ stack.room) :
    Unshowable stack v ↔ v.isOverlong = true := by
  have fits : stack.exhausts (.shown v) = false := stack.not_exhausts (.shown v) few
  rw [Unshowable, fits, or_iff_right Bool.false_ne_true]

theorem refuse_ne_ok {α : Type} {reason : Datum → SettingsError} {a : α} :
    refuse stack reason v ≠ .ok a := by
  unfold refuse
  split <;> nofun

/-- A value that is refused strays if it cannot be shown. -/
theorem strays_refuse_iff {α : Type} {reason : Datum → SettingsError}
    (refused : ∀ v, (reason v).Refuses) :
    Strays SettingsError.Refuses (refuse stack reason v : Except SettingsError α) ↔
      Unshowable stack v := by
  rw [refuse, Unshowable]
  cases stack.exhausts (.shown v) with
  | true => exact iff_of_true (strays_error_iff.2 id) (.inl rfl)
  | false =>
    rw [or_iff_right Bool.false_ne_true, if_neg Bool.false_ne_true, strays_error_iff]
    cases v.isOverlong with
    | true => exact iff_of_true id rfl
    | false => exact iff_of_false (not_not.2 (refused v)) nofun

/-- What becomes of a value that is to be a grid. -/
theorem gridOf_cases (stack : Stack) (v : Datum) :
    (∃ x, GivesGrid v x ∧ gridOf stack v = .ok x) ∨
      (∃ n, v = .integer n ∧ 0 ≤ n ∧ Binary64.ofInt? n = none ∧
        gridOf stack v = .error .oversizedGrid) ∨
      (∀ n, v = .integer n → n < 0) ∧ (∀ x, ¬GivesGrid v x) ∧
        gridOf stack v = refuse stack .notAGrid v := by
  cases v with
  | integer n =>
    by_cases natural : n < 0
    · refine .inr (.inr ⟨?_, ?_, by rw [gridOf, if_pos natural]⟩)
      · rintro _ ⟨⟩
        exact natural
      · rintro x ⟨above, -⟩
        exact Int.not_lt.2 above natural
    · cases near : Binary64.ofInt? n with
      | none =>
        refine .inr (.inl ⟨n, rfl, Int.not_lt.1 natural, near, ?_⟩)
        rw [gridOf, if_neg natural, near]
      | some x =>
        refine .inl ⟨x, .integer (Int.not_lt.1 natural) near, ?_⟩
        rw [gridOf, if_neg natural, near]
  | number x =>
    cases above : Binary64.below x 0 with
    | false => exact .inl ⟨x, .number above, by rw [gridOf, above]; rfl⟩
    | true =>
      refine .inr (.inr ⟨nofun, ?_, by rw [gridOf, if_pos above]⟩)
      rintro y (⟨-, -⟩ | below)
      rw [above] at below
      cases below
  | _ => exact .inr (.inr ⟨nofun, nofun, rfl⟩)

theorem gridOf_eq_ok_iff {x : Binary64} : gridOf stack v = .ok x ↔ GivesGrid v x := by
  constructor
  · intro given
    rcases gridOf_cases stack v with ⟨y, gives, same⟩ | ⟨n, -, -, -, same⟩ | ⟨-, -, same⟩
    · cases same.symm.trans given
      exact gives
    · cases same.symm.trans given
    · exact absurd (same.symm.trans given) refuse_ne_ok
  · intro gives
    cases gives with
    | integer natural near => rw [gridOf, if_neg (Int.not_lt.2 natural), near]
    | number above =>
      rw [gridOf, above]
      rfl

/-- A value goes astray as a grid: a natural number that is too large, or a value that is refused and
cannot be shown. -/
inductive GridAstray (stack : Stack) : Datum → Prop where
  | oversized {n : Int} (natural : 0 ≤ n) (far : Binary64.ofInt? n = none) :
    GridAstray stack (.integer n)
  | unshowable {v : Datum} (refused : ∀ x, ¬GivesGrid v x) (unshowable : Unshowable stack v) :
    GridAstray stack v

theorem strays_gridOf_iff :
    Strays SettingsError.Refuses (gridOf stack v) ↔ GridAstray stack v := by
  rcases gridOf_cases stack v with
    ⟨x, gives, same⟩ | ⟨n, rfl, natural, far, same⟩ | ⟨negative, refused, same⟩
  · rw [same]
    refine iff_of_false not_strays_ok ?_
    rintro (⟨-, far⟩ | ⟨refused, -⟩)
    · cases gives with
      | integer _ near =>
        rw [far] at near
        cases near
    · exact refused x gives
  · rw [same]
    exact iff_of_true (strays_error_iff.2 id) (.oversized natural far)
  · have reported (v : Datum) : (SettingsError.notAGrid v).Refuses := trivial
    rw [same, strays_refuse_iff reported]
    refine ⟨.unshowable refused, ?_⟩
    rintro (⟨natural, -⟩ | ⟨-, unshowable⟩)
    · exact absurd (negative _ rfl) (Int.not_lt.2 natural)
    · exact unshowable

theorem flagOf_eq_ok_iff {b : Bool} : flagOf stack name key v = .ok b ↔ v = .flag b := by
  cases v with
  | flag b' => simp [flagOf]
  | _ => exact iff_of_false refuse_ne_ok nofun

/-- A flag can be shown, but it is never refused. -/
theorem strays_flagOf_iff : Strays SettingsError.Refuses (flagOf stack name key v) ↔
    (∀ b, v ≠ .flag b) ∧ Unshowable stack v := by
  cases v with
  | flag b => exact iff_of_false not_strays_ok fun h => h.1 b rfl
  | _ =>
    rw [and_iff_right nofun]
    exact strays_refuse_iff fun _ => trivial

theorem formatOf_eq_ok_iff {f : Source.Format} :
    formatOf stack v = .ok f ↔ GivesFormat stack v f := by
  rw [formatOf, GivesFormat]
  cases stack.exhausts (.shown v) with
  | true => exact iff_of_false nofun nofun
  | false =>
    cases v.isOverlong with
    | true => exact iff_of_false nofun nofun
    | false => simp [mapError_eq_ok_iff]

theorem strays_formatOf_iff : Strays SettingsError.Refuses (formatOf stack v) ↔
    stack.exhausts (.shown v) = true := by
  rw [formatOf]
  cases stack.exhausts (.shown v) with
  | true => exact iff_of_true (strays_error_iff.2 id) rfl
  | false =>
    refine iff_of_false ?_ nofun
    cases v.isOverlong with
    | true => exact fun strays => strays_error_iff.1 strays trivial
    | false =>
      cases named : Source.Format.ofName v.bare with
      | ok f =>
        simp only [Bool.false_eq_true, if_false]
        exact not_strays_ok
      | error e =>
        simp only [Bool.false_eq_true, if_false]
        exact fun strays => strays_error_iff.1 strays trivial

/-- A table is taken for what its sections say. -/
theorem ofTable_eq_ok_iff {c : Settings} : ofTable stack table = .ok c ↔
    ∃ designer codegen, Section table "designer" designer ∧ Section table "codegen" codegen ∧
      Accepted stack designer codegen c := by
  simp only [ofTable, bind_eq_ok_iff, section?_eq_ok_iff, read_eq_ok_iff, gridOf_eq_ok_iff,
    flagOf_eq_ok_iff, formatOf_eq_ok_iff]
  constructor
  · rintro ⟨designer, first, codegen, second, x, grid, b, auto, f, format, b', comments, same⟩
    cases same
    exact ⟨designer, codegen, first, second, grid, auto, format, comments⟩
  · rintro ⟨designer, codegen, first, second, accepted⟩
    exact ⟨designer, first, codegen, second, _, accepted.gridSize, _, accepted.autoGenerate, _,
      accepted.format, _, accepted.comments, rfl⟩

/-- A value of two sections goes astray, and none is refused that is read before. -/
inductive SectionsAstray (stack : Stack) (designer codegen : List (String × Datum)) : Prop where
  | gridSize {v : Datum} (found : find? designer "grid_size" = some v)
    (astray : GridAstray stack v)
  | autoGenerate {x : Binary64} {v : Datum} (grid : Tells designer "grid_size" 1 GivesGrid x)
    (found : find? designer "auto_generate" = some v) (refused : ∀ b, v ≠ .flag b)
    (unshowable : Unshowable stack v)
  | format {x : Binary64} {b : Bool} {v : Datum} (grid : Tells designer "grid_size" 1 GivesGrid x)
    (auto : Tells designer "auto_generate" false (fun v b => v = .flag b) b)
    (found : find? codegen "format" = some v) (deep : stack.exhausts (.shown v) = true)
  | comments {x : Binary64} {b : Bool} {f : Source.Format} {v : Datum}
    (grid : Tells designer "grid_size" 1 GivesGrid x)
    (auto : Tells designer "auto_generate" false (fun v b => v = .flag b) b)
    (format : Tells codegen "format" .single (GivesFormat stack) f)
    (found : find? codegen "comments" = some v) (refused : ∀ b, v ≠ .flag b)
    (unshowable : Unshowable stack v)

theorem strays_ofTable_iff : Strays SettingsError.Refuses (ofTable stack table) ↔
    ∃ designer codegen, Section table "designer" designer ∧ Section table "codegen" codegen ∧
      SectionsAstray stack designer codegen := by
  simp only [ofTable, strays_bind_iff, not_strays_section?, section?_eq_ok_iff, strays_read_iff,
    strays_gridOf_iff, strays_flagOf_iff, strays_formatOf_iff, read_eq_ok_iff, gridOf_eq_ok_iff,
    flagOf_eq_ok_iff, formatOf_eq_ok_iff, false_or]
  constructor
  · rintro ⟨designer, first, codegen, second, strays⟩
    refine ⟨designer, codegen, first, second, ?_⟩
    rcases strays with ⟨v, found, astray⟩ | ⟨x, grid, strays⟩
    · exact .gridSize found astray
    rcases strays with ⟨v, found, refused, unshowable⟩ | ⟨b, auto, strays⟩
    · exact .autoGenerate grid found refused unshowable
    rcases strays with ⟨v, found, deep⟩ | ⟨f, format, strays⟩
    · exact .format grid auto found deep
    rcases strays with ⟨v, found, refused, unshowable⟩ | ⟨b', -, strays⟩
    · exact .comments grid auto format found refused unshowable
    · exact absurd strays not_strays_ok
  · rintro ⟨designer, codegen, first, second, astray⟩
    refine ⟨designer, first, codegen, second, ?_⟩
    cases astray with
    | gridSize found astray => exact .inl ⟨_, found, astray⟩
    | autoGenerate grid found refused unshowable =>
      exact .inr ⟨_, grid, .inl ⟨_, found, refused, unshowable⟩⟩
    | format grid auto found deep =>
      exact .inr ⟨_, grid, .inr ⟨_, auto, .inl ⟨_, found, deep⟩⟩⟩
    | comments grid auto format found refused unshowable =>
      exact .inr ⟨_, grid, .inr ⟨_, auto, .inr ⟨_, format, .inl ⟨_, found, refused, unshowable⟩⟩⟩⟩

/-! ## The grid -/

/-- A grid that is given is a number from zero on, or it is NaN. -/
theorem GivesGrid.atMost_zero {x : Binary64} (gives : GivesGrid v x) (number : x ≠ .nan) :
    Binary64.atMost 0 x = true := by
  cases gives with
  | integer natural near => exact Binary64.atMost_zero_ofInt? natural near
  | number above =>
    rw [Binary64.below, Binary64.orderKey?_zero] at above
    rw [Binary64.atMost, Binary64.orderKey?_zero]
    cases key : x.orderKey? with
    | none =>
      cases x with
      | nan => exact absurd rfl number
      | infinite | finite => cases key
    | some k =>
      rw [key] at above
      simpa using above

theorem Accepted.atMost_zero {c : Settings} (accepted : Accepted stack designer codegen c)
    (number : c.gridSize ≠ .nan) : Binary64.atMost 0 c.gridSize = true := by
  have told := accepted.gridSize
  unfold Tells at told
  split at told
  next =>
    rw [told]
    decide +kernel
  next => exact told.atMost_zero number

/-! ## The file -/

variable {files : FileTree} {directory : Path} {text : String} {c : Settings}

/-- The settings are what the file of a directory says; without a file, they are the defaults. -/
inductive Given (stack : Stack) (files : FileTree) (directory : Path) : Settings → Prop where
  | absent (missing : files.contains (directory.child settingsFileName) = .ok false) :
    Given stack files directory {}
  | file {text : String} {table designer codegen : List (String × Datum)} {c : Settings}
    (there : files.readText (directory.child settingsFileName) = .ok text)
    (shallow : stack.exhausts (.read text) = false) (tables : Toml.read text = .ok table)
    (first : Section table "designer" designer) (second : Section table "codegen" codegen)
    (accepted : Accepted stack designer codegen c) : Given stack files directory c

/-- The file of a directory ends in an error that does not say that it is refused: for bytes that are
no text, for values with too many levels, for an integer with too many digits or for a value of its
sections. Or the system does not let one look whether there is a file. -/
inductive FileAstray (stack : Stack) (files : FileTree) (directory : Path) : Prop where
  | unknown {e : FileError}
    (barred : files.contains (directory.child settingsFileName) = .error e)
  | encoding {bytes : ByteArray}
    (there : files.read (directory.child settingsFileName) = .ok bytes)
    (foreign : ¬bytes.IsValidUTF8)
  | deep {text : String}
    (there : files.readText (directory.child settingsFileName) = .ok text)
    (deep : stack.exhausts (.read text) = true)
  | longInteger {text : String} {digits : Nat}
    (there : files.readText (directory.child settingsFileName) = .ok text)
    (shallow : stack.exhausts (.read text) = false)
    (tooLong : Toml.read text = .error (.longInteger digits))
  | value {text : String} {table designer codegen : List (String × Datum)}
    (there : files.readText (directory.child settingsFileName) = .ok text)
    (shallow : stack.exhausts (.read text) = false) (tables : Toml.read text = .ok table)
    (first : Section table "designer" designer) (second : Section table "codegen" codegen)
    (astray : SectionsAstray stack designer codegen)

/-- The file of a directory is neither taken for what it should say nor refused: it goes astray, or
the grid that it gives is NaN. -/
inductive Astray (stack : Stack) (files : FileTree) (directory : Path) : Prop where
  | file (astray : FileAstray stack files directory)
  | grid {c : Settings} (given : Given stack files directory c) (nan : c.gridSize = .nan)

theorem ofText_eq_ok_iff : ofText stack text = .ok c ↔ stack.exhausts (.read text) = false ∧
    ∃ table, Toml.read text = .ok table ∧ ofTable stack table = .ok c := by
  unfold ofText
  cases stack.exhausts (.read text) with
  | true => simp
  | false =>
    cases Toml.read text with
    | error e => simp
    | ok table => simp [mapError_eq_ok_iff]

theorem strays_ofText_iff : Strays SettingsFileError.Refuses (ofText stack text) ↔
    stack.exhausts (.read text) = true ∨ stack.exhausts (.read text) = false ∧
      ((∃ digits, Toml.read text = .error (.longInteger digits)) ∨ ∃ table,
        Toml.read text = .ok table ∧ Strays SettingsError.Refuses (ofTable stack table)) := by
  unfold ofText
  cases stack.exhausts (.read text) with
  | true => exact iff_of_true (strays_error_iff.2 id) (.inl rfl)
  | false =>
    rw [or_iff_right Bool.false_ne_true, and_iff_right rfl, if_neg Bool.false_ne_true]
    cases Toml.read text with
    | error e =>
      rw [strays_error_iff]
      cases e with
      | malformed => simp [SettingsFileError.Refuses]
      | longInteger digits => simp [SettingsFileError.Refuses]
    | ok table =>
      cases given : ofTable stack table with
      | error e => simp [Except.mapError, given, strays_error_iff, SettingsFileError.Refuses]
      | ok c => simp [Except.mapError, given, not_strays_ok]

/-- Where there is a text, it is what counts. -/
theorem load_of_readText (there : files.readText (directory.child settingsFileName) = .ok text) :
    load stack files directory = ofText stack text := by
  obtain ⟨bytes, found⟩ := FileTree.exists_read_of_readText there
  rw [load, FileTree.contains_of_read found]
  simp only [there]

/-- A directory has the settings that its file gives. -/
theorem load_eq_ok_iff : load stack files directory = .ok c ↔ Given stack files directory c := by
  constructor
  · intro loaded
    unfold load at loaded
    dsimp only at loaded
    split at loaded
    next => cases loaded
    next missing =>
      obtain rfl := Except.ok.inj loaded
      exact .absent missing
    next =>
      split at loaded
      next => cases loaded
      next => cases loaded
      next text there =>
        obtain ⟨shallow, table, tables, taken⟩ := ofText_eq_ok_iff.1 loaded
        obtain ⟨designer, codegen, first, second, accepted⟩ := ofTable_eq_ok_iff.1 taken
        exact .file there shallow tables first second accepted
  · intro given
    cases given with
    | absent missing => rw [load, missing]
    | file there shallow tables first second accepted =>
      rw [load_of_readText there]
      exact ofText_eq_ok_iff.2
        ⟨shallow, _, tables, ofTable_eq_ok_iff.2 ⟨_, _, first, second, accepted⟩⟩

/-- What goes astray does so at one of the steps that look at the file. -/
theorem fileAstray_of_strays
    (strays : Strays SettingsFileError.Refuses (load stack files directory)) :
    FileAstray stack files directory := by
  unfold load at strays
  dsimp only at strays
  split at strays
  next barred => exact .unknown barred
  next => exact absurd strays not_strays_ok
  next there =>
    split at strays
    next e failed =>
      have foreign := strays_error_iff.1 strays
      cases e with
      | refused => exact absurd trivial foreign
      | nameless flaw =>
        have named := (FileTree.contains_iff.1 there).1
        rw [FileTree.isNameable_of_read (FileTree.read_of_readText failed)] at named
        cases named
    next f failed =>
      obtain ⟨bytes, found, faulty⟩ := FileTree.exists_decode_of_readText failed
      refine .encoding found fun valid => ?_
      obtain ⟨s, decoded⟩ := Text.Utf8.isValidUTF8_iff.1 valid
      rw [faulty] at decoded
      cases decoded
    next text there =>
      rcases strays_ofText_iff.1 strays with
        deep | ⟨shallow, ⟨digits, tooLong⟩ | ⟨table, tables, strays⟩⟩
      · exact .deep there deep
      · exact .longInteger there shallow tooLong
      · obtain ⟨designer, codegen, first, second, astray⟩ := strays_ofTable_iff.1 strays
        exact .value there shallow tables first second astray

theorem strays_of_fileAstray (astray : FileAstray stack files directory) :
    Strays SettingsFileError.Refuses (load stack files directory) := by
  cases astray with
  | unknown barred =>
    rw [load, barred]
    exact strays_error_iff.2 id
  | deep there deep =>
    rw [load_of_readText there]
    exact strays_ofText_iff.2 (.inl deep)
  | @encoding bytes there foreign =>
    rw [Text.Utf8.isValidUTF8_iff] at foreign
    cases decoded : Text.Utf8.decode bytes with
    | ok s => exact absurd ⟨s, decoded⟩ foreign
    | error f =>
      rw [load, FileTree.contains_of_read there, FileTree.readText, there]
      simp only [decoded]
      exact strays_error_iff.2 id
  | longInteger there shallow tooLong =>
    rw [load_of_readText there]
    exact strays_ofText_iff.2 (.inr ⟨shallow, .inl ⟨_, tooLong⟩⟩)
  | value there shallow tables first second astray =>
    rw [load_of_readText there]
    exact strays_ofText_iff.2 (.inr ⟨shallow,
      .inr ⟨_, tables, strays_ofTable_iff.2 ⟨_, _, first, second, astray⟩⟩⟩)

theorem strays_load_iff : Strays SettingsFileError.Refuses (load stack files directory) ↔
    FileAstray stack files directory :=
  ⟨fileAstray_of_strays, strays_of_fileAstray⟩

theorem Given.atMost_zero_iff (given : Given stack files directory c) :
    Binary64.atMost 0 c.gridSize = true ↔ c.gridSize ≠ .nan := by
  constructor
  · intro number nan
    rw [nan, Binary64.atMost, Binary64.orderKey?_zero] at number
    cases number
  · intro number
    cases given with
    | absent => decide +kernel
    | file _ _ _ _ _ accepted => exact accepted.atMost_zero number

/-- Where settings are loaded, nothing has gone astray but a grid that is NaN. -/
theorem astray_iff_of_load (loaded : load stack files directory = .ok c) :
    Astray stack files directory ↔ c.gridSize = .nan := by
  constructor
  · rintro (astray | ⟨given, nan⟩)
    · have strays := strays_load_iff.2 astray
      rw [loaded] at strays
      exact absurd strays not_strays_ok
    · cases loaded.symm.trans (load_eq_ok_iff.2 given)
      exact nan
  · exact .grid (load_eq_ok_iff.1 loaded)

theorem astray_iff_of_load_error {e : SettingsFileError}
    (failed : load stack files directory = .error e) :
    Astray stack files directory ↔ ¬e.Refuses := by
  have strays := @strays_load_iff stack files directory
  rw [failed, strays_error_iff] at strays
  rw [strays]
  constructor
  · rintro (astray | ⟨given, -⟩)
    · exact astray
    · cases failed.symm.trans (load_eq_ok_iff.2 given)
  · exact .file

/-- **Settings are taken or refused.** Whatever the bytes of its settings file, a directory has the
settings that the file gives, with a grid that is a number from zero on, or the file is refused,
exactly if it does not go astray. -/
theorem load_taken_or_refused_iff (stack : Stack) (files : FileTree) (directory : Path) :
    ((∃ c, load stack files directory = .ok c ∧ Given stack files directory c ∧
        Binary64.atMost 0 c.gridSize = true) ∨
      ∃ e, load stack files directory = .error e ∧ e.Refuses) ↔ ¬Astray stack files directory := by
  cases loaded : load stack files directory with
  | error e =>
    rw [astray_iff_of_load_error loaded]
    simp
  | ok c =>
    have given : Given stack files directory c := load_eq_ok_iff.1 loaded
    rw [astray_iff_of_load loaded, ← Ne, ← given.atMost_zero_iff]
    simp [given]

/-- A directory whose settings file has these bytes. -/
def holding (bytes : ByteArray) : FileTree :=
  { entries := [(⟨[settingsFileName]⟩, .file bytes)] }

/-- A grid that is NaN is taken, and bytes that are no text end in the error of their decoding. -/
theorem not_taken_or_refused_nan :
    load {} (holding "[designer]\ngrid_size = nan\n".toUTF8) {} = .ok { gridSize := .nan } ∧
      Binary64.atMost 0 .nan = false ∧
      ∃ e, load {} (holding ⟨#[0xff]⟩) {} = .error e ∧ ¬e.Refuses := by
  refine ⟨load_eq_ok_iff.2 ?_, by decide +kernel, strays_load_iff.2 ?_⟩
  · have there : (holding "[designer]\ngrid_size = nan\n".toUTF8).readText
        (Path.child {} settingsFileName) = .ok "[designer]\ngrid_size = nan\n" := by
      have found : (holding "[designer]\ngrid_size = nan\n".toUTF8).read
          (Path.child {} settingsFileName) = .ok "[designer]\ngrid_size = nan\n".toUTF8 := rfl
      rw [FileTree.readText, found]
      simp only [Project.decode_toUTF8]
      rfl
    have tables : Toml.read "[designer]\ngrid_size = nan\n" =
        .ok [("designer", .table [("grid_size", .number .nan)])] := rfl
    refine .file there rfl tables rfl rfl ⟨?_, rfl, rfl, rfl⟩
    exact GivesGrid.number rfl
  · have there : (holding ⟨#[0xff]⟩).read (Path.child {} settingsFileName) = .ok ⟨#[0xff]⟩ := rfl
    refine .encoding there fun valid => ?_
    have faulty : ByteArray.validateUTF8 ⟨#[0xff]⟩ = false := by decide
    rw [ByteArray.validateUTF8_eq_true_iff.2 valid] at faulty
    cases faulty

end Settings

end Formwork
