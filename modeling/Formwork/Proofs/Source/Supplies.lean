import Formwork.Proofs.Source.Words

/-!
# Names that a module defines when it needs them

Nine names stand in a generated module only where something needs them: two modules for dates and
the function that makes a date, the decorator, the field function, the type and the function for
trees, the module for images, and the one that runs a program. `Supply` lists them, and
`Supply.Needed` says when.

`Speaks T` says of a line that the names among its words are all of the given ones; `SpeaksIn` says
it of every line of statements. Going through the generator section by section with the right `T`
shows that no name is there without need. For the other half a name is followed to the line that
brings it in: in the statements before that line it is not mentioned (`Introduces`).
-/

set_option autoImplicit false

namespace Formwork.Source

open Text (Quiet Composed Lacks isNameChar isBreaker Stopped endsWord bare spellings words)

/-- The names that a module brings in when it needs them. -/
inductive Supply where
  | calendar
  | datetime
  | makeDate
  | dataclass
  | field
  | nodeType
  | showTree
  | assets
  | runner
  deriving DecidableEq, Repr

namespace Supply

def name : Supply → String
  | calendar => "calendar"
  | datetime => "datetime"
  | makeDate => "gen_make_date"
  | dataclass => "dataclass"
  | field => "field"
  | nodeType => "GenTreeNode"
  | showTree => "gen_show_tree"
  | assets => "hello_imgui"
  | runner => "immapp"

/-- The kind of widget that needs the name, where it is one. -/
def kind? : Supply → Option Kind
  | calendar => some .datePicker
  | datetime => some .datePicker
  | makeDate => some .datePicker
  | dataclass => some .tree
  | field => some .tree
  | nodeType => some .tree
  | showTree => some .tree
  | assets => some .image
  | runner => none

/-- The design has a widget of the kind that needs the name; what runs a program is needed where the
text is one. -/
def Needed (p : Project) (f : Format) (s : Supply) : Prop :=
  match s.kind? with
  | some k => ∃ w ∈ p.widgets, w.kind = k
  | none => f ≠ .uiOnly

def all : List Supply :=
  [calendar, datetime, makeDate, dataclass, field, nodeType, showTree, assets, runner]

theorem mem_all (s : Supply) : s ∈ all := by cases s <;> decide

/-- The characters of the name. -/
def spelling : Supply → List Char
  | calendar => ['c', 'a', 'l', 'e', 'n', 'd', 'a', 'r']
  | datetime => ['d', 'a', 't', 'e', 't', 'i', 'm', 'e']
  | makeDate => ['g', 'e', 'n', '_', 'm', 'a', 'k', 'e', '_', 'd', 'a', 't', 'e']
  | dataclass => ['d', 'a', 't', 'a', 'c', 'l', 'a', 's', 's']
  | field => ['f', 'i', 'e', 'l', 'd']
  | nodeType => ['G', 'e', 'n', 'T', 'r', 'e', 'e', 'N', 'o', 'd', 'e']
  | showTree => ['g', 'e', 'n', '_', 's', 'h', 'o', 'w', '_', 't', 'r', 'e', 'e']
  | assets => ['h', 'e', 'l', 'l', 'o', '_', 'i', 'm', 'g', 'u', 'i']
  | runner => ['i', 'm', 'm', 'a', 'p', 'p']

theorem name_eq (s : Supply) : s.name = String.ofList s.spelling := by cases s <;> rfl

theorem name_mem_words {s : Supply} {cs : List Char} :
    s.name ∈ words cs ↔ s.spelling ∈ spellings cs := by
  rw [name_eq, Text.mem_words_ofList]

theorem uses_of_needed {p : Project} {f : Format} {s : Supply} {k : Kind} (kind : s.kind? = some k)
    (needed : s.Needed p f) : uses p k = true := by
  rw [Needed, kind] at needed
  obtain ⟨w, mem, same⟩ := needed
  exact List.any_eq_true.2 ⟨w, mem, beq_iff_eq.2 same⟩

end Supply

/-! ## What a design puts into a line -/

section Values

/-- Every one of the names has one of these letters, and neither a number nor a literal has. -/
def tellingLetters : List Char := ['d', 'h', 'p']

/-- Every one of the names but that of the type of trees has one of these letters, and the text of a
tree has none. -/
def treeLetters : List Char := ['a', 'h', 'i']

/-- None of the names is a word of a text that lacks the telling letters. -/
theorem not_mem_of_lacks {s : String} (h : Lacks tellingLetters s) (t : Supply) :
    t.spelling ∉ spellings (bare s) := by
  have letter : tellingLetters.any t.spelling.contains = true := by cases t <;> decide
  obtain ⟨c, telling, mem⟩ := List.any_eq_true.1 letter
  exact h.not_mem_spellings telling (List.contains_iff_mem.1 mem)

theorem lacks_of_value {s : String} (h : Composed valueMarks s) : Lacks tellingLetters s :=
  .of_composed h (by decide)

private theorem lacks_offsetText {base : String} (h : Lacks tellingLetters base) (x : Binary64) :
    Lacks tellingLetters (offsetText base x) := by
  obtain ⟨moved, text, value⟩ := offsetText_eq_append base x
  rw [text]
  exact h.append (lacks_of_value value)

/-- The text of trees mentions their type at most. -/
theorem eq_nodeType_of_mem_forest {trees : List Node} {s : Supply}
    (mem : s.spelling ∈ spellings (bare (forestText trees))) : s = .nodeType := by
  have lacks : Lacks treeLetters (forestText trees) :=
    .of_composed (composed_forestText trees) (by decide)
  by_contra other
  have letter : treeLetters.any s.spelling.contains = true := by
    cases s with
    | nodeType => exact absurd rfl other
    | _ => decide
  obtain ⟨c, telling, inside⟩ := List.any_eq_true.1 letter
  exact lacks.not_mem_spellings telling (List.contains_iff_mem.1 inside) mem

/-- A word with a digit is none of the names. -/
private theorem not_mem_spellings_of_digit {cs : List Char}
    (name : ∀ c ∈ cs, isNameChar c = true) {d : Char} (mem : d ∈ cs) (digit : d.isDigit = true)
    (s : Supply) : s.spelling ∉ spellings cs := by
  have letters : (s.spelling.all fun c => !c.isDigit) = true := by cases s <;> decide
  rw [Text.spellings_name name (List.ne_nil_of_mem mem), List.mem_singleton]
  intro same
  have letter := List.all_eq_true.1 letters d (same ▸ mem)
  rw [digit] at letter
  cases letter

theorem quiet_slotName (t : Slot) : Quiet t.name := by
  cases t with
  | panel p => cases p <;> exact Quiet.append (.chars _ rfl) (.chars _ rfl)
  | widget stem id =>
    have start : Quiet stem.start := by cases stem <;> exact .chars _ rfl
    have finish : Quiet stem.finish := by cases stem <;> exact .chars _ rfl
    exact (start.append (.of_isNumeral (isNumeral_intText id))).append finish

/-- None of the names is a word of the name of a field. There is an id in it; a minus sign before
the id ends a word. -/
theorem not_mem_slotName (t : Slot) (s : Supply) : s.spelling ∉ spellings (bare t.name) := by
  rw [(quiet_slotName t).bare_eq]
  cases t with
  | panel p => cases p <;> cases s <;> decide +kernel
  | widget stem id =>
    obtain ⟨d, digits, text⟩ : ∃ d ds, (natText id.natAbs).toList = d :: ds :=
      List.exists_cons_of_ne_nil (by simp [natText])
    have digit : d.isDigit = true := isDigit_of_mem_natText (text ▸ List.mem_cons_self)
    by_cases negative : id < 0
    · have split : (Slot.widget stem id).name.toList =
          stem.start.toList ++ '-' :: ((natText id.natAbs).toList ++ stem.finish.toList) := by
        rw [Slot.name, intText, if_pos negative]
        simp [String.toList_append]
      have start : ∀ s ∈ Supply.all, s.spelling ∉ spellings stem.start.toList := by
        cases stem <;> decide +kernel
      have number : ∀ c ∈ (natText id.natAbs).toList, isNameChar c = true := by
        intro c hc
        rw [isNameChar, Char.isAlphanum, isDigit_of_mem_natText hc, Bool.or_true]
        rfl
      have finish : stem.finish.toList.all isNameChar = true := by cases stem <;> decide
      rw [split, Text.spellings_append_cons (by decide), List.mem_append, not_or]
      refine ⟨start s s.mem_all, ?_⟩
      refine not_mem_spellings_of_digit
        (List.forall_mem_append.2 ⟨number, List.all_eq_true.1 finish⟩) ?_ digit s
      exact List.mem_append_left _ (text ▸ List.mem_cons_self)
    · have natural : (Slot.widget stem id).Natural := Int.not_lt.1 negative
      refine not_mem_spellings_of_digit (Slot.isNameChar_name natural) ?_ digit s
      rw [Slot.name, intText, if_neg negative, String.toList_append, String.toList_append, text]
      simp

end Values

/-! ## What a line says -/

/-- Between the text and what follows it in its line a word ends, or nothing follows. -/
inductive Ends (cs : List Char) : Line → Prop where
  | breaker {ps : Line} (ends : endsWord cs = true) : Ends cs ps
  | last : Ends cs []
  | quoted {value : String} {ps : Line} : Ends cs (.text value :: ps)
  | cut {c : Char} {s : String} {ds : List Char} {ps : Line} (begins : s.toList = c :: ds)
    (breaker : isBreaker c = true) : Ends cs (.code s :: ps)

/-- May program text begin like this? Behind a value it begins with a character that no word goes on
with, since the value may end in a word. -/
def mayFollow : Bool → List Char → Bool
  | true, c :: _ => isBreaker c
  | true, [] => false
  | false, _ => true

/-- Program text, before the rest of its line, whose words are none of the names but the given
ones. -/
structure Tells (T : Supply → Prop) (behind : Bool) (rest : Line) (s : String) : Prop where
  begins : mayFollow behind s.toList = true
  known : ∀ t : Supply, t.spelling ∈ spellings s.toList → T t
  ends : Ends s.toList rest

/-- May the text follow, and are its words none of the names but those of the list? -/
def tellsOnly (allowed : List Supply) (behind : Bool) (cs : List Char) : Bool :=
  mayFollow behind cs &&
    (spellings cs).all fun w => Supply.all.all fun t => allowed.contains t || !(t.spelling == w)

namespace Tells

variable {allowed : List Supply} {behind : Bool} {rest : Line}

theorem of_check {s : String} (h : tellsOnly allowed behind s.toList = true)
    (ends : Ends s.toList rest) : Tells (· ∈ allowed) behind rest s := by
  obtain ⟨begins, known⟩ := Bool.and_eq_true_iff.1 h
  refine ⟨begins, fun t mem => ?_, ends⟩
  have either := List.all_eq_true.1 (List.all_eq_true.1 known t.spelling mem) t t.mem_all
  simpa using either

private theorem of_chars {cs : List Char} (h : tellsOnly allowed behind cs = true)
    (ends : Ends cs rest) : Tells (· ∈ allowed) behind rest (String.ofList cs) := by
  apply of_check
  all_goals rwa [String.toList_ofList]

/-! These decide it for fixed text. -/

theorem chars (cs : List Char) (h : (tellsOnly allowed behind cs && endsWord cs) = true) :
    Tells (· ∈ allowed) behind rest (String.ofList cs) := by
  obtain ⟨told, ends⟩ := Bool.and_eq_true_iff.1 h
  exact of_chars told (.breaker ends)

theorem last (cs : List Char) (h : tellsOnly allowed behind cs = true) :
    Tells (· ∈ allowed) behind [] (String.ofList cs) := of_chars h .last

theorem quoted {value : String} (cs : List Char) (h : tellsOnly allowed behind cs = true) :
    Tells (· ∈ allowed) behind (.text value :: rest) (String.ofList cs) := of_chars h .quoted

theorem cut {c : Char} {ds : List Char} (cs : List Char)
    (h : (tellsOnly allowed behind cs && isBreaker c) = true) :
    Tells (· ∈ allowed) behind (.code (String.ofList (c :: ds)) :: rest) (String.ofList cs) := by
  obtain ⟨told, breaker⟩ := Bool.and_eq_true_iff.1 h
  exact of_chars told (.cut String.toList_ofList breaker)

theorem imp {T T' : Supply → Prop} {s : String} (h : Tells T behind rest s)
    (wider : ∀ t, T t → T' t) : Tells T' behind rest s :=
  ⟨h.begins, fun t mem => wider t (h.known t mem), h.ends⟩

end Tells

/-- A line whose words are none of the names but the given ones. The flag says whether a value
stands before it. -/
def Speaks (T : Supply → Prop) : Bool → Line → Prop
  | _, [] => True
  | behind, .code s :: ps => Tells T behind ps s ∧ Speaks T false ps
  | behind, .offset base _ :: ps =>
    behind = false ∧ Lacks tellingLetters base ∧ Speaks T true ps
  | behind, .forest _ :: ps => behind = false ∧ T .nodeType ∧ Speaks T true ps
  | behind, _ :: ps => behind = false ∧ Speaks T true ps

theorem Speaks.imp {T T' : Supply → Prop} (wider : ∀ t, T t → T' t) {behind : Bool} {l : Line}
    (h : Speaks T behind l) : Speaks T' behind l := by
  induction l generalizing behind with
  | nil => exact trivial
  | cons p ps ih =>
    cases p with
    | code s => exact ⟨h.1.imp wider, ih h.2⟩
    | offset base x => exact ⟨h.1, h.2.1, ih h.2.2⟩
    | forest trees => exact ⟨h.1, wider _ h.2.1, ih h.2.2⟩
    | _ => exact ⟨h.1, ih h.2⟩

section Line

variable {S : Slot → Prop} {T : Supply → Prop}

/-- A value stands behind no other one, and the names that it mentions are given ones: none, or the
type of trees. -/
private theorem Speaks.of_value {p : Piece} {ps : Line} {behind : Bool}
    (speaks : Speaks T behind (p :: ps)) (value : ∀ s, p ≠ .code s) :
    behind = false ∧ Speaks T true ps ∧
      ∀ t : Supply, t.spelling ∈ spellings (bare p.render) → T t := by
  have mute {s : String} (h : Lacks tellingLetters s) (t : Supply)
      (mem : t.spelling ∈ spellings (bare s)) : T t := absurd mem (not_mem_of_lacks h t)
  have plain {s : String} (h : Composed valueMarks s) := mute (lacks_of_value h)
  cases p with
  | code s => exact absurd rfl (value s)
  | text s => exact ⟨speaks.1, speaks.2, plain (.quote s)⟩
  | number x places => exact ⟨speaks.1, speaks.2, plain (composed_numberText places x)⟩
  | integer n => exact ⟨speaks.1, speaks.2, plain (composed_intText n)⟩
  | flag b =>
    have word : Lacks tellingLetters (flagText b) := by cases b <;> exact .chars _ rfl
    exact ⟨speaks.1, speaks.2, mute word⟩
  | vector v => exact ⟨speaks.1, speaks.2, plain (composed_vectorText v)⟩
  | offset base x => exact ⟨speaks.1, speaks.2.2, mute (lacks_offsetText speaks.2.1 x)⟩
  | texts items => exact ⟨speaks.1, speaks.2, plain (composed_texts items)⟩
  | forest trees =>
    refine ⟨speaks.1, speaks.2.2, fun t mem => ?_⟩
    rw [eq_nodeType_of_mem_forest mem]
    exact speaks.2.1
  | slot t => exact ⟨speaks.1, speaks.2, fun s mem => absurd mem (not_mem_slotName t s)⟩

/-- What follows the end of a word begins with no character of a name. -/
private theorem ends_or_stopped {cs : List Char} {place : Place} {ps : Line} (ends : Ends cs ps)
    (tidy : Tidy S place ps) : endsWord cs = true ∨ Stopped (bare (Line.render ps)) := by
  have first {c : Char} {ds es : List Char} (breaker : isBreaker c = true) :
      Stopped (c :: ds ++ es) := by
    intro d hd
    obtain rfl : c = d := by simpa using hd
    exact breaker
  cases ends with
  | breaker ends => exact .inl ends
  | last => exact .inr nofun
  | quoted =>
    obtain ⟨closed, left⟩ := Text.Literal.bare_quote _
    rw [render_cons, Piece.render, Text.bare_append closed, left]
    exact .inr (first (by decide))
  | cut begins breaker =>
    have quiet := tidy.1.quiet
    rw [render_cons, Piece.render, Text.bare_append quiet.closed, quiet.bare_eq, begins]
    exact .inr (first breaker)

/-- The names among the words of a line are the given ones, and behind a value a word has ended. -/
theorem known_of_speaks {place : Place} {behind : Bool} {l : Line} (tidy : Tidy S place l)
    (speaks : Speaks T behind l) :
    (behind = true → Stopped (bare l.render)) ∧
      ∀ t : Supply, t.spelling ∈ spellings (bare l.render) → T t := by
  induction l generalizing place behind with
  | nil => exact ⟨fun _ => nofun, fun t mem => absurd mem List.not_mem_nil⟩
  | cons p ps ih =>
    obtain ⟨⟨closed, -⟩, next, tidy'⟩ := piece_of_tidy tidy
    rw [render_cons, Text.bare_append closed]
    by_cases code : ∃ s, p = .code s
    · obtain ⟨s, rfl⟩ := code
      obtain ⟨⟨begins, known, ends⟩, rest⟩ := speaks
      obtain ⟨-, later⟩ := ih tidy' rest
      have split : spellings (s.toList ++ bare (Line.render ps)) =
          spellings s.toList ++ spellings (bare (Line.render ps)) := by
        rcases ends_or_stopped ends tidy' with ended | stopped
        · exact Text.spellings_append_of_endsWord ended _
        · exact Text.spellings_append_of_stopped stopped _
      rw [Piece.render, tidy.1.quiet.bare_eq, split]
      refine ⟨?_, fun t mem => (List.mem_append.1 mem).elim (known t) (later t)⟩
      rintro rfl
      cases text : s.toList with
      | nil =>
        rw [text] at begins
        cases begins
      | cons c cs =>
        rw [text] at begins
        intro d hd
        obtain rfl : c = d := by simpa using hd
        exact begins
    · -- Behind a value no word goes on, so its words and those of the rest are apart.
      obtain ⟨rfl, rest, known⟩ := speaks.of_value fun s same => code ⟨s, same⟩
      obtain ⟨stopped, later⟩ := ih tidy' rest
      rw [Text.spellings_append_of_stopped (stopped rfl)]
      refine ⟨fun true' => absurd true' Bool.false_ne_true, fun t mem => ?_⟩
      exact (List.mem_append.1 mem).elim (known t) (later t)

end Line

/-! ## What statements say -/

/-- Statements whose lines mention none of the names but the given ones. -/
def SpeaksIn (T : Supply → Prop) (ss : List Stmt) : Prop :=
  Stmt.AllIn (Speaks T false) (fun _ => True) ss

theorem SpeaksIn.imp {T T' : Supply → Prop} {ss : List Stmt} (h : SpeaksIn T ss)
    (wider : ∀ t, T t → T' t) : SpeaksIn T' ss :=
  Stmt.AllIn.imp (fun _ => Speaks.imp wider) (fun _ => id) ss h

/-- Statements that mention none of the names. -/
abbrev Silent (ss : List Stmt) : Prop := SpeaksIn (· ∈ []) ss

theorem Silent.speaksIn {T : Supply → Prop} {ss : List Stmt} (h : Silent ss) : SpeaksIn T ss :=
  SpeaksIn.imp h nofun

section Statements

variable {S : Slot → Prop} {T : Supply → Prop} {text : String}

private theorem known_of_written
    (h : Written (fun l => Tidy S .start l ∧ Speaks T false l) IsComment text) :
    ∀ t : Supply, t.spelling ∈ spellings (bare text) → T t := by
  have line (depth : Nat) {l : Line} (h : Tidy S .start l ∧ Speaks T false l) :
      ∀ t : Supply, t.spelling ∈ spellings (bare (indentation depth ++ l.render)) → T t := by
    rw [bare_indented, Text.spellings_blanks]
    exact (known_of_speaks h.1 h.2).2
  cases h with
  | code depth h => exact line depth h
  | head depth h =>
    have colon : bare ":" = [':'] := by decide
    rw [Text.bare_append (closed_indented h.1 depth), colon,
      Text.spellings_append_cons (by decide)]
    intro t mem
    exact line depth h t (by simpa [spellings] using mem)
  | comment depth h =>
    obtain ⟨closed, left⟩ := bare_comment depth (unbroken_of_isComment (isComment_commentText h))
    rw [bare_feed closed] at left
    rw [List.append_cancel_right left, indentation, String.toList_ofList]
    intro t mem
    rw [← List.append_nil (List.replicate _ _), Text.spellings_blanks] at mem
    cases mem
  | blank => exact fun t mem => absurd mem List.not_mem_nil

theorem known_of_mem_linesAll {ss : List Stmt} (tidy : TidyCode S ss) (speaks : SpeaksIn T ss)
    (mem : text ∈ Stmt.linesAll 0 ss) :
    ∀ t : Supply, t.spelling ∈ spellings (bare text) → T t := by
  have both : Stmt.AllIn (fun l => Tidy S .start l ∧ Speaks T false l) IsComment ss :=
    Stmt.AllIn.imp (fun _ => id) (fun _ => And.left) ss (Stmt.AllIn.and ss tidy speaks)
  exact known_of_written (Stmt.written_linesAll 0 ss both text mem)

end Statements

end Formwork.Source
