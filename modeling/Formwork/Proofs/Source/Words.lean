import Formwork.Proofs.Source.Blocks
import Formwork.Proofs.Source.Names

/-!
# Words of generated code

A word of a text is a whole run of characters of names; the words of bare code are its keywords,
its numerals and the names that it mentions, none of them from a literal or a comment. `codeLines`
are the lines of bare code, and `firstMention?` is the first of them with a given word.

Two texts have the words of each, one after the other, where they are `Parted`: the first ends in a
character that is not one of a name, or the second begins with such a character. Of what a design
puts into a line one need not know the words. It is enough to know some letters that it `Lacks`,
since a word with such a letter is not among its words.
-/

set_option autoImplicit false

namespace Formwork

namespace Text

/-- A character that no word goes on with. Beyond ASCII every character may be one of a word. -/
def isBreaker (c : Char) : Bool := !isNameChar c && c.toNat < 0x80

/-- The words of a text, each as a list of its characters. -/
def spellings (cs : List Char) : List (List Char) :=
  (cs.splitOnP isBreaker).filter fun w => !w.isEmpty

/-- The words of a text: its whole runs of characters of names. -/
def words (cs : List Char) : List String := (spellings cs).map String.ofList

example : words "from_x.y(z2, 1.0)".toList = ["from_x", "y", "z2", "1", "0"] := by decide

/-- The lines of the bare code of a text. -/
def codeLines (code : String) : List (List Char) := (bare code).splitOn '\n'

/-- The first line of bare code with the word. -/
def firstMention? (word : String) (code : String) : Option (List Char) :=
  (codeLines code).find? fun line => (words line).contains word

theorem mem_words_ofList {w cs : List Char} : String.ofList w ∈ words cs ↔ w ∈ spellings cs :=
  List.mem_map_of_injective fun _ _ => String.ofList_injective

/-! ## Texts one after the other -/

theorem spellings_append_cons {d : Char} (breaker : isBreaker d = true) (cs ds : List Char) :
    spellings (cs ++ d :: ds) = spellings cs ++ spellings ds := by
  rw [spellings, List.splitOnP_append_cons cs ds breaker, List.filter_append]
  rfl

theorem spellings_cons {d : Char} (breaker : isBreaker d = true) (ds : List Char) :
    spellings (d :: ds) = spellings ds := spellings_append_cons breaker [] ds

/-- Does the text end in a character that no word goes on with? -/
def endsWord (cs : List Char) : Bool := cs.getLast?.any isBreaker

/-- The text is empty or begins with a character that no word goes on with. -/
def Stopped (ds : List Char) : Prop := ∀ d ∈ ds.head?, isBreaker d = true

theorem spellings_append_of_endsWord {cs : List Char} (ends : endsWord cs = true)
    (ds : List Char) : spellings (cs ++ ds) = spellings cs ++ spellings ds := by
  rw [endsWord, Option.any_eq_true] at ends
  obtain ⟨d, last, breaker⟩ := ends
  have split : cs = cs.dropLast ++ [d] := (List.dropLast_append_getLast? d last).symm
  have left : spellings cs = spellings cs.dropLast := by
    conv_lhs => rw [split]
    rw [spellings_append_cons breaker]
    exact List.append_nil _
  conv_lhs => rw [split]
  rw [List.append_assoc, List.singleton_append, spellings_append_cons breaker, left]

theorem spellings_append_of_stopped {ds : List Char} (stopped : Stopped ds) (cs : List Char) :
    spellings (cs ++ ds) = spellings cs ++ spellings ds := by
  cases ds with
  | nil => rw [List.append_nil]; exact (List.append_nil _).symm
  | cons d ds =>
    have breaker : isBreaker d = true := stopped d rfl
    rw [spellings_append_cons breaker, spellings_cons breaker]

theorem spellings_blanks (n : Nat) (cs : List Char) :
    spellings (List.replicate n ' ' ++ cs) = spellings cs := by
  induction n with
  | zero => rfl
  | succ n ih => rw [List.replicate_succ, List.cons_append, spellings_cons (by decide), ih]

/-- A text of characters of names is one word. -/
theorem spellings_name {cs : List Char} (name : ∀ c ∈ cs, isNameChar c = true) (some : cs ≠ []) :
    spellings cs = [cs] := by
  have inside : ∀ c ∈ cs, isBreaker c = false := by
    intro c hc
    rw [isBreaker, name c hc]
    rfl
  rw [spellings, List.splitOnP_eq_singleton inside]
  exact List.filter_cons_of_pos (by simpa using some)

theorem mem_of_mem_splitOnP {p : Char → Bool} {cs w : List Char} (mem : w ∈ cs.splitOnP p) :
    ∀ c ∈ w, c ∈ cs := by
  induction cs generalizing w with
  | nil =>
    rw [List.splitOnP_nil, List.mem_singleton] at mem
    subst mem
    exact fun _ => id
  | cons d cs ih =>
    rw [List.splitOnP_cons_eq_if_modifyHead] at mem
    split at mem
    next =>
      rcases List.mem_cons.1 mem with rfl | later
      · exact nofun
      · exact fun c hc => List.mem_cons_of_mem d (ih later c hc)
    next =>
      cases rest : cs.splitOnP p with
      | nil =>
        rw [rest] at mem
        cases mem
      | cons u us =>
        rw [rest] at mem ih
        rcases List.mem_cons.1 mem with rfl | later
        · intro c hc
          rcases List.mem_cons.1 hc with rfl | inside
          · exact List.mem_cons_self
          · exact List.mem_cons_of_mem d (ih List.mem_cons_self c inside)
        · exact fun c hc => List.mem_cons_of_mem d (ih (List.mem_cons_of_mem u later) c hc)

/-- The characters of a word are characters of the text. -/
theorem mem_of_mem_spellings {cs w : List Char} (mem : w ∈ spellings cs) : ∀ c ∈ w, c ∈ cs :=
  mem_of_mem_splitOnP (List.mem_filter.1 mem).1

/-! ## Letters that a text lacks -/

/-- The scanner is in code after the text, and none of the letters is in its bare code. -/
structure Lacks (letters : List Char) (s : String) : Prop where
  closed : Closed s
  absent : ∀ c ∈ bare s, c ∉ letters

namespace Lacks

variable {letters : List Char}

theorem chars (cs : List Char) (h : cs.all (fun c => isQuiet c && !letters.contains c) = true) :
    Lacks letters (String.ofList cs) := by
  have each : ∀ c ∈ cs, isQuiet c = true ∧ c ∉ letters := by
    intro c hc
    simpa using List.all_eq_true.1 h c hc
  have quiet : Quiet (String.ofList cs) := by
    rw [Quiet, String.toList_ofList]
    exact fun c hc => (each c hc).1
  refine ⟨quiet.closed, ?_⟩
  rw [quiet.bare_eq, String.toList_ofList]
  exact fun c hc => (each c hc).2

theorem append {s t : String} (hs : Lacks letters s) (ht : Lacks letters t) :
    Lacks letters (s ++ t) := by
  refine ⟨hs.closed.append ht.closed, ?_⟩
  rw [bare_append hs.closed]
  exact List.forall_mem_append.2 ⟨hs.absent, ht.absent⟩

theorem of_composed {marks : List Char} {s : String} (h : Composed marks s)
    (apart : letters.all (fun c => !('"' :: marks).contains c) = true) : Lacks letters s := by
  refine ⟨h.closed, fun c hc letter => ?_⟩
  have absent := List.all_eq_true.1 apart c letter
  rw [List.contains_iff_mem.2 (h.bare_mem c hc)] at absent
  cases absent

/-- A word with one of the letters is not a word of the text. -/
theorem not_mem_spellings {s : String} (h : Lacks letters s) {w : List Char} {c : Char}
    (letter : c ∈ letters) (mem : c ∈ w) : w ∉ spellings (bare s) := by
  intro listed
  exact h.absent c (mem_of_mem_spellings listed c mem) letter

end Lacks

end Text

namespace Source

open Text (Closed bare bare_append spellings spellings_append_cons)

/-! ## Lines -/

/-- The end of a line is kept where the scanner is in code after it. -/
theorem bare_feed {text : String} (closed : Closed (text ++ "\n")) :
    bare (text ++ "\n") = bare text ++ ['\n'] := by
  have kept (s : Text.Scanner) (code : s.next '\n' = .code) : s.kept ['\n'] = ['\n'] := by
    cases s with
    | code => rfl
    | literal q =>
      rw [Text.Scanner.next] at code
      split at code
      next ends =>
        have keeps : (Text.Scanner.literal q).keeps '\n' = true := decide_eq_true ends
        rw [Text.Scanner.kept, if_pos keeps, Text.Scanner.kept]
      next => split at code <;> cases code
    | escaped q => cases code
    | comment => rfl
  rw [Closed, String.toList_append, Text.Scanner.after_append] at closed
  rw [bare, String.toList_append, Text.Scanner.kept_append]
  exact congrArg (_ ++ ·) (kept _ closed)

section Texts

variable {S : Slot → Prop} {texts : List String}

private theorem bareLines_cons_of_written {text : String}
    (h : Written (Tidy S .start) IsComment text) (texts : List String) :
    bareLines (text :: texts) = bare text ++ '\n' :: bareLines texts := by
  have closed := closed_of_written h
  rw [bareLines, List.map_cons, String.join_cons, bare_append closed, bare_feed closed,
    List.append_assoc]
  rfl

/-- Lines are found again in the bare code, and after the last one there is nothing. -/
theorem splitOn_bareLines (h : ∀ text ∈ texts, Written (Tidy S .start) IsComment text) :
    (bareLines texts).splitOn '\n' = texts.map bare ++ [[]] := by
  induction texts with
  | nil => rfl
  | cons text texts ih =>
    have first := h text List.mem_cons_self
    have rest := ih fun t ht => h t (List.mem_cons_of_mem text ht)
    have unbroken : ∀ c ∈ bare text, (c == '\n') = false := by
      intro c hc
      have none := Text.not_mem_bare_of_unbroken (unbroken_of_written first)
      exact beq_eq_false_iff_ne.2 fun same => none (same ▸ hc)
    rw [bareLines_cons_of_written first, List.splitOn,
      List.splitOnP_append_cons_of_forall_mem unbroken '\n' rfl]
    exact congrArg (bare text :: ·) rest

/-- No word goes over the end of a line. -/
theorem spellings_bareLines (h : ∀ text ∈ texts, Written (Tidy S .start) IsComment text) :
    spellings (bareLines texts) = texts.flatMap fun text => spellings (bare text) := by
  induction texts with
  | nil => rfl
  | cons text texts ih =>
    have first := h text List.mem_cons_self
    have rest := ih fun t ht => h t (List.mem_cons_of_mem text ht)
    rw [bareLines_cons_of_written first, spellings_append_cons (by decide), rest,
      List.flatMap_cons]

end Texts

end Source

end Formwork
