import Formwork.Proofs.Json.Shrinking
import Formwork.Text.Utf8

/-!
# Reading with unified line ends

A file is read with a line feed at the end of every line, whatever ended the line in its bytes. To
the reader of JSON this makes no difference: a text is accepted exactly if it is accepted with
unified line ends, and it stands for the same value (`readText_unifyLineEnds`). Between tokens both
characters are blank space, they end a number and belong to no word, and inside a string neither may
stand for itself. What differs is where a fault is reported, and which.

`Alike` relates what is answered on a text to what is answered on the unified one. Every reader
answers alike on both (`readDigits_alike`, …, `readValue_alike`). The unified text may be shorter,
and the bound on turns with it. So a loop is followed on both sides at once, each with a bound of
its own that is longer than its text (`Enough`).
-/

set_option autoImplicit false

namespace Formwork

namespace Text

theorem unifyLineEnds_cons {c : Char} (other : c ≠ '\r') (cs : List Char) :
    unifyLineEnds (c :: cs) = c :: unifyLineEnds cs := by
  rw [unifyLineEnds]
  · rintro _ rfl
    exact absurd rfl other
  · exact other

theorem exists_unifyLineEnds_return (cs : List Char) :
    ∃ rest, unifyLineEnds ('\r' :: cs) = '\n' :: rest := by
  by_cases pair : ∃ more, cs = '\n' :: more
  · obtain ⟨more, rfl⟩ := pair
    exact ⟨_, unifyLineEnds.eq_1 more⟩
  · exact ⟨_, unifyLineEnds.eq_2 cs fun more same => pair ⟨more, same⟩⟩

/-- How a text begins, and how it begins with unified line ends. -/
theorem unifyLineEnds_cases (cs : List Char) : cs = [] ∨
    (∃ c rest, cs = c :: rest ∧ c ≠ '\r' ∧ unifyLineEnds cs = c :: unifyLineEnds rest) ∨
    ∃ rest after, cs = '\r' :: rest ∧ unifyLineEnds cs = '\n' :: after := by
  cases cs with
  | nil => exact .inl rfl
  | cons c rest =>
    by_cases ret : c = '\r'
    · subst ret
      obtain ⟨after, unified⟩ := exists_unifyLineEnds_return rest
      exact .inr (.inr ⟨rest, after, rfl, unified⟩)
    · exact .inr (.inl ⟨c, rest, rfl, ret, unifyLineEnds_cons ret rest⟩)

/-- What is left after characters of a class that holds both ends of a line, or neither. -/
theorem dropWhile_unifyLineEnds {p : Char → Bool} (both : p '\r' = p '\n') (cs : List Char) :
    (unifyLineEnds cs).dropWhile p = unifyLineEnds (cs.dropWhile p) := by
  fun_induction unifyLineEnds cs with
  | case1 cs ih => cases feed : p '\n' <;> simp [feed, both, ih, unifyLineEnds]
  | case2 cs lone ih =>
    cases feed : p '\n' with
    | false => simp [feed, both, unifyLineEnds]
    | true => simp [feed, both, ih]
  | case3 c cs _ other ih =>
    cases dropped : p c with
    | false => simp [dropped, unifyLineEnds_cons other]
    | true => simp [dropped, ih]
  | case4 => rfl

/-- Characters of a class that holds no end of a line stay as they are. -/
theorem takeWhile_unifyLineEnds {p : Char → Bool} (ret : p '\r' = false) (feed : p '\n' = false)
    (cs : List Char) : (unifyLineEnds cs).takeWhile p = cs.takeWhile p := by
  fun_induction unifyLineEnds cs with
  | case1 => simp [ret, feed]
  | case2 => simp [ret, feed]
  | case3 c cs _ _ ih => simp [List.takeWhile_cons, ih]
  | case4 => rfl

/-- Any other character of the unified text is one of the text. -/
theorem eq_cons_of_unifyLineEnds {c : Char} {cs after : List Char} (other : c ≠ '\n')
    (unified : unifyLineEnds cs = c :: after) :
    ∃ rest, cs = c :: rest ∧ after = unifyLineEnds rest := by
  rcases unifyLineEnds_cases cs with rfl | ⟨d, rest, rfl, _, same⟩ | ⟨_, _, _, feed⟩
  · cases unified
  · obtain ⟨rfl, rfl⟩ := List.cons.inj (same.symm.trans unified)
    exact ⟨rest, rfl, rfl⟩
  · exact absurd (List.cons.inj (feed.symm.trans unified)).1.symm other

/-- Another character than the ends of a line begins both texts or neither. -/
theorem begins_cases {c : Char} (ret : c ≠ '\r') (feed : c ≠ '\n') (cs : List Char) :
    (∃ rest, cs = c :: rest ∧ unifyLineEnds cs = c :: unifyLineEnds rest) ∨
      (∀ rest, cs ≠ c :: rest) ∧ ∀ rest, unifyLineEnds cs ≠ c :: rest := by
  by_cases begins : ∃ rest, cs = c :: rest
  · obtain ⟨rest, rfl⟩ := begins
    exact .inl ⟨rest, rfl, unifyLineEnds_cons ret rest⟩
  · refine .inr ⟨fun rest same => begins ⟨rest, same⟩, fun rest same => begins ?_⟩
    obtain ⟨rest, same, _⟩ := eq_cons_of_unifyLineEnds feed same
    exact ⟨rest, same⟩

end Text

namespace Json

open Text

variable {α β : Type}

/-- The answers to a text and to the unified one: one value before one text, or a fault each. -/
inductive Alike : Except Fault (α × List Char) → Except Fault (α × List Char) → Prop where
  | ok (a : α) (rest : List Char) : Alike (.ok (a, rest)) (.ok (a, unifyLineEnds rest))
  | error {f g : Fault} : Alike (.error f) (.error g)

namespace Alike

variable {r r' : Except Fault (α × List Char)}

theorem bind {next next' : α × List Char → Except Fault (β × List Char)} (h : Alike r r')
    (rest : ∀ a rest, r = .ok (a, rest) → r' = .ok (a, unifyLineEnds rest) →
      Alike (next (a, rest)) (next' (a, unifyLineEnds rest))) :
    Alike (r >>= next) (r' >>= next') := by
  cases h with
  | ok a cs => exact rest a cs rfl rfl
  | error => exact .error

/-- A step that makes another value of the one that is read. -/
theorem map (f : α → β) (h : Alike r r') :
    Alike (r.map fun (a, rest) => (f a, rest)) (r'.map fun (a, rest) => (f a, rest)) := by
  cases h with
  | ok a rest => exact .ok (f a) rest
  | error => exact .error

end Alike

/-- A text is no longer than another one, and no longer either with unified line ends. -/
structure NoLonger (rest cs : List Char) : Prop where
  plain : rest.length ≤ cs.length
  unified : (unifyLineEnds rest).length ≤ (unifyLineEnds cs).length

theorem NoLonger.trans {as bs cs : List Char} (h : NoLonger as bs) (h' : NoLonger bs cs) :
    NoLonger as cs :=
  ⟨Nat.le_trans h.plain h'.plain, Nat.le_trans h.unified h'.unified⟩

/-- What follows two readers that answer alike and leave no more than they are given. -/
theorem Alike.leave {r r' : Except Fault (α × List Char)}
    {next next' : α × List Char → Except Fault (β × List Char)} {cs : List Char} (h : Alike r r')
    (leaves : Leaves cs.length r) (leaves' : Leaves (unifyLineEnds cs).length r')
    (rest : ∀ a rest, NoLonger rest cs → Alike (next (a, rest)) (next' (a, unifyLineEnds rest))) :
    Alike (r >>= next) (r' >>= next') :=
  h.bind fun a after plain unified =>
    rest a after ⟨leaves.length_le plain, leaves'.length_le unified⟩

/-- The first character after blank space, which is no end of a line, and what comes behind it. -/
structure Token (cs : List Char) (c : Char) (rest : List Char) : Prop where
  other : c ≠ '\r'
  plain : skipSpace cs = c :: rest
  unified : skipSpace (unifyLineEnds cs) = c :: unifyLineEnds rest

theorem skipSpace_unifyLineEnds (cs : List Char) :
    skipSpace (unifyLineEnds cs) = unifyLineEnds (skipSpace cs) :=
  dropWhile_unifyLineEnds rfl cs

theorem skipSpace_cases (cs : List Char) :
    skipSpace cs = [] ∧ skipSpace (unifyLineEnds cs) = [] ∨ ∃ c rest, Token cs c rest := by
  have unified := skipSpace_unifyLineEnds cs
  cases skipped : skipSpace cs with
  | nil => exact .inl ⟨rfl, by rw [unified, skipped]; rfl⟩
  | cons c rest =>
    have other : c ≠ '\r' := by
      rintro rfl
      have token := List.head?_dropWhile_not isSpace cs
      rw [show cs.dropWhile isSpace = '\r' :: rest from skipped] at token
      cases token
    exact .inr ⟨c, rest, other, skipped, by rw [unified, skipped, unifyLineEnds_cons other]⟩

namespace Token

variable {cs rest : List Char} {c : Char}

theorem noLonger (h : Token cs c rest) : NoLonger rest cs :=
  ⟨Nat.le_of_lt (length_of_skipSpace h.plain), Nat.le_of_lt (length_of_skipSpace h.unified)⟩

theorem cons_noLonger (h : Token cs c rest) : NoLonger (c :: rest) cs :=
  ⟨length_of_skipSpace h.plain,
    by rw [unifyLineEnds_cons h.other]; exact length_of_skipSpace h.unified⟩

end Token

theorem readWord_alike (value : Json) {ws : List Char} (ret : '\r' ∉ ws) (feed : '\n' ∉ ws)
    (cs : List Char) : Alike (readWord value ws cs) (readWord value ws (unifyLineEnds cs)) := by
  induction ws generalizing cs with
  | nil => exact .ok value cs
  | cons w ws ih =>
    obtain ⟨ret_ne, ret⟩ := not_or.1 (mt List.mem_cons.2 ret)
    obtain ⟨feed_ne, feed⟩ := not_or.1 (mt List.mem_cons.2 feed)
    rcases unifyLineEnds_cases cs with rfl | ⟨c, rest, rfl, _, unified⟩ |
      ⟨rest, after, rfl, unified⟩
    · exact .error
    · rw [unified, readWord, readWord]
      split
      · exact ih ret feed rest
      · exact .error
    · rw [unified, readWord, readWord, if_neg ret_ne, if_neg feed_ne]
      exact .error

/-! ## Numbers -/

theorem readDigits_alike (cs : List Char) :
    Alike (readDigits cs) (readDigits (unifyLineEnds cs)) := by
  rcases unifyLineEnds_cases cs with rfl | ⟨c, rest, rfl, _, unified⟩ | ⟨rest, after, rfl, unified⟩
  · exact .error
  · cases digit : c.isDigit with
    | false => simpa [unified, readDigits, digit] using Alike.error
    | true =>
      have same : (c :: unifyLineEnds rest).takeWhile Char.isDigit =
          (c :: rest).takeWhile Char.isDigit := by
        rw [← unified]
        exact takeWhile_unifyLineEnds rfl rfl _
      have left : (c :: unifyLineEnds rest).dropWhile Char.isDigit =
          unifyLineEnds ((c :: rest).dropWhile Char.isDigit) := by
        rw [← unified]
        exact dropWhile_unifyLineEnds rfl _
      rw [unified, readDigits, readDigits, if_pos digit, if_pos digit, same, left]
      exact .ok _ _
  · rw [unified]
    exact .error

theorem readWhole_alike (cs : List Char) : Alike (readWhole cs) (readWhole (unifyLineEnds cs)) := by
  rcases begins_cases (c := '0') (by decide) (by decide) cs with ⟨rest, rfl, zero⟩ |
    ⟨plain, unified⟩
  · rw [zero]
    rcases unifyLineEnds_cases rest with rfl | ⟨c, more, rfl, _, unified⟩ |
      ⟨more, after, rfl, unified⟩
    · exact readDigits_alike ['0']
    · rw [unified, readWhole, readWhole]
      split
      · exact .error
      · rw [← unified]
        exact .ok _ _
    · rw [unified, readWhole, readWhole, ← unified]
      exact .ok _ _
  · rw [readWhole.eq_2 cs fun c rest => plain (c :: rest),
      readWhole.eq_2 _ fun c rest => unified (c :: rest)]
    exact readDigits_alike cs

theorem readFraction_alike (cs : List Char) :
    Alike (readFraction cs) (readFraction (unifyLineEnds cs)) := by
  rcases begins_cases (c := '.') (by decide) (by decide) cs with ⟨rest, rfl, point⟩ |
    ⟨plain, unified⟩
  · rw [point]
    exact (readDigits_alike rest).map some
  · rw [readFraction.eq_2 cs plain, readFraction.eq_2 _ unified]
    exact .ok none cs

/-- The sign of an exponent is the same, where it has one, and so is what comes behind it. -/
theorem sign_unifyLineEnds (cs : List Char) :
    ((unifyLineEnds cs).take 1).filter (fun s => s == '+' || s == '-') =
        (cs.take 1).filter (fun s => s == '+' || s == '-') ∧
      (unifyLineEnds cs).drop ((cs.take 1).filter fun s => s == '+' || s == '-').length =
        unifyLineEnds (cs.drop ((cs.take 1).filter fun s => s == '+' || s == '-').length) := by
  rcases unifyLineEnds_cases cs with rfl | ⟨c, rest, rfl, _, unified⟩ | ⟨rest, after, rfl, unified⟩
  · exact ⟨rfl, rfl⟩
  · rw [unified]
    cases sign : (c == '+' || c == '-') with
    | false => simp [sign, unified]
    | true => simp [sign]
  · rw [unified]
    exact ⟨rfl, unified.symm⟩

theorem readExponent_alike (cs : List Char) :
    Alike (readExponent cs) (readExponent (unifyLineEnds cs)) := by
  rcases unifyLineEnds_cases cs with rfl | ⟨c, rest, rfl, _, unified⟩ | ⟨rest, after, rfl, unified⟩
  · exact .ok none []
  · rw [unified, readExponent, readExponent]
    split
    · obtain ⟨same, left⟩ := sign_unifyLineEnds rest
      dsimp only
      rw [same, left]
      exact (readDigits_alike _).map fun ds => some (Exponent.mk _ ds)
    · rw [← unified]
      exact .ok none _
  · rw [unified, readExponent, readExponent, if_neg (by decide), if_neg (by decide), ← unified]
    exact .ok none _

/-- Whether a number is too long does not depend on where it begins. -/
theorem checkLength_alike {r r' : Except Fault (α × List Char)} (h : Alike r r') (length : Nat)
    (start start' : List Char) :
    Alike (checkLength length start >>= fun _ => r)
      (checkLength length start' >>= fun _ => r') := by
  unfold checkLength
  split
  · exact .error
  · exact h

theorem readMagnitude_alike (negative : Bool) (cs : List Char) :
    Alike (readMagnitude negative cs) (readMagnitude negative (unifyLineEnds cs)) := by
  refine (readWhole_alike cs).bind fun whole r₁ _ _ => checkLength_alike ?_ _ _ _
  refine (readFraction_alike r₁).bind fun fraction r₂ _ _ => ?_
  refine (readExponent_alike r₂).bind fun exponent r₃ _ _ => checkLength_alike ?_ _ _ _
  exact .ok _ r₃

theorem readNegative_alike (cs : List Char) :
    Alike (readNegative cs) (readNegative (unifyLineEnds cs)) := by
  rcases begins_cases (c := 'I') (by decide) (by decide) cs with ⟨rest, rfl, word⟩ |
    ⟨plain, unified⟩
  · rw [word]
    exact readWord_alike _ (by decide) (by decide) rest
  · rw [readNegative.eq_2 cs plain, readNegative.eq_2 _ unified]
    exact readMagnitude_alike true cs

/-! ## Strings -/

theorem readHex_alike (count n : Nat) (cs : List Char) :
    Alike (readHex count n cs) (readHex count n (unifyLineEnds cs)) := by
  induction count generalizing n cs with
  | zero => exact .ok n cs
  | succ count ih =>
    rcases unifyLineEnds_cases cs with rfl | ⟨c, rest, rfl, _, unified⟩ |
      ⟨rest, after, rfl, unified⟩
    · exact .error
    · rw [unified, readHex, readHex]
      split
      · exact ih _ rest
      · exact .error
    · rw [unified]
      exact .error

/-- There is no second half without a backslash and its letter. -/
theorem exists_readLowSurrogate_error {cs : List Char} (high : Nat)
    (none : ∀ digits, cs ≠ '\\' :: 'u' :: digits) : ∃ f, readLowSurrogate high cs = .error f := by
  unfold readLowSurrogate
  split
  case h_3 digits => exact absurd rfl (none digits)
  all_goals exact ⟨_, rfl⟩

theorem readLowSurrogate_alike (high : Nat) (cs : List Char) :
    Alike (readLowSurrogate high cs) (readLowSurrogate high (unifyLineEnds cs)) := by
  by_cases escape : ∃ digits, cs = '\\' :: 'u' :: digits
  · obtain ⟨digits, rfl⟩ := escape
    rw [unifyLineEnds_cons (by decide), unifyLineEnds_cons (by decide)]
    refine (readHex_alike 4 0 digits).bind fun low rest _ _ => ?_
    dsimp only
    split
    · exact .ok _ rest
    · exact .error
  · have unified : ∀ digits, unifyLineEnds cs ≠ '\\' :: 'u' :: digits := by
      intro digits same
      obtain ⟨rest, rfl, letter⟩ := eq_cons_of_unifyLineEnds (by decide) same
      obtain ⟨digits, rfl, _⟩ := eq_cons_of_unifyLineEnds (by decide) letter.symm
      exact escape ⟨digits, rfl⟩
    obtain ⟨f, plain⟩ := exists_readLowSurrogate_error high fun digits same => escape ⟨digits, same⟩
    obtain ⟨g, unified⟩ := exists_readLowSurrogate_error high unified
    rw [plain, unified]
    exact .error

theorem readUnicodeEscape_alike (cs : List Char) :
    Alike (readUnicodeEscape cs) (readUnicodeEscape (unifyLineEnds cs)) := by
  refine (readHex_alike 4 0 cs).bind fun n rest _ _ => ?_
  dsimp only
  split_ifs
  · exact .error
  · exact readLowSurrogate_alike n rest
  · exact .ok _ rest

/-- The characters that make an escape with the backslash before them. -/
def escapable : List Char := ['"', '\\', '/', 'b', 'f', 'n', 'r', 't', 'u']

theorem readEscape_of_not_mem {c : Char} (rest : List Char) (other : c ∉ escapable) :
    readEscape (c :: rest) = .error ⟨.invalidEscape, c :: rest⟩ := by
  unfold readEscape
  split
  case h_1 same => cases same
  case h_11 => rfl
  all_goals
    next same =>
      obtain ⟨rfl, rfl⟩ := List.cons.inj same
      exact absurd (by decide) other

theorem readEscape_alike (cs : List Char) :
    Alike (readEscape cs) (readEscape (unifyLineEnds cs)) := by
  rcases unifyLineEnds_cases cs with rfl | ⟨c, rest, rfl, _, unified⟩ | ⟨rest, after, rfl, unified⟩
  · exact .error
  · rw [unified]
    by_cases known : c ∈ escapable
    · simp only [escapable, List.mem_cons, List.not_mem_nil, or_false] at known
      rcases known with rfl | rfl | rfl | rfl | rfl | rfl | rfl | rfl | rfl
      iterate 8 exact .ok _ rest
      exact readUnicodeEscape_alike rest
    · rw [readEscape_of_not_mem _ known, readEscape_of_not_mem _ known]
      exact .error
  · rw [unified, readEscape_of_not_mem _ (by decide), readEscape_of_not_mem _ (by decide)]
    exact .error

/-! ## Loops -/

/-- A bound on turns for a text, and one for the unified text. -/
structure Enough (turns turns' : Nat) (cs : List Char) : Prop where
  plain : cs.length < turns
  unified : (unifyLineEnds cs).length < turns'

namespace Enough

variable {turns turns' : Nat} {cs rest : List Char}

theorem mono (h : Enough turns turns' cs) (le : NoLonger rest cs) : Enough turns turns' rest :=
  ⟨Nat.lt_of_le_of_lt le.plain h.plain, Nat.lt_of_le_of_lt le.unified h.unified⟩

/-- A turn that reads a character leaves enough turns. -/
theorem next {c : Char} (h : Enough (turns + 1) (turns' + 1) cs) (le : NoLonger (c :: rest) cs)
    (other : c ≠ '\r') : Enough turns turns' rest := by
  have unified := le.unified
  rw [unifyLineEnds_cons other] at unified
  exact ⟨Nat.lt_of_lt_of_le le.plain (Nat.le_of_lt_succ h.plain),
    Nat.lt_of_lt_of_le unified (Nat.le_of_lt_succ h.unified)⟩

end Enough

theorem readChars_alike {turns turns' : Nat} {cs : List Char} (read : List Char)
    (enough : Enough turns turns' cs) :
    Alike (readChars turns read cs) (readChars turns' read (unifyLineEnds cs)) := by
  induction turns generalizing turns' read cs with
  | zero => exact absurd enough.plain (Nat.not_lt_zero _)
  | succ turns ih =>
    cases turns' with
    | zero => exact absurd enough.unified (Nat.not_lt_zero _)
    | succ turns' =>
      rcases unifyLineEnds_cases cs with rfl | ⟨c, rest, rfl, other, unified⟩ |
        ⟨rest, after, rfl, unified⟩
      · exact .error
      · have behind : Enough turns turns' rest :=
          enough.next ⟨Nat.le_refl _, Nat.le_refl _⟩ other
        rw [unified, readChars, readChars]
        split_ifs
        · exact .ok _ rest
        · refine (readEscape_alike rest).leave (readEscape_leaves _) (readEscape_leaves _) ?_
          intro d more le
          exact ih _ (behind.mono le)
        · exact .error
        · exact ih _ behind
      -- A return is a control character, and so is the line feed that it becomes.
      · rw [unified]
        exact .error

/-! ## Containers -/

/-- Two readers of values that answer alike while the turns are enough, and read a character. -/
structure Twins (turns turns' : Nat) (value value' : Reader Json) : Prop where
  alike : ∀ {cs}, Enough turns turns' cs → Alike (value cs) (value' (unifyLineEnds cs))
  leaves : ∀ cs, Leaves (cs.length - 1) (value cs)
  leaves' : ∀ cs, Leaves (cs.length - 1) (value' cs)

section Containers

variable {value value' : Reader Json} {turns turns' : Nat} {cs : List Char}

/-- A value at a token, and what is read behind it. -/
theorem Twins.bind (twins : Twins turns turns' value value')
    {next next' : Json × List Char → Except Fault (β × List Char)} {c : Char} {rest : List Char}
    (token : Token cs c rest) (enough : Enough turns turns' cs)
    (behind : ∀ v after, NoLonger after cs →
      Alike (next (v, after)) (next' (v, unifyLineEnds after))) :
    Alike (value (c :: rest) >>= next) (value' (c :: unifyLineEnds rest) >>= next') := by
  have alike := twins.alike (enough.mono token.cons_noLonger)
  rw [unifyLineEnds_cons token.other] at alike
  exact alike.leave (twins.leaves (c :: rest)) (twins.leaves' (c :: unifyLineEnds rest))
    fun v after le => behind v after (le.trans token.noLonger)

theorem readItems_alike (twins : Twins turns turns' value value') {items items' : Nat}
    (read : List Json) (all : Enough turns turns' cs) (enough : Enough items items' cs) :
    Alike (readItems value items read cs) (readItems value' items' read (unifyLineEnds cs)) := by
  induction items generalizing items' read cs with
  | zero => exact absurd enough.plain (Nat.not_lt_zero _)
  | succ items ih =>
    cases items' with
    | zero => exact absurd enough.unified (Nat.not_lt_zero _)
    | succ items' =>
      rw [readItems, readItems]
      rcases skipSpace_cases cs with ⟨plain, unified⟩ | ⟨c, rest, first⟩
      · rw [plain, unified]
        exact .error
      · have behind := enough.next first.cons_noLonger first.other
        rw [first.plain, first.unified]
        dsimp only
        split_ifs
        · exact .ok _ rest
        · rcases skipSpace_cases rest with ⟨plain, unified⟩ | ⟨d, more, second⟩
          · rw [plain, unified]
            exact .error
          · rw [second.plain, second.unified]
            dsimp only
            split
            · exact .error
            · refine twins.bind second (all.mono first.noLonger) fun item after le => ?_
              exact ih _ ((all.mono first.noLonger).mono le) (behind.mono le)
        · exact .error

theorem readList_alike (twins : Twins turns turns' value value') (enough : Enough turns turns' cs) :
    Alike (readList value turns cs) (readList value' turns' (unifyLineEnds cs)) := by
  rw [readList, readList]
  rcases skipSpace_cases cs with ⟨plain, unified⟩ | ⟨c, rest, first⟩
  · rw [plain, unified]
    exact .error
  · rw [first.plain, first.unified]
    dsimp only
    split
    · exact .ok _ rest
    · refine twins.bind first enough fun item after le => ?_
      exact readItems_alike twins _ (enough.mono le) (enough.mono le)

theorem readMember_alike (twins : Twins turns turns' value value')
    (enough : Enough turns turns' cs) :
    Alike (readMember value turns cs) (readMember value' turns' (unifyLineEnds cs)) := by
  refine (readChars_alike [] enough).leave (readChars_leaves ..) (readChars_leaves ..) ?_
  intro key r₁ le
  dsimp only
  rcases skipSpace_cases r₁ with ⟨plain, unified⟩ | ⟨c, r₂, first⟩
  · rw [plain, unified]
    exact .error
  · rw [first.plain, first.unified]
    dsimp only
    split
    · rcases skipSpace_cases r₂ with ⟨plain, unified⟩ | ⟨d, more, second⟩
      · rw [plain, unified]
        exact .error
      · rw [second.plain, second.unified]
        have enough₂ := enough.mono (first.noLonger.trans le)
        exact twins.bind second enough₂ fun v after _ => .ok (key, v) after
    · exact .error

theorem readMembers_alike (twins : Twins turns turns' value value') {members members' : Nat}
    (read : List (String × Json)) (all : Enough turns turns' cs)
    (enough : Enough members members' cs) :
    Alike (readMembers value turns members read cs)
      (readMembers value' turns' members' read (unifyLineEnds cs)) := by
  induction members generalizing members' read cs with
  | zero => exact absurd enough.plain (Nat.not_lt_zero _)
  | succ members ih =>
    cases members' with
    | zero => exact absurd enough.unified (Nat.not_lt_zero _)
    | succ members' =>
      rw [readMembers, readMembers]
      rcases skipSpace_cases cs with ⟨plain, unified⟩ | ⟨c, rest, first⟩
      · rw [plain, unified]
        exact .error
      · have behind := enough.next first.cons_noLonger first.other
        rw [first.plain, first.unified]
        dsimp only
        split_ifs
        · exact .ok _ rest
        · rcases skipSpace_cases rest with ⟨plain, unified⟩ | ⟨d, more, second⟩
          · rw [plain, unified]
            exact .error
          · rw [second.plain, second.unified]
            dsimp only
            split_ifs
            · have all₂ := all.mono (second.noLonger.trans first.noLonger)
              refine (readMember_alike twins all₂).leave (readMember_leaves twins.leaves ..)
                (readMember_leaves twins.leaves' ..) fun member after le => ?_
              exact ih _ (all₂.mono le) (behind.mono (le.trans second.noLonger))
            · exact .error
            · exact .error
        · exact .error

theorem readObject_alike (twins : Twins turns turns' value value')
    (enough : Enough turns turns' cs) :
    Alike (readObject value turns cs) (readObject value' turns' (unifyLineEnds cs)) := by
  rw [readObject, readObject]
  rcases skipSpace_cases cs with ⟨plain, unified⟩ | ⟨c, rest, first⟩
  · rw [plain, unified]
    exact .error
  · rw [first.plain, first.unified]
    dsimp only
    split_ifs
    · exact .ok _ rest
    · have behind := enough.mono first.noLonger
      refine (readMember_alike twins behind).leave (readMember_leaves twins.leaves ..)
        (readMember_leaves twins.leaves' ..) fun member after le => ?_
      exact readMembers_alike twins _ (behind.mono le) (behind.mono le)
    · exact .error

end Containers

/-! ## Values -/

theorem readValue_alike {turns turns' : Nat} (room : Nat) {cs : List Char}
    (enough : Enough turns turns' cs) :
    Alike (readValue turns room cs) (readValue turns' room (unifyLineEnds cs)) := by
  induction room generalizing cs with
  | zero =>
    rcases unifyLineEnds_cases cs with rfl | ⟨c, rest, rfl, _, unified⟩ |
      ⟨rest, after, rfl, unified⟩
    · exact .error
    · rw [unified]
      exact .error
    · rw [unified]
      exact .error
  | succ room ih =>
    have twins : Twins turns turns' (readValue turns room) (readValue turns' room) :=
      ⟨ih, readValue_leaves turns room, readValue_leaves turns' room⟩
    rcases unifyLineEnds_cases cs with rfl | ⟨c, rest, rfl, other, unified⟩ |
      ⟨rest, after, rfl, unified⟩
    · exact .error
    · have behind : Enough turns turns' rest :=
        enough.mono ⟨Nat.le_succ _, by rw [unified]; exact Nat.le_succ _⟩
      rw [unified]
      unfold readValue
      split
      · exact (readObject_alike twins behind).map Json.object
      · exact (readList_alike twins behind).map Json.list
      · exact (readChars_alike [] behind).map Json.text
      · exact readWord_alike _ (by decide) (by decide) rest
      · exact readWord_alike _ (by decide) (by decide) rest
      · exact readWord_alike _ (by decide) (by decide) rest
      · exact readWord_alike _ (by decide) (by decide) rest
      · exact readWord_alike _ (by decide) (by decide) rest
      · exact readNegative_alike rest
      · split
        · rw [← unified]
          exact readMagnitude_alike ..
        · exact .error
    · rw [unified]
      exact .error

/-- A text is accepted as it is with unified line ends, and stands for the same value. -/
theorem readText_unifyLineEnds (cs : List Char) (v : Json) :
    readText (unifyLineEnds cs) = .ok v ↔ readText cs = .ok v := by
  have same := skipSpace_unifyLineEnds cs
  have enough : Enough (cs.length + 1) ((unifyLineEnds cs).length + 1) (skipSpace cs) :=
    ⟨Nat.lt_succ_of_le (length_skipSpace_le cs),
      by rw [← same]; exact Nat.lt_succ_of_le (length_skipSpace_le _)⟩
  have alike := readValue_alike maxOpen enough
  rw [readText, readText, same]
  generalize readValue (cs.length + 1) maxOpen (skipSpace cs) = r at alike ⊢
  generalize readValue ((unifyLineEnds cs).length + 1) maxOpen (unifyLineEnds (skipSpace cs)) = r'
    at alike ⊢
  cases alike with
  | error => exact ⟨nofun, nofun⟩
  | ok w rest =>
    dsimp only [bind, Except.bind]
    rcases skipSpace_cases rest with ⟨plain, unified⟩ | ⟨c, more, token⟩
    · rw [plain, unified]
    · rw [token.plain, token.unified]
      exact ⟨nofun, nofun⟩

/-- What a text is read as does not depend on how its lines end. -/
theorem read_unifyLines (s : String) (v : Json) : read (unifyLines s) = .ok v ↔ read s = .ok v := by
  have accepts (s : String) : read s = .ok v ↔ readText s.toList = .ok v := by
    rw [read]
    cases readText s.toList with
    | ok w => rw [Except.ok.injEq, Except.ok.injEq]
    | error f => exact ⟨nofun, nofun⟩
  rw [accepts, accepts, unifyLines, String.toList_ofList]
  exact readText_unifyLineEnds s.toList v

end Json

end Formwork
