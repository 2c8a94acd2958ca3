import Formwork.Proofs.Json.Admissible
import Mathlib.Tactic.IntervalCases

/-!
# A written value is read back

`read_render`: the reader gives back what the writer of documents wrote, for every value within
the two bounds of the reader (`Admissible`).

The proof follows the derivation of `Admissible`, so a container has the statement for everything
inside it at hand. Bounds on turns ask for no care: each is the length of a text that holds the
part which is read (`readChars_write`, `readItems_write`, `readMembers_write`).
-/

set_option autoImplicit false

namespace Formwork.Json

/-! ## Strings -/

section Strings

variable {turns : Nat} {read rest : List Char}

/-- A control below U+0020 is read back from its number. -/
private theorem readUnicodeEscape_hexDigits {n : Nat} (control : n < 0x20) (rest : List Char) :
    readUnicodeEscape (Text.hexDigits 4 n ++ rest) = .ok (Char.ofNat n, rest) := by
  interval_cases n <;> rfl

theorem readChars_of_escaped {c : Char} {cs : List Char} (h : Escaped c cs) :
    readChars (turns + 1) read (cs ++ rest) = readChars turns (c :: read) rest := by
  cases h with
  | @short letter listed =>
    have each : ∀ e ∈ shortEscapes, readChars (turns + 1) read ('\\' :: e.2 :: rest) =
        readChars turns (e.1 :: read) rest := by
      simp only [shortEscapes, List.forall_mem_cons, List.not_mem_nil, false_imp_iff, implies_true,
        and_true]
      exact ⟨rfl, rfl, rfl, rfl, rfl, rfl, rfl⟩
    exact each _ listed
  | control low =>
    have number := readUnicodeEscape_hexDigits low rest
    rw [Char.ofNat_toNat] at number
    show (readUnicodeEscape (Text.hexDigits 4 c.toNat ++ rest)).bind _ = _
    rw [number]
    rfl
  | plain quote backslash high =>
    show readChars (turns + 1) read (c :: rest) = _
    simp only [readChars, quote, backslash, high, if_false]

/-- What is written for a character is read as the character, in one turn. -/
theorem readChars_escapeChar (c : Char) :
    readChars (turns + 1) read (escapeChar c ++ rest) = readChars turns (c :: read) rest :=
  readChars_of_escaped (escaped_escapeChar c)

/-- The characters of a written string are read up to the closing quote. -/
theorem readChars_write (cs : List Char) (enough : cs.length < turns) :
    readChars turns read (cs.flatMap escapeChar ++ '"' :: rest) =
      .ok (String.ofList (read.reverse ++ cs), rest) := by
  induction cs generalizing turns read with
  | nil =>
    obtain ⟨turns, rfl⟩ : ∃ t, turns = t + 1 := ⟨turns - 1, by simp at enough; omega⟩
    rw [List.append_nil]
    rfl
  | cons c cs ih =>
    obtain ⟨turns, rfl⟩ : ∃ t, turns = t + 1 := ⟨turns - 1, by simp at enough; omega⟩
    rw [List.flatMap_cons, List.append_assoc, readChars_escapeChar,
      ih (by simpa using enough)]
    simp

theorem length_escapeChar_pos (c : Char) : 0 < (escapeChar c).length := by
  refine List.length_pos_iff.2 fun none => ?_
  -- With nothing written the turn would be spent on the closing quote, not on the character.
  have turn := @readChars_escapeChar 0 [] ['"'] c
  rw [none] at turn
  cases turn

theorem length_le_flatMap_escapeChar (cs : List Char) :
    cs.length ≤ (cs.flatMap escapeChar).length := by
  induction cs with
  | nil => exact Nat.le_refl 0
  | cons c cs ih =>
    have := length_escapeChar_pos c
    rw [List.flatMap_cons, List.length_append, List.length_cons]
    omega

theorem writeString_append (s : String) (rest : List Char) :
    writeString s ++ rest = '"' :: (s.toList.flatMap escapeChar ++ '"' :: rest) := by
  simp [writeString]

/-- A written string is read back, its opening quote taken off. -/
theorem readString_write (s : String) (enough : (writeString s).length ≤ turns) :
    readString turns (s.toList.flatMap escapeChar ++ '"' :: rest) = .ok (s, rest) := by
  have inner := length_le_flatMap_escapeChar s.toList
  have length := congrArg List.length (writeString_append s [])
  simp only [List.append_nil, List.length_cons, List.length_append, List.length_nil] at length
  unfold readString
  rw [readChars_write s.toList (by omega), List.reverse_nil, List.nil_append, String.ofList_toList]

end Strings

/-! ## Blank space -/

theorem skipSpace_newLine (depth : Nat) (rest : List Char) :
    skipSpace (newLine depth ++ rest) = skipSpace rest := by
  have spaces : ∀ c ∈ newLine depth, isSpace c = true := by
    intro c hc
    rcases List.mem_cons.1 hc with rfl | blank
    · rfl
    · rw [List.eq_of_mem_replicate blank]
      rfl
  exact List.dropWhile_append_of_pos spaces

/-- A text that is read as a value begins with neither blank space nor a closing bracket. -/
theorem readValue_start {turns room : Nat} {cs : List Char} {v : Json} {rest : List Char}
    (h : readValue turns room cs = .ok (v, rest)) :
    ∃ c more, cs = c :: more ∧ isSpace c = false ∧ c ≠ ']' := by
  cases cs with
  | nil => simp [readValue] at h
  | cons c more =>
    cases room with
    | zero => cases h
    | succ room =>
      refine ⟨c, more, rfl, ?_, ?_⟩
      · by_contra blank
        simp only [Bool.not_eq_false, isSpace, Bool.or_eq_true, beq_iff_eq] at blank
        rcases blank with ((rfl | rfl) | rfl) | rfl <;> cases h
      · rintro rfl
        cases h

/-- Blank space is skipped before a value. -/
theorem skipSpace_of_readValue {turns room : Nat} {cs : List Char} {v : Json} {rest : List Char}
    (h : readValue turns room cs = .ok (v, rest)) : skipSpace cs = cs := by
  obtain ⟨c, more, rfl, solid, -⟩ := readValue_start h
  unfold skipSpace
  rw [List.dropWhile_cons_of_neg (by simp [solid])]

/-! ## Containers -/

section Containers

variable {room : Nat}

/-- The text of a value is read back, whatever follows that ends a number. -/
def ReadsBack (room : Nat) (v : Json) : Prop :=
  ∀ (turns depth : Nat) (rest : List Char), (write documentLayout depth v).length < turns →
    EndsNumber rest →
      readValue turns room (write documentLayout depth v ++ rest) = .ok (v, rest)

/-- A line break ends a number. -/
theorem endsNumber_newLine (depth : Nat) (rest : List Char) :
    EndsNumber (newLine depth ++ rest) := by
  rintro c ⟨⟩
  decide

theorem endsNumber_writeItems (depth : Nat) (xs : List Json) {rest : List Char}
    (ends : EndsNumber rest) : EndsNumber (writeItems documentLayout depth xs ++ rest) := by
  cases xs with
  | nil => simpa [writeItems] using ends
  | cons x xs =>
    rw [writeItems]
    rintro c ⟨⟩
    decide

theorem endsNumber_writeMembers (depth : Nat) (ms : List (String × Json)) {rest : List Char}
    (ends : EndsNumber rest) : EndsNumber (writeMembers documentLayout depth ms ++ rest) := by
  cases ms with
  | nil => simpa [writeMembers] using ends
  | cons m ms =>
    rw [writeMembers]
    rintro c ⟨⟩
    decide

/-- The items after the first one, and the closing bracket. -/
theorem readItems_write {xs : List Json} (inside : ∀ x ∈ xs, ReadsBack room x)
    (turns steps depth close : Nat) (read : List Json) (rest : List Char)
    (enough : (writeItems documentLayout depth xs).length < turns) (loop : xs.length < steps) :
    readItems (readValue turns room) steps read
      (writeItems documentLayout depth xs ++ (newLine close ++ ']' :: rest)) =
        .ok (read.reverse ++ xs, rest) := by
  induction xs generalizing read steps with
  | nil =>
    obtain ⟨steps, rfl⟩ : ∃ t, steps = t + 1 := ⟨steps - 1, by simp at loop; omega⟩
    rw [writeItems, List.nil_append, List.append_nil, readItems, skipSpace_newLine]
    rfl
  | cons x xs ih =>
    obtain ⟨steps, rfl⟩ : ∃ t, steps = t + 1 := ⟨steps - 1, by simp at loop; omega⟩
    simp only [writeItems, List.length_append, List.length_cons] at enough loop ⊢
    have value := inside x (List.mem_cons_self ..) turns depth
      (writeItems documentLayout depth xs ++ (newLine close ++ ']' :: rest)) (by omega)
      (endsNumber_writeItems depth xs (endsNumber_newLine close _))
    have others := ih (fun y hy => inside y (List.mem_cons_of_mem _ hy)) steps (x :: read)
      (by omega) (by omega)
    obtain ⟨c, more, start, -, open_⟩ := readValue_start value
    have comma : skipSpace (',' :: (newLine depth ++ (write documentLayout depth x ++
        (writeItems documentLayout depth xs ++ (newLine close ++ ']' :: rest))))) =
        ',' :: (newLine depth ++ (write documentLayout depth x ++
          (writeItems documentLayout depth xs ++ (newLine close ++ ']' :: rest)))) := rfl
    simp only [List.cons_append, List.append_assoc]
    rw [readItems, comma]
    dsimp only
    rw [if_neg (by decide), if_pos rfl]
    rw [skipSpace_newLine, skipSpace_of_readValue value]
    rw [start] at value ⊢
    dsimp only
    rw [if_neg open_, value]
    refine others.trans ?_
    rw [List.reverse_cons, List.append_assoc, List.singleton_append]

/-- Every item has a comma of its own. -/
theorem length_le_writeItems (depth : Nat) (xs : List Json) :
    xs.length ≤ (writeItems documentLayout depth xs).length := by
  induction xs with
  | nil => exact Nat.zero_le _
  | cons x xs ih =>
    simp only [writeItems, List.length_append, List.length_cons]
    omega

theorem length_le_writeMembers (depth : Nat) (ms : List (String × Json)) :
    ms.length ≤ (writeMembers documentLayout depth ms).length := by
  induction ms with
  | nil => exact Nat.zero_le _
  | cons m ms ih =>
    simp only [writeMembers, List.length_append, List.length_cons]
    omega

/-- A list is read back. -/
theorem readsBack_list {xs : List Json} (inside : ∀ x ∈ xs, ReadsBack room x) :
    ReadsBack (room + 1) (.list xs) := by
  intro turns depth rest enough _
  cases xs with
  | nil => rfl
  | cons x xs =>
    simp only [write_list_cons, List.length_append, List.length_cons] at enough
    have value := inside x (List.mem_cons_self ..) turns (depth + 1)
      (writeItems documentLayout (depth + 1) xs ++ (newLine depth ++ ']' :: rest)) (by omega)
      (endsNumber_writeItems (depth + 1) xs (endsNumber_newLine depth _))
    have items := readItems_write (fun y hy => inside y (List.mem_cons_of_mem _ hy)) turns turns
      (depth + 1) depth [x] rest (by omega)
      (by have := length_le_writeItems (depth + 1) xs; omega)
    obtain ⟨c, more, start, -, open_⟩ := readValue_start value
    simp only [write_list_cons, List.append_assoc, List.cons_append, List.nil_append]
    show (readList (readValue turns room) turns _).map _ = _
    rw [readList, skipSpace_newLine, skipSpace_of_readValue value]
    rw [start] at value ⊢
    dsimp only
    rw [if_neg open_, value]
    show (readItems (readValue turns room) turns [x] _).map _ = _
    rw [items]
    rfl

/-- A member, its opening quote taken off. -/
theorem readMember_write (k : String) {v : Json} (inside : ReadsBack room v) (turns depth : Nat)
    (rest : List Char) (key : (writeString k).length ≤ turns)
    (enough : (write documentLayout depth v).length < turns) (ends : EndsNumber rest) :
    readMember (readValue turns room) turns (k.toList.flatMap escapeChar ++
      '"' :: ':' :: ' ' :: (write documentLayout depth v ++ rest)) = .ok ((k, v), rest) := by
  have value := inside turns depth rest enough ends
  obtain ⟨c, more, start, -, -⟩ := readValue_start value
  have blank : skipSpace (' ' :: (write documentLayout depth v ++ rest)) =
      write documentLayout depth v ++ rest := skipSpace_of_readValue value
  have colon : skipSpace (':' :: ' ' :: (write documentLayout depth v ++ rest)) =
      ':' :: ' ' :: (write documentLayout depth v ++ rest) := rfl
  rw [readMember, readString_write k key]
  simp only [bind, Except.bind]
  rw [colon]
  dsimp only
  rw [if_pos rfl, blank]
  rw [start] at value ⊢
  dsimp only
  rw [value]
  rfl

/-- The members after the first one, and the closing brace. -/
theorem readMembers_write {ms : List (String × Json)} (inside : ∀ m ∈ ms, ReadsBack room m.2)
    (turns steps depth close : Nat) (read : List (String × Json)) (rest : List Char)
    (enough : (writeMembers documentLayout depth ms).length < turns) (loop : ms.length < steps) :
    readMembers (readValue turns room) turns steps read
      (writeMembers documentLayout depth ms ++ (newLine close ++ '}' :: rest)) =
        .ok (read.reverse ++ ms, rest) := by
  induction ms generalizing read steps with
  | nil =>
    obtain ⟨steps, rfl⟩ : ∃ t, steps = t + 1 := ⟨steps - 1, by simp at loop; omega⟩
    rw [writeMembers, List.nil_append, List.append_nil, readMembers, skipSpace_newLine]
    rfl
  | cons m ms ih =>
    obtain ⟨k, v⟩ := m
    obtain ⟨steps, rfl⟩ : ∃ t, steps = t + 1 := ⟨steps - 1, by simp at loop; omega⟩
    simp only [writeMembers, List.length_append, List.length_cons] at enough loop ⊢
    have first : ReadsBack room v := inside (k, v) (List.mem_cons_self ..)
    have member := readMember_write k first turns depth
      (writeMembers documentLayout depth ms ++ (newLine close ++ '}' :: rest)) (by omega)
      (by omega) (endsNumber_writeMembers depth ms (endsNumber_newLine close _))
    have others := ih (fun n hn => inside n (List.mem_cons_of_mem _ hn)) steps ((k, v) :: read)
      (by omega) (by omega)
    have comma (cs : List Char) : skipSpace (',' :: cs) = ',' :: cs := rfl
    have quote (cs : List Char) : skipSpace ('"' :: cs) = '"' :: cs := rfl
    simp only [List.cons_append, List.append_assoc, List.nil_append]
    rw [readMembers, comma]
    dsimp only
    rw [if_neg (by decide), if_pos rfl]
    rw [skipSpace_newLine, writeString_append, quote]
    dsimp only
    rw [if_pos rfl]
    show (readMember (readValue turns room) turns _).bind _ = _
    rw [member]
    refine others.trans ?_
    rw [List.reverse_cons, List.append_assoc, List.singleton_append]

/-- An object is read back. -/
theorem readsBack_object {ms : List (String × Json)} (inside : ∀ m ∈ ms, ReadsBack room m.2) :
    ReadsBack (room + 1) (.object ms) := by
  intro turns depth rest enough _
  cases ms with
  | nil => rfl
  | cons m ms =>
    obtain ⟨k, v⟩ := m
    simp only [write_object_cons, List.length_append, List.length_cons] at enough
    have first : ReadsBack room v := inside (k, v) (List.mem_cons_self ..)
    have member := readMember_write k first turns (depth + 1)
      (writeMembers documentLayout (depth + 1) ms ++ (newLine depth ++ '}' :: rest)) (by omega)
      (by omega) (endsNumber_writeMembers (depth + 1) ms (endsNumber_newLine depth _))
    have members := readMembers_write (fun n hn => inside n (List.mem_cons_of_mem _ hn)) turns turns
      (depth + 1) depth [(k, v)] rest (by omega)
      (by have := length_le_writeMembers (depth + 1) ms; omega)
    have quote (cs : List Char) : skipSpace ('"' :: cs) = '"' :: cs := rfl
    simp only [write_object_cons, List.append_assoc, List.cons_append, List.nil_append]
    show (readObject (readValue turns room) turns _).map _ = _
    rw [readObject, skipSpace_newLine, writeString_append, quote]
    dsimp only
    rw [if_neg (by decide), if_pos rfl]
    show ((readMember (readValue turns room) turns _).bind _).map _ = _
    rw [member]
    show (readMembers (readValue turns room) turns turns [(k, v)] _).map _ = _
    rw [members]
    rfl

end Containers

/-- The text of an admissible value is read back. -/
theorem readValue_write {room : Nat} {v : Json} (h : Admissible room v) : ReadsBack room v := by
  induction h with
  | null => exact fun _ _ _ _ _ => rfl
  | bool b =>
    intro turns depth rest _ _
    cases b <;> rfl
  | integer short =>
    intro turns depth rest _ ends
    exact readValue_integer short ends
  | number x =>
    intro turns depth rest _ ends
    exact readValue_number x ends
  | text s =>
    intro turns depth rest enough _
    change (writeString s).length < turns at enough
    change readValue turns _ (writeString s ++ rest) = _
    rw [writeString_append]
    show (readString turns _).map _ = _
    rw [readString_write s enough.le]
    rfl
  | list _ ih => exact readsBack_list ih
  | object _ ih => exact readsBack_object ih

/-- The reader gives back what the writer of documents wrote. -/
theorem read_render {v : Json} (h : Admissible maxOpen v) :
    read (render documentLayout v) = .ok v := by
  have value := readValue_write h ((write documentLayout 0 v).length + 1) 0 []
    (Nat.lt_succ_self _) nofun
  rw [List.append_nil] at value
  unfold read render readText
  rw [String.toList_ofList, skipSpace_of_readValue value, value]
  rfl

end Formwork.Json
