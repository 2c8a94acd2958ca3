import Formwork.Proofs.Json.Numerals
import Mathlib.Data.List.TakeWhile

/-!
# The values that the reader admits

The reader has two bounds that the values themselves have not: an integer has at most 4300 digits,
and only so many containers are open at once. `Admissible`
states both. Here it is shown that nothing else is ever read (`admissible_of_read`); that every
such value is read back from its text is the round trip.
-/

set_option autoImplicit false

namespace Formwork.Json

/-- An integer that the reader admits. -/
def IsShort (n : Int) : Prop := (natText n.natAbs).length ≤ maxNumberLength

instance (n : Int) : Decidable (IsShort n) := inferInstanceAs (Decidable (_ ≤ _))

/-- The bounds of the reader: every integer is short, and `room` containers may be opened, with
nothing inside the last of them. -/
inductive Admissible : Nat → Json → Prop where
  | null {room : Nat} : Admissible (room + 1) .null
  | bool {room : Nat} (b : Bool) : Admissible (room + 1) (.bool b)
  | integer {room : Nat} {n : Int} (short : IsShort n) : Admissible (room + 1) (.integer n)
  | number {room : Nat} (x : Binary64) : Admissible (room + 1) (.number x)
  | text {room : Nat} (s : String) : Admissible (room + 1) (.text s)
  | list {room : Nat} {xs : List Json} (inside : ∀ x ∈ xs, Admissible room x) :
    Admissible (room + 1) (.list xs)
  | object {room : Nat} {ms : List (String × Json)} (inside : ∀ m ∈ ms, Admissible room m.2) :
    Admissible (room + 1) (.object ms)

/-! ## Results of readers -/

section Results

variable {ε α β : Type}

theorem exists_of_bind_ok {x : Except ε α} {f : α → Except ε β} {b : β} (h : x >>= f = .ok b) :
    ∃ a, x = .ok a ∧ f a = .ok b := by
  cases x with
  | error => cases h
  | ok a => exact ⟨a, rfl, h⟩

theorem exists_of_map_ok {x : Except ε α} {f : α → β} {b : β} (h : x.map f = .ok b) :
    ∃ a, x = .ok a ∧ f a = b := by
  cases x with
  | error => cases h
  | ok a => exact ⟨a, rfl, Except.ok.inj h⟩

end Results

/-! ## Integers -/

theorem ofDigitChars_lt {ds : List Char} (digits : ∀ c ∈ ds, c.isDigit = true) :
    Nat.ofDigitChars 10 ds 0 < 10 ^ ds.length := by
  induction ds with
  | nil => simp
  | cons d ds ih =>
    have rest := ih fun c hc => digits c (List.mem_cons_of_mem _ hc)
    have digit : d.toNat - '0'.toNat ≤ 9 := by
      have := digits d (List.mem_cons_self ..)
      simp only [Char.isDigit, Bool.and_eq_true, decide_eq_true_eq] at this
      have := this.2
      have bound : d.toNat ≤ 57 := this
      have zero : '0'.toNat = 48 := rfl
      omega
    rw [Nat.ofDigitChars_cons, Nat.ofDigitChars_eq_ofDigitChars_zero, Nat.mul_zero, Nat.zero_add,
      List.length_cons, Nat.pow_succ]
    have := Nat.mul_le_mul_left (10 ^ ds.length) digit
    omega

/-- Short integers are those below a power of ten, on either side of zero. -/
theorem isShort_iff {n : Int} : IsShort n ↔ n.natAbs < 10 ^ maxNumberLength := by
  rw [IsShort, natText, String.length_ofList,
    Nat.length_toDigits_le_iff (by decide) (by decide)]

theorem isRun_of_readDigits {cs ds rest : List Char} (h : readDigits cs = .ok (ds, rest)) :
    IsRun ds := by
  unfold readDigits at h
  split at h
  next => cases h
  next c cs =>
    split at h
    next digit =>
      obtain ⟨rfl, -⟩ := Prod.mk.inj (Except.ok.inj h)
      refine ⟨?_, fun d hd => List.mem_takeWhile_imp hd⟩
      simp [digit]
    next => cases h

theorem isRun_of_readWhole {cs ds rest : List Char} (h : readWhole cs = .ok (ds, rest)) :
    IsRun ds := by
  unfold readWhole at h
  split at h
  next c cs =>
    split at h
    next => cases h
    next =>
      obtain ⟨rfl, -⟩ := Prod.mk.inj (Except.ok.inj h)
      exact isRun_zero
  next => exact isRun_of_readDigits h

/-- Digits that are few enough denote a short integer. -/
theorem isShort_of_digits (negative : Bool) {ds : List Char} (digits : ∀ c ∈ ds, c.isDigit = true)
    (few : ds.length ≤ maxNumberLength) :
    IsShort (if negative then -(Nat.ofDigitChars 10 ds 0 : Int) else Nat.ofDigitChars 10 ds 0) := by
  rw [isShort_iff]
  calc
    _ = Nat.ofDigitChars 10 ds 0 := by cases negative <;> simp
    _ < 10 ^ ds.length := ofDigitChars_lt digits
    _ ≤ 10 ^ maxNumberLength := Nat.pow_le_pow_right (by decide) few

/-- An integer below a power of ten is short. -/
theorem isShort_of_natAbs_lt {n : Int} {k : Nat} (small : n.natAbs < 10 ^ k)
    (few : k ≤ maxNumberLength) : IsShort n :=
  isShort_iff.2 (small.trans_le (Nat.pow_le_pow_right (by decide) few))

/-- A natural number is short if it lies below the power of ten. -/
theorem isShort_of_lt {n : Int} (natural : 0 ≤ n) (small : n < 10 ^ maxNumberLength) :
    IsShort n := by
  rw [isShort_iff]
  have cast : ((10 ^ maxNumberLength : Nat) : Int) = 10 ^ maxNumberLength := Int.natCast_pow ..
  omega

/-- What is read as a number is a short integer or a binary64 number. -/
theorem admissible_of_readMagnitude {negative : Bool} {cs rest : List Char} {v : Json}
    {room : Nat} (h : readMagnitude negative cs = .ok (v, rest)) : Admissible (room + 1) v := by
  obtain ⟨⟨ds, r₁⟩, whole, h⟩ := exists_of_bind_ok h
  obtain ⟨_, width, h⟩ := exists_of_bind_ok h
  obtain ⟨⟨fraction, r₂⟩, -, h⟩ := exists_of_bind_ok h
  obtain ⟨⟨exponent, r₃⟩, -, h⟩ := exists_of_bind_ok h
  obtain ⟨_, -, h⟩ := exists_of_bind_ok h
  obtain ⟨rfl, -⟩ := Prod.mk.inj (Except.ok.inj h)
  have few : ds.length ≤ maxNumberLength := by
    unfold checkLength at width
    split at width
    next => cases width
    next fits => exact Nat.le_of_not_lt fits
  unfold numberOf
  split
  next => exact .integer (isShort_of_digits negative (isRun_of_readWhole whole).digits few)
  next => exact .number _

/-! ## Containers -/

theorem readWord_eq {value v : Json} {ws cs rest : List Char}
    (h : readWord value ws cs = .ok (v, rest)) : v = value := by
  induction ws generalizing cs with
  | nil => exact (Prod.mk.inj (Except.ok.inj h)).1.symm
  | cons w ws ih =>
    cases cs with
    | nil => cases h
    | cons c cs =>
      unfold readWord at h
      split at h
      next => exact ih h
      next => cases h

section Containers

variable {value : Reader Json} {P : Json → Prop}

theorem forall_of_readItems (sound : ∀ cs v rest, value cs = .ok (v, rest) → P v) {turns : Nat}
    {read xs : List Json} {cs rest : List Char} (before : ∀ x ∈ read, P x)
    (h : readItems value turns read cs = .ok (xs, rest)) : ∀ x ∈ xs, P x := by
  induction turns generalizing read cs with
  | zero => cases h
  | succ turns ih =>
    unfold readItems at h
    split at h
    next => cases h
    next c more _ =>
      split_ifs at h
      · obtain ⟨rfl, -⟩ := Prod.mk.inj (Except.ok.inj h)
        simpa using before
      · split at h
        next => cases h
        next d more _ =>
          split at h
          next => cases h
          next =>
            obtain ⟨⟨item, after⟩, item_read, h⟩ := exists_of_bind_ok h
            exact ih (List.forall_mem_cons.2 ⟨sound _ _ _ item_read, before⟩) h

theorem forall_of_readList (sound : ∀ cs v rest, value cs = .ok (v, rest) → P v) {turns : Nat}
    {xs : List Json} {cs rest : List Char} (h : readList value turns cs = .ok (xs, rest)) :
    ∀ x ∈ xs, P x := by
  unfold readList at h
  split at h
  next => cases h
  next c more _ =>
    split at h
    next =>
      obtain ⟨rfl, -⟩ := Prod.mk.inj (Except.ok.inj h)
      exact nofun
    next =>
      obtain ⟨⟨item, after⟩, item_read, h⟩ := exists_of_bind_ok h
      exact forall_of_readItems sound (by simpa using sound _ _ _ item_read) h

theorem of_readMember (sound : ∀ cs v rest, value cs = .ok (v, rest) → P v) {turns : Nat}
    {m : String × Json} {cs rest : List Char}
    (h : readMember value turns cs = .ok (m, rest)) : P m.2 := by
  obtain ⟨⟨key, r₁⟩, -, h⟩ := exists_of_bind_ok h
  dsimp only at h
  split at h
  next => cases h
  next c r₂ _ =>
    split at h
    next =>
      split at h
      next => cases h
      next =>
        obtain ⟨⟨v, r₄⟩, value_read, h⟩ := exists_of_bind_ok h
        obtain ⟨rfl, -⟩ := Prod.mk.inj (Except.ok.inj h)
        exact sound _ _ _ value_read
    next => cases h

theorem forall_of_readMembers (sound : ∀ cs v rest, value cs = .ok (v, rest) → P v)
    {total turns : Nat} {read ms : List (String × Json)} {cs rest : List Char}
    (before : ∀ m ∈ read, P m.2) (h : readMembers value total turns read cs = .ok (ms, rest)) :
    ∀ m ∈ ms, P m.2 := by
  induction turns generalizing read cs with
  | zero => cases h
  | succ turns ih =>
    unfold readMembers at h
    split at h
    next => cases h
    next c more _ =>
      split_ifs at h
      · obtain ⟨rfl, -⟩ := Prod.mk.inj (Except.ok.inj h)
        simpa using before
      · split at h
        next => cases h
        next d more _ =>
          split_ifs at h
          obtain ⟨⟨member, after⟩, member_read, h⟩ := exists_of_bind_ok h
          exact ih (List.forall_mem_cons.2 ⟨of_readMember sound member_read, before⟩) h

theorem forall_of_readObject (sound : ∀ cs v rest, value cs = .ok (v, rest) → P v) {turns : Nat}
    {ms : List (String × Json)} {cs rest : List Char}
    (h : readObject value turns cs = .ok (ms, rest)) : ∀ m ∈ ms, P m.2 := by
  unfold readObject at h
  split at h
  next => cases h
  next c more _ =>
    split_ifs at h
    · obtain ⟨rfl, -⟩ := Prod.mk.inj (Except.ok.inj h)
      exact nofun
    · obtain ⟨⟨member, after⟩, member_read, h⟩ := exists_of_bind_ok h
      exact forall_of_readMembers sound (by simpa using of_readMember sound member_read) h

end Containers

/-- Only admissible values are read. -/
theorem admissible_of_readValue {turns room : Nat} {cs rest : List Char} {v : Json}
    (h : readValue turns room cs = .ok (v, rest)) : Admissible room v := by
  induction room generalizing cs v rest with
  | zero => cases cs <;> cases h
  | succ room ih =>
    have sound (cs : List Char) (v : Json) (rest : List Char) := @ih cs rest v
    unfold readValue at h
    split at h
    next => cases h
    next => cases h
    next room' c more eq =>
      cases eq
      split at h
      next =>
        obtain ⟨⟨ms, r⟩, inside, h⟩ := exists_of_map_ok h
        obtain ⟨rfl, -⟩ := Prod.mk.inj h
        exact .object (forall_of_readObject sound inside)
      next =>
        obtain ⟨⟨xs, r⟩, inside, h⟩ := exists_of_map_ok h
        obtain ⟨rfl, -⟩ := Prod.mk.inj h
        exact .list (forall_of_readList sound inside)
      next =>
        obtain ⟨⟨s, r⟩, -, h⟩ := exists_of_map_ok h
        obtain ⟨rfl, -⟩ := Prod.mk.inj h
        exact .text s
      next => exact readWord_eq h ▸ .bool true
      next => exact readWord_eq h ▸ .bool false
      next => exact readWord_eq h ▸ .null
      next => exact readWord_eq h ▸ .number _
      next => exact readWord_eq h ▸ .number _
      next =>
        unfold readNegative at h
        split at h
        next => exact readWord_eq h ▸ .number _
        next => exact admissible_of_readMagnitude h
      next =>
        split at h
        next => exact admissible_of_readMagnitude h
        next => cases h

/-- A text that is read holds an admissible value. -/
theorem admissible_of_read {s : String} {v : Json} (h : read s = .ok v) : Admissible maxOpen v := by
  unfold read readText at h
  split at h
  next value text =>
    obtain ⟨⟨value, rest⟩, inside, text⟩ := exists_of_bind_ok text
    dsimp only at text
    split at text
    next =>
      obtain rfl := Except.ok.inj text
      obtain rfl := Except.ok.inj h
      exact admissible_of_readValue inside
    next => cases text
  next => cases h

end Formwork.Json
