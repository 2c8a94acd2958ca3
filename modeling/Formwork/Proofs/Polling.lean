import Formwork.Journal
import Mathlib.Data.List.Induction
import Mathlib.Data.List.Infix
import Mathlib.Data.List.TakeWhile

/-!
# Polling a journal

A client follows a journal by asking, time and again, for what came after its cursor; the answer
gives it the next cursor. The cursor is the number of the newest event of all, be it kept or not, so
an event that was pushed out before the client asked is passed over for good, and none is given
twice.

`numbered` lists the appended events, each with what happened after it, and says with that alone
which of them the client receives: those that were polled (`polled`) before as many others came
after them as the journal keeps (`crowd`). `Followed.Kept` is what is known of a journal and its
client at every moment; each move keeps it.
-/

set_option autoImplicit false

namespace Formwork.Journal

/-- What can happen to a journal that a client follows. -/
inductive Move where
  | append (level text : String) (details : List (String × Json))
  | poll

def Move.isPoll : Move → Bool
  | append .. => false
  | poll => true

/-- A journal, and a client of it with its cursor and all events that it was ever given. -/
structure Followed where
  journal : Journal
  cursor : Int := 0
  received : List Event := []

/-- Appending leaves the client as it is; polling leaves the journal as it is. -/
def Followed.after (s : Followed) : Move → Followed
  | .append level text details => { s with journal := s.journal.append level text details }
  | .poll =>
    { s with
      cursor := (s.journal.snapshotAfter s.cursor).2
      received := s.received ++ (s.journal.snapshotAfter s.cursor).1 }

def Followed.course (s : Followed) (moves : List Move) : Followed := moves.foldl after s

/-- The appended events, numbered from `n` on, each with the moves after it. -/
def numberedFrom (n : Nat) : List Move → List (Event × List Move)
  | [] => []
  | .append level text details :: later =>
    (⟨n, level, text, details⟩, later) :: numberedFrom (n + 1) later
  | .poll :: later => numberedFrom n later

def numbered (moves : List Move) : List (Event × List Move) := numberedFrom 1 moves

/-- Does the client poll at all? -/
def polled (later : List Move) : Bool := later.any Move.isPoll

/-- How many events are appended until the client polls. -/
def crowd (later : List Move) : Nat := (later.takeWhile fun move => !move.isPoll).length

/-- How many events are appended before each poll, counted from the poll before it or, for the first
one, from the start. -/
def stretchesFrom (count : Nat) : List Move → List Nat
  | [] => []
  | .append .. :: later => stretchesFrom (count + 1) later
  | .poll :: later => count :: stretchesFrom 0 later

def stretches (moves : List Move) : List Nat := stretchesFrom 0 moves

/-! ## Numbers -/

section Numbers

variable {n : Nat} {moves : List Move}

theorem ids_numberedFrom (n : Nat) (moves : List Move) :
    (numberedFrom n moves).map (fun e => e.1.id) =
      (List.range' n (numberedFrom n moves).length).map Nat.cast := by
  induction moves generalizing n with
  | nil => rfl
  | cons move later ih =>
    cases move with
    | append => rw [numberedFrom, List.length_cons, List.range'_succ, List.map_cons, ih]; rfl
    | poll => exact ih n

theorem le_id_of_mem_numberedFrom {e : Event × List Move} (mem : e ∈ numberedFrom n moves) :
    (n : Int) ≤ e.1.id := by
  have listed : e.1.id ∈ (numberedFrom n moves).map (fun e => e.1.id) := List.mem_map_of_mem mem
  rw [ids_numberedFrom] at listed
  obtain ⟨k, mem, same⟩ := List.mem_map.1 listed
  obtain ⟨low, -⟩ := List.mem_range'_1.1 mem
  rw [← same]
  exact Int.ofNat_le.2 low

theorem pairwise_numberedFrom :
    (numberedFrom n moves).Pairwise fun e e' => e.1.id < e'.1.id := by
  have ids : ((numberedFrom n moves).map fun e => e.1.id).Pairwise (· < ·) := by
    rw [ids_numberedFrom, List.pairwise_map]
    exact (List.pairwise_lt_range' 1).imp Int.ofNat_lt.2
  exact List.pairwise_map.1 ids

/-- An event with the moves after it, once there are more of them. -/
def followedBy (more : List Move) (e : Event × List Move) : Event × List Move := (e.1, e.2 ++ more)

theorem numberedFrom_append (n : Nat) (moves more : List Move) :
    numberedFrom n (moves ++ more) =
      (numberedFrom n moves).map (followedBy more)
        ++ numberedFrom (n + (numberedFrom n moves).length) more := by
  induction moves generalizing n with
  | nil => rfl
  | cons move later ih =>
    cases move with
    | append =>
      rw [List.cons_append, numberedFrom, numberedFrom, ih, List.length_cons, Nat.add_right_comm]
      rfl
    | poll => exact ih n

end Numbers

/-! ## What happens to an event later -/

section Later

variable {later moves run : List Move}

theorem polled_append (later more : List Move) :
    polled (later ++ more) = (polled later || polled more) := List.any_append

theorem crowd_append_of_polled (h : polled later = true) (more : List Move) :
    crowd (later ++ more) = crowd later := by
  obtain ⟨move, mem, is⟩ := List.any_eq_true.1 h
  rw [crowd, List.takeWhile_append, if_neg]
  · rfl
  · intro all
    have free : (later.takeWhile fun move => !move.isPoll) = later :=
      (List.takeWhile_prefix _).eq_of_length all
    have kept := List.takeWhile_eq_self_iff.1 free move mem
    rw [is] at kept
    cases kept

theorem crowd_of_not_polled (h : polled later = false) : crowd later = later.length := by
  rw [crowd, List.takeWhile_eq_self_iff.2]
  intro move mem
  rw [Bool.not_eq_true', Bool.eq_false_iff]
  exact List.any_eq_false.1 h move mem

theorem crowd_poll (later : List Move) : crowd (later ++ [.poll]) = crowd later := by
  cases h : polled later with
  | true => exact crowd_append_of_polled h _
  | false =>
    have free : ∀ move ∈ later, (!move.isPoll) = true := by
      intro move mem
      rw [Bool.not_eq_true', Bool.eq_false_iff]
      exact List.any_eq_false.1 h move mem
    rw [crowd, List.takeWhile_append_of_pos free, crowd_of_not_polled h]
    exact congrArg List.length (List.append_nil later)

theorem length_numberedFrom_of_not_polled {n : Nat} (quiet : polled run = false) :
    (numberedFrom n run).length = run.length := by
  induction run generalizing n with
  | nil => rfl
  | cons move run ih =>
    cases move with
    | append => exact congrArg (· + 1) (ih quiet)
    | poll => cases quiet

/-- The moves begin with everything up to the last poll, and the events of that part are the polled
ones. -/
theorem exists_split (n : Nat) (moves : List Move) :
    ∃ old run, numberedFrom n moves = old ++ numberedFrom (n + old.length) run ∧
      polled run = false ∧ ∀ e ∈ old, polled e.2 = true ∧ e.1.id < (n + old.length : Nat) := by
  induction moves generalizing n with
  | nil => exact ⟨[], [], rfl, rfl, nofun⟩
  | cons move later ih =>
    cases move with
    | poll => exact ih n
    | append level text details =>
      cases h : polled later with
      | false => exact ⟨[], .append level text details :: later, rfl, h, nofun⟩
      | true =>
        obtain ⟨old, run, split, quiet, earlier⟩ := ih (n + 1)
        refine ⟨(⟨n, level, text, details⟩, later) :: old, run, ?_, quiet, ?_⟩
        · rw [numberedFrom, split, List.length_cons, Nat.add_assoc, Nat.add_comm 1]
          rfl
        · rw [List.length_cons, Nat.add_comm old.length, ← Nat.add_assoc]
          refine List.forall_mem_cons.2 ⟨⟨h, ?_⟩, earlier⟩
          exact Int.ofNat_lt.2 (by omega)

/-- Of the events that nobody has polled yet, those are not pushed out that few others follow. -/
theorem filter_crowd_numberedFrom (capacity n : Nat) (quiet : polled run = false) :
    (numberedFrom n run).filter (fun e => crowd e.2 < capacity) =
      (numberedFrom n run).drop (run.length - capacity) := by
  induction run generalizing n with
  | nil => exact List.drop_nil.symm
  | cons move run ih =>
    cases move with
    | poll => cases quiet
    | append level text details =>
      have others : polled run = false := quiet
      rw [numberedFrom, List.filter_cons, crowd_of_not_polled others, ih _ others, List.length_cons]
      split
      next room =>
        have all : run.length + 1 - capacity = 0 := by
          have := of_decide_eq_true room
          omega
        rw [all, Nat.sub_eq_zero_of_le (Nat.le_of_lt (of_decide_eq_true room))]
        rfl
      next full =>
        have one : run.length + 1 - capacity = run.length - capacity + 1 := by
          have := of_decide_eq_false (Bool.eq_false_iff.2 full)
          omega
        rw [one, List.drop_succ_cons]

end Later

/-! ## One move -/

/-- What the journal keeps is not changed by what was pushed out before. -/
theorem trim_append (capacity : Nat) (es : List Event) (e : Event) :
    trim (some capacity) (trim (some capacity) es ++ [e]) = trim (some capacity) (es ++ [e]) := by
  have front : es.drop (es.length - capacity) ++ [e] =
      (es ++ [e]).drop (es.length - capacity) :=
    (List.drop_append_of_le_length (Nat.sub_le _ _)).symm
  simp only [trim, front, List.length_drop, List.drop_drop, List.length_append,
    List.length_singleton]
  congr 1
  omega

/-- The events that are polled at some time. -/
def polledEvents (moves : List Move) : List (Event × List Move) :=
  (numbered moves).filter fun e => polled e.2

namespace Followed

/-- What is known after some moves of a journal and a client that both were new before them. -/
structure Kept (capacity : Nat) (moves : List Move) (s : Followed) : Prop where
  room : s.journal.capacity = some capacity
  last : s.journal.last = (numbered moves).length
  events : s.journal.events = trim (some capacity) ((numbered moves).map Prod.fst)
  cursor : s.cursor = ((polledEvents moves).length : Nat)
  received : s.received =
    ((polledEvents moves).filter fun e => crowd e.2 < capacity).map Prod.fst

variable {capacity : Nat} {moves : List Move} {s : Followed}

section Append

variable (level text : String) (details : List (String × Json))

/-- An event that was appended just now has not been polled. -/
private theorem polledEvents_append (moves : List Move) :
    polledEvents (moves ++ [.append level text details]) =
      (polledEvents moves).map (followedBy [.append level text details]) := by
  have later : (fun e => polled e.2) ∘ followedBy [.append level text details] =
      fun e => polled e.2 := by
    funext e
    rw [Function.comp, followedBy, polled_append]
    exact Bool.or_false _
  rw [polledEvents, numbered, numberedFrom_append, List.filter_append, List.filter_map, later]
  exact List.append_nil _

/-- Neither does it matter for one that has been. -/
private theorem filter_crowd_append :
    (polledEvents moves).filter
        ((fun e => crowd e.2 < capacity) ∘ followedBy [.append level text details]) =
      (polledEvents moves).filter fun e => crowd e.2 < capacity := by
  refine List.filter_congr fun e mem => ?_
  have reached : polled e.2 = true := (List.mem_filter.1 mem).2
  rw [Function.comp, followedBy, crowd_append_of_polled reached]

theorem Kept.append (kept : s.Kept capacity moves) :
    (s.after (.append level text details)).Kept capacity
      (moves ++ [.append level text details]) where
  room := kept.room
  last := by
    rw [numbered, numberedFrom_append, List.length_append, List.length_map]
    exact congrArg (· + 1) kept.last
  events := by
    show trim s.journal.capacity (s.journal.events ++ [s.journal.nextEvent level text details]) = _
    rw [kept.room, kept.events, trim_append, nextEvent, kept.last, numbered, numbered,
      numberedFrom_append, List.map_append, List.map_map, Nat.add_comm 1]
    rfl
  cursor := by
    rw [polledEvents_append, List.length_map]
    exact kept.cursor
  received := by
    rw [polledEvents_append, List.filter_map, filter_crowd_append, List.map_map]
    exact kept.received

end Append

section Poll

private theorem polledEvents_poll (moves : List Move) :
    polledEvents (moves ++ [.poll]) = (numbered moves).map (followedBy [.poll]) := by
  have reached : ∀ e ∈ (numbered moves).map (followedBy [.poll]), polled e.2 = true := by
    intro e mem
    obtain ⟨e, -, rfl⟩ := List.mem_map.1 mem
    rw [followedBy, polled_append]
    exact Bool.or_true _
  rw [polledEvents, numbered, numberedFrom_append]
  show List.filter _ ((numbered moves).map (followedBy [.poll]) ++ []) = _
  rw [List.append_nil, List.filter_eq_self.2 reached]

private theorem filter_crowd_poll (es : List (Event × List Move)) :
    ((es.map (followedBy [.poll])).filter fun e => crowd e.2 < capacity).map Prod.fst =
      (es.filter fun e => crowd e.2 < capacity).map Prod.fst := by
  have same : (fun e => decide (crowd e.2 < capacity)) ∘ followedBy [.poll] =
      fun e => decide (crowd e.2 < capacity) := by
    funext e
    rw [Function.comp, followedBy, crowd_poll]
  rw [List.filter_map, same, List.map_map]
  rfl

private theorem polled_of_mem_numberedFrom {n : Nat} {run : List Move} (quiet : polled run = false)
    {e : Event × List Move} (mem : e ∈ numberedFrom n run) : polled e.2 = false := by
  induction run generalizing n with
  | nil => cases mem
  | cons move run ih =>
    cases move with
    | poll => cases quiet
    | append =>
      rcases List.mem_cons.1 mem with rfl | later
      · exact quiet
      · exact ih quiet later

/-- Behind the cursor the journal keeps of the events that have not been polled those that few
others follow, and nothing else. -/
private theorem filter_trim {old : List (Event × List Move)} {run : List Move}
    (quiet : polled run = false) (below : ∀ e ∈ old, e.1.id < (1 + old.length : Nat)) :
    (trim (some capacity) ((old ++ numberedFrom (1 + old.length) run).map Prod.fst)).filter
        (fun e => (old.length : Int) < e.id) =
      ((numberedFrom (1 + old.length) run).filter fun e => crowd e.2 < capacity).map Prod.fst := by
  have count : (numberedFrom (1 + old.length) run).length = run.length :=
    length_numberedFrom_of_not_polled quiet
  have passed : ((old.map Prod.fst).drop (old.length + run.length - capacity)).filter
      (fun e => (old.length : Int) < e.id) = [] := by
    refine List.filter_eq_nil_iff.2 fun e mem => ?_
    obtain ⟨e, listed, rfl⟩ := List.mem_map.1 (List.mem_of_mem_drop mem)
    have low := below e listed
    simp only [decide_eq_true_eq]
    omega
  have above : ∀ e ∈ ((numberedFrom (1 + old.length) run).map Prod.fst).drop
      (run.length - capacity), decide ((old.length : Int) < e.id) = true := by
    intro e mem
    obtain ⟨e, listed, rfl⟩ := List.mem_map.1 (List.mem_of_mem_drop mem)
    have high := le_id_of_mem_numberedFrom listed
    refine decide_eq_true ?_
    omega
  have start : old.length + run.length - capacity - old.length = run.length - capacity := by omega
  rw [filter_crowd_numberedFrom _ _ quiet, List.map_drop, trim, List.length_map, List.length_append,
    count, List.map_append, List.drop_append, List.filter_append, passed, List.length_map, start,
    List.filter_eq_self.2 above, List.nil_append]

theorem Kept.poll (kept : s.Kept capacity moves) :
    (s.after .poll).Kept capacity (moves ++ [.poll]) where
  room := kept.room
  last := by
    rw [numbered, numberedFrom_append, List.length_append, List.length_map]
    exact kept.last
  events := by
    rw [numbered, numberedFrom_append, List.map_append, List.map_map]
    exact kept.events.trans (congrArg (trim _) (List.append_nil _).symm)
  cursor := by
    rw [polledEvents_poll, List.length_map]
    exact congrArg Nat.cast kept.last
  received := by
    obtain ⟨old, run, split, quiet, earlier⟩ := exists_split 1 moves
    have polledOnes : polledEvents moves = old := by
      have unpolled : ∀ e ∈ numberedFrom (1 + old.length) run, ¬ polled e.2 = true := fun e mem =>
        Bool.eq_false_iff.1 (polled_of_mem_numberedFrom quiet mem)
      rw [polledEvents, numbered, split, List.filter_append,
        List.filter_eq_self.2 fun e mem => (earlier e mem).1, List.filter_eq_nil_iff.2 unpolled,
        List.append_nil]
    show s.received ++ s.journal.events.filter (fun e => s.cursor < e.id) = _
    rw [polledEvents_poll, filter_crowd_poll, kept.received, kept.events, kept.cursor, polledOnes,
      numbered, split, filter_trim quiet fun e mem => (earlier e mem).2, List.filter_append,
      List.map_append]

end Poll

theorem kept_start (capacity : Nat) :
    ({ journal := { capacity := some capacity } } : Followed).Kept capacity [] where
  room := rfl
  last := rfl
  events := (List.drop_nil).symm
  cursor := rfl
  received := rfl

theorem kept_course (capacity : Nat) (moves : List Move) :
    (({ journal := { capacity := some capacity } } : Followed).course moves).Kept capacity
      moves := by
  induction moves using List.reverseRecOn with
  | nil => exact kept_start capacity
  | append_singleton moves move ih =>
    rw [course, List.foldl_append]
    cases move with
    | append level text details => exact ih.append level text details
    | poll => exact ih.poll

end Followed

/-! ## Stretches -/

section Stretches

variable {capacity n count : Nat} {moves later : List Move}

/-- When no polled event was pushed out, few events were appended before the first poll. -/
private theorem crowd_le
    (few : ∀ e ∈ numberedFrom n later, polled e.2 = true → crowd e.2 < capacity)
    (reached : polled later = true) : crowd later ≤ capacity := by
  cases later with
  | nil => cases reached
  | cons move later =>
    cases move with
    | append => exact few _ List.mem_cons_self reached
    | poll => exact Nat.zero_le capacity

/-- The induction counts what was appended since the last poll, which the first stretch goes on. -/
private theorem stretchesFrom_le_iff :
    (∀ k ∈ stretchesFrom count moves, k ≤ capacity) ↔
      (polled moves = true → count + crowd moves ≤ capacity) ∧
        ∀ e ∈ numberedFrom n moves, polled e.2 = true → crowd e.2 < capacity := by
  induction moves generalizing n count with
  | nil => exact ⟨fun _ => ⟨nofun, nofun⟩, fun _ => nofun⟩
  | cons move later ih =>
    cases move with
    | append level text details =>
      have longer : count + crowd (.append level text details :: later) =
          count + 1 + crowd later := by
        rw [Nat.add_right_comm]
        rfl
      rw [stretchesFrom, ih (n := n + 1), longer, numberedFrom, List.forall_mem_cons]
      constructor
      · rintro ⟨first, others⟩
        refine ⟨first, fun reached => ?_, others⟩
        have := first reached
        show crowd later < capacity
        omega
      · rintro ⟨first, -, others⟩
        exact ⟨first, others⟩
    | poll =>
      rw [stretchesFrom, List.forall_mem_cons, ih (n := n), numberedFrom, Nat.zero_add]
      constructor
      · rintro ⟨first, -, others⟩
        exact ⟨fun _ => first, others⟩
      · rintro ⟨first, others⟩
        exact ⟨first rfl, crowd_le others, others⟩

theorem stretches_le_iff :
    (∀ k ∈ stretches moves, k ≤ capacity) ↔
      ∀ e ∈ polledEvents moves, crowd e.2 < capacity := by
  rw [stretches, stretchesFrom_le_iff (n := 1)]
  constructor
  · rintro ⟨-, few⟩ e mem
    obtain ⟨listed, reached⟩ := List.mem_filter.1 mem
    exact few e listed reached
  · intro few
    have others : ∀ e ∈ numberedFrom 1 moves, polled e.2 = true → crowd e.2 < capacity :=
      fun e mem reached => few e (List.mem_filter.2 ⟨mem, reached⟩)
    rw [Nat.zero_add]
    exact ⟨crowd_le others, others⟩

/-- Nothing that was polled is left out exactly when every stretch is short. -/
theorem kept_eq_polled_iff :
    ((polledEvents moves).filter fun e => crowd e.2 < capacity).map Prod.fst =
        (polledEvents moves).map Prod.fst ↔ ∀ k ∈ stretches moves, k ≤ capacity := by
  rw [stretches_le_iff]
  constructor
  · intro all
    have count := congrArg List.length all
    rw [List.length_map, List.length_map, List.length_filter_eq_length_iff] at count
    exact fun e mem => of_decide_eq_true (count e mem)
  · intro few
    rw [List.filter_eq_self.2 fun e mem => decide_eq_true (few e mem)]

end Stretches

/-- The newest of all events have the numbers up to the count of all. -/
theorem map_id_newest (moves : List Move) {k : Nat} (few : k ≤ (numbered moves).length) :
    (((numbered moves).map Prod.fst).drop ((numbered moves).length - k)).map Event.id =
      (List.range' ((numbered moves).length - k + 1) k).map Nat.cast := by
  have ids : ((numbered moves).map Prod.fst).map Event.id =
      (List.range' 1 (numbered moves).length).map Nat.cast := by
    rw [List.map_map]
    exact ids_numberedFrom 1 moves
  rw [List.map_drop, ids, ← List.map_drop, List.drop_range', Nat.sub_sub_self few, Nat.mul_one,
    Nat.add_comm 1]

/-- **Polling repeats nothing and loses only what was pushed out.** Whatever is appended to a new
journal and whenever its client polls, the client has received, of the events before the last poll,
all but those that as many others followed as the journal keeps before the client polled again. It
has them in the order in which they were appended, each once; and it has all of them exactly when no
more events than the journal keeps lie between a poll and the one before it, or the start. At every
moment the journal holds the newest events, as many as it keeps, with the numbers up to the count of
all events. -/
theorem polling_course (capacity : Nat) (moves : List Move) :
    ∃ journal, ofCapacity (some (capacity : Int)) = .ok journal ∧
      let s := ({ journal } : Followed).course moves
      let events := (numbered moves).map Prod.fst
      let held := min events.length capacity
      s.received = ((polledEvents moves).filter fun e => crowd e.2 < capacity).map Prod.fst ∧
      s.received.Sublist events ∧
      s.received.Pairwise (fun e e' => e.id < e'.id) ∧
      (s.received = (polledEvents moves).map Prod.fst ↔ ∀ n ∈ stretches moves, n ≤ capacity) ∧
      s.journal.history none = events.drop (events.length - held) ∧
      (s.journal.history none).map Event.id =
        (List.range' (events.length - held + 1) held).map Nat.cast := by
  have made : ofCapacity (some (capacity : Int)) = .ok { capacity := some capacity } := by
    rw [ofCapacity, if_neg (by omega), Int.toNat_natCast]
  refine ⟨_, made, ?_⟩
  intro s events held
  obtain ⟨-, -, kept, -, received⟩ := Followed.kept_course capacity moves
  have count : events.length = (numbered moves).length := List.length_map ..
  have history : s.journal.history none = events.drop (events.length - held) := by
    have pushedOut : events.length - capacity = events.length - held := by
      show _ = events.length - min events.length capacity
      omega
    exact pushedOut ▸ kept
  have part : ((polledEvents moves).filter fun e => crowd e.2 < capacity).Sublist
      (numbered moves) := List.filter_sublist.trans List.filter_sublist
  refine ⟨received, ?_, ?_, ?_, history, ?_⟩
  · rw [received]
    exact part.map Prod.fst
  · rw [received, List.pairwise_map]
    exact pairwise_numberedFrom.sublist part
  · rw [received]
    exact kept_eq_polled_iff
  · rw [history, count]
    exact map_id_newest moves (count ▸ Nat.min_le_left events.length capacity)

example : (({ journal := { capacity := some 2 } } : Followed).course
    [.append "info" "a" [], .poll, .append "info" "b" [], .append "info" "c" [],
      .append "info" "d" [], .poll]).received.map Event.text = ["a", "c", "d"] := by decide

end Formwork.Journal
