import Formwork.Files.Tree

/-!
# What writing does to a tree

Writing never takes a directory away, and what the system says of paths stays the same
(`FileTree.Keeps`), so a path that leads to a place goes on leading there. From that it follows what
is read after a file has been written: the written bytes where the path leads to the written place,
and what was there before anywhere else.

`FileM.writeInto` makes directories first. Where it succeeds the text can be read back
(`read_writeInto`), and writing to the same path succeeds again (`writeInto_again`). What becomes of
the other files, and what a failure leaves behind, is told with the changes that operations make.
-/

set_option autoImplicit false

namespace Formwork

/-- An error with another name is an error still. -/
theorem mapError_eq_ok_iff {ε ε' α : Type} {x : Except ε α} {f : ε → ε'} {a : α} :
    x.mapError f = .ok a ↔ x = .ok a := by
  cases x with
  | ok b => exact ⟨fun h => congrArg _ (Except.ok.inj h), fun h => congrArg _ (Except.ok.inj h)⟩
  | error e => constructor <;> rintro ⟨⟩

/-- A step that fails ends all that it is a part of. Otherwise the rest goes on with what it leaves
behind. -/
theorem run_run_bind {ε σ α β : Type} (m : ExceptT ε (StateM σ) α)
    (f : α → ExceptT ε (StateM σ) β) (s : σ) : (m >>= f).run.run s =
      match m.run.run s with
      | (.ok a, s') => (f a).run.run s'
      | (.error e, s') => (.error e, s') := by
  change (ExceptT.bindCont f (m.run.run s).1).run (m.run.run s).2 = _
  cases ran : m.run.run s with
  | mk result s' => cases result <;> rfl

namespace FileTree

variable {t u v : FileTree} {l m : Location} {p q : Path} {b c : ByteArray}

/-- Every directory of the one tree is a directory of the other. -/
structure Keeps (t u : FileTree) : Prop where
  ground : u.ground = t.ground
  directory : ∀ l, t.entry? l = some .directory → u.entry? l = some .directory

/-- Whatever lies in the one tree lies in the other. -/
structure Extends (t u : FileTree) : Prop where
  ground : u.ground = t.ground
  entry : ∀ l e, t.entry? l = some e → u.entry? l = some e

theorem Keeps.refl (t : FileTree) : t.Keeps t := ⟨rfl, fun _ found => found⟩

theorem Keeps.trans (h : t.Keeps u) (k : u.Keeps v) : t.Keeps v :=
  ⟨k.ground.trans h.ground, fun l found => k.directory l (h.directory l found)⟩

theorem Extends.refl (t : FileTree) : t.Extends t := ⟨rfl, fun _ _ found => found⟩

theorem Extends.trans (h : t.Extends u) (k : u.Extends v) : t.Extends v :=
  ⟨k.ground.trans h.ground, fun l e found => k.entry l e (h.entry l e found)⟩

theorem Extends.keeps (h : t.Extends u) : t.Keeps u := ⟨h.ground, fun l => h.entry l .directory⟩

/-- A path names the same place as before. -/
theorem Keeps.place_eq (h : t.Keeps u) (p : Path) : u.place p = t.place p := by
  rw [place, place, h.ground]

/-- The tree without what lies at a place. -/
def remove (t : FileTree) (l : Location) : FileTree :=
  { t with entries := t.entries.filter fun old => old.1 != l }

theorem find?_remove (t : FileTree) (l m : Location) :
    (t.remove l).entries.find? (fun e => e.1 == m) =
      if m = l then none else t.entries.find? fun e => e.1 == m := by
  by_cases same : m = l
  · subst same
    rw [if_pos rfl, List.find?_eq_none]
    intro old kept found
    have differs := (List.mem_filter.1 kept).2
    rw [beq_iff_eq.1 found, bne_self_eq_false] at differs
    cases differs
  · rw [if_neg same, remove, List.find?_filter]
    congr 1
    funext old
    by_cases found : old.1 = m
    · simp [found, same]
    · simp [found]

theorem isAbove_eq_false (free : t.entry? l ≠ some .directory) : t.isAbove l = false := by
  rw [Bool.eq_false_iff]
  exact fun above => free (if_pos above)

/-- What lies where after a file has been removed. -/
theorem entry?_remove (free : t.entry? l ≠ some .directory) (m : Location) :
    FileTree.entry? (t.remove l) m = if m = l then none else t.entry? m := by
  have above : (t.remove l).isAbove m = t.isAbove m := rfl
  rw [ entry?, entry?, find?_remove, above]
  by_cases same : m = l
  · rw [same, isAbove_eq_false free, if_pos rfl, if_pos rfl]
    rfl
  · rw [if_neg same, if_neg same]

/-- What lies where after something has been put at a place that is no directory. -/
theorem entry?_put (e : FileEntry) (free : t.entry? l ≠ some .directory) (m : Location) :
    FileTree.entry? (t.put l e) m = if m = l then some e else t.entry? m := by
  have parts : (t.put l e).entries = (t.remove l).entries ++ [(l, e)] := rfl
  have above : (t.put l e).isAbove m = t.isAbove m := rfl
  rw [ entry?, parts, List.find?_append, find?_remove, above]
  by_cases same : m = l
  · rw [same, isAbove_eq_false free, if_pos rfl, if_pos rfl]
    simp
  · have last : ([(l, e)] : List (Location × FileEntry)).find? (fun e => e.1 == m) = none := by
      simp [Ne.symm same]
    rw [if_neg same, if_neg same, last, Option.or_none, entry?]

theorem keeps_put (e : FileEntry) (free : t.entry? l ≠ some .directory) :
    t.Keeps (t.put l e) := by
  refine ⟨rfl, fun m found => ?_⟩
  rw [entry?_put e free, if_neg]
  · exact found
  · rintro rfl
    exact free found

theorem extends_put (e : FileEntry) (free : t.entry? l = none) : t.Extends (t.put l e) := by
  refine ⟨rfl, fun m e' found => ?_⟩
  rw [entry?_put e (by rw [free]; nofun), if_neg]
  · exact found
  · rintro rfl
    rw [free] at found
    cases found

/-! ## Ways -/

/-- A step is made unless it is barred. -/
theorem step_eq_ok_iff {here : Location} {s : Text.Raw} :
    t.step here s = .ok l ↔ t.ground.bar? here s = none ∧ l = here.enter s := by
  unfold step
  cases t.ground.bar? here s with
  | none => simp [eq_comm]
  | some bar => simp

/-- A way goes on from a directory only. -/
theorem follow_cons_eq_ok_iff {here : Location} {s s' : Text.Raw} {ss : List Text.Raw} :
    t.follow here (s :: s' :: ss) = .ok l ↔ t.ground.bar? here s = none ∧
      t.entry? (here.enter s) = some .directory ∧ t.follow (here.enter s) (s' :: ss) = .ok l := by
  simp only [follow, step]
  cases t.ground.bar? here s with
  | some bar => exact iff_of_false nofun fun h => nomatch h.1
  | none =>
    simp only [bind, Except.bind, true_and]
    cases found : t.entry? (here.enter s) with
    | none => simp
    | some e => cases e <;> simp

theorem follow_of_keeps (keeps : t.Keeps u) {here : Location} {ss : List Text.Raw}
    (h : t.follow here ss = .ok l) : u.follow here ss = .ok l := by
  induction ss generalizing here with
  | nil => exact h
  | cons s ss ih =>
    cases ss with
    | nil =>
      have free := step_eq_ok_iff.1 h
      rw [← keeps.ground] at free
      exact step_eq_ok_iff.2 free
    | cons s' ss =>
      obtain ⟨free, found, rest⟩ := follow_cons_eq_ok_iff.1 h
      rw [← keeps.ground] at free
      exact follow_cons_eq_ok_iff.2 ⟨free, keeps.directory _ found, ih rest⟩

/-- A path leads where its way does, if it is one and not too long. -/
theorem locate_eq_ok_iff_follow : t.locate p = .ok l ↔
    p.isNameable = true ∧ t.ground.isTooLong p = false ∧
      t.follow (p.origin t.ground.home) p.segments = .ok l := by
  unfold locate
  cases p.isNameable with
  | false => simp
  | true =>
    cases t.ground.isTooLong p with
    | true => simp
    | false => simp [mapError_eq_ok_iff]

theorem locate_of_keeps (keeps : t.Keeps u) (h : t.locate p = .ok l) : u.locate p = .ok l := by
  obtain ⟨named, short, followed⟩ := locate_eq_ok_iff_follow.1 h
  rw [← keeps.ground] at short followed
  exact locate_eq_ok_iff_follow.2 ⟨named, short, follow_of_keeps keeps followed⟩

theorem isDirectory_iff :
    t.isDirectory p = true ↔ ∃ l, t.locate p = .ok l ∧ t.entry? l = some .directory := by
  unfold isDirectory lookup?
  cases located : t.locate p with
  | error e => simp
  | ok l =>
    cases found : t.entry? l with
    | none => simp [found]
    | some e => cases e <;> simp [found]

theorem isDirectory_of_keeps (keeps : t.Keeps u) (h : t.isDirectory p = true) :
    u.isDirectory p = true := by
  obtain ⟨l, located, found⟩ := isDirectory_iff.1 h
  exact isDirectory_iff.2 ⟨l, locate_of_keeps keeps located, keeps.directory l found⟩

/-! ## Reading and writing -/

theorem read_eq_ok : t.read p = .ok b ↔ ∃ l, t.locate p = .ok l ∧ t.entry? l = some (.file b) := by
  unfold read
  cases located : t.locate p with
  | error e => simp [bind, Except.bind]
  | ok l =>
    cases found : t.entry? l with
    | none => simp [bind, Except.bind, found]
    | some e => cases e <;> simp [bind, Except.bind, found]

theorem write_eq_ok : t.write p b = .ok u ↔
    ∃ l, t.locate p = .ok l ∧ t.entry? l ≠ some .directory ∧ u = t.put l (.file b) := by
  unfold write
  cases located : t.locate p with
  | error e => simp [bind, Except.bind]
  | ok l =>
    cases found : t.entry? l with
    | none => simp [bind, Except.bind, found, eq_comm]
    | some e => cases e <;> simp [bind, Except.bind, found, eq_comm]

theorem keeps_write (h : t.write p b = .ok u) : t.Keeps u := by
  obtain ⟨l, _, free, rfl⟩ := write_eq_ok.1 h
  exact keeps_put _ free

/-- What has been written is read. -/
theorem read_write (h : t.write p b = .ok u) : u.read p = .ok b := by
  have keeps := keeps_write h
  obtain ⟨l, located, free, rfl⟩ := write_eq_ok.1 h
  refine read_eq_ok.2 ⟨l, locate_of_keeps keeps located, ?_⟩
  rw [entry?_put _ free, if_pos rfl]

/-- A file is read as before, unless the path leads to the file that has been written. -/
theorem read_write_other (h : t.write p b = .ok u) (before : t.read q = .ok c) :
    u.read q = .ok c ∨ u.read q = .ok b := by
  have keeps := keeps_write h
  obtain ⟨l, _, free, rfl⟩ := write_eq_ok.1 h
  obtain ⟨m, located, found⟩ := read_eq_ok.1 before
  have there := locate_of_keeps keeps located
  by_cases same : m = l
  · refine .inr (read_eq_ok.2 ⟨m, there, ?_⟩)
    rw [entry?_put _ free, if_pos same]
  · refine .inl (read_eq_ok.2 ⟨m, there, ?_⟩)
    rw [entry?_put _ free, if_neg same, found]

theorem read_of_extends (extended : t.Extends u) (h : t.read p = .ok b) : u.read p = .ok b := by
  obtain ⟨l, located, found⟩ := read_eq_ok.1 h
  exact read_eq_ok.2 ⟨l, locate_of_keeps extended.keeps located, extended.entry l _ found⟩

theorem makeDirectory_eq_ok : t.makeDirectory p = .ok u ↔
    ∃ l, t.locate p = .ok l ∧ t.entry? l = none ∧ u = t.put l .directory := by
  unfold makeDirectory
  cases located : t.locate p with
  | error e => simp [bind, Except.bind]
  | ok l => cases found : t.entry? l <;> simp [bind, Except.bind, found, eq_comm]

theorem makeDirectory_ok (h : t.makeDirectory p = .ok u) :
    t.Extends u ∧ u.isDirectory p = true := by
  obtain ⟨l, located, free, rfl⟩ := makeDirectory_eq_ok.1 h
  have extended := extends_put .directory free
  refine ⟨extended, isDirectory_iff.2 ⟨l, locate_of_keeps extended.keeps located, ?_⟩⟩
  rw [entry?_put _ (by rw [free]; nofun), if_pos rfl]

theorem makeDirectory_of_isDirectory (h : t.isDirectory p = true) :
    t.makeDirectory p = .error (.refused .exists p) := by
  obtain ⟨l, located, found⟩ := isDirectory_iff.1 h
  simp only [makeDirectory, located, found, bind, Except.bind]

end FileTree

namespace FileM

open FileTree

variable {t u v : FileTree} {p q : Path} {s : String} {b : ByteArray}

theorem run_get {α : Type} (f : FileTree → FileM α) (t : FileTree) :
    ((get : FileM FileTree) >>= f).run.run t = (f t).run.run t := rfl

theorem exists_of_run_bind {α β : Type} {m : FileM α} {f : α → FileM β} {answer : β}
    (h : (m >>= f).run.run t = (.ok answer, v)) :
    ∃ a u, m.run.run t = (.ok a, u) ∧ (f a).run.run u = (.ok answer, v) := by
  rw [run_run_bind] at h
  cases ran : m.run.run t with
  | mk result u =>
    rw [ran] at h
    cases result with
    | error e => cases h
    | ok a => exact ⟨a, u, rfl, h⟩

theorem run_orDirectory (e : FileError) :
    (orDirectory p e).run.run t = if t.isDirectory p then (.ok (), t) else (.error e, t) := by
  rw [orDirectory, run_get]
  cases t.isDirectory p <;> rfl

theorem run_ensureDirectory : (ensureDirectory p).run.run t =
    match t.makeDirectory p with
    | .ok u => (.ok (), u)
    | .error e => (orDirectory p e).run.run t := by
  rw [ensureDirectory, run_get]
  cases t.makeDirectory p <;> rfl

private theorem orDirectory_ok {e : FileError} (h : (orDirectory p e).run.run t = (.ok (), u)) :
    t.Extends u ∧ u.isDirectory p = true := by
  rw [run_orDirectory] at h
  split at h
  · rename_i found
    cases h
    exact ⟨.refl t, found⟩
  · cases h

theorem ensureDirectory_ok (h : (ensureDirectory p).run.run t = (.ok (), u)) :
    t.Extends u ∧ u.isDirectory p = true := by
  rw [run_ensureDirectory] at h
  split at h
  · rename_i made
    cases h
    exact makeDirectory_ok made
  · exact orDirectory_ok h

/-- Where directories are made, nothing is lost, and the path leads to one afterwards. -/
theorem ensureDirectories_ok {p : Path} {t u : FileTree}
    (h : (ensureDirectories p).run.run t = (.ok (), u)) :
    t.Extends u ∧ u.isDirectory p = true := by
  rw [ensureDirectories, run_get] at h
  split at h
  · rename_i made
    cases h
    exact makeDirectory_ok made
  · split at h
    · cases h
    · rename_i deeper
      obtain ⟨_, v, above, last⟩ := exists_of_run_bind h
      have shorter : p.parent.segments.length < p.segments.length := by
        have := List.length_pos_iff.2 deeper
        rw [Path.parent, List.length_dropLast]
        omega
      obtain ⟨extended, _⟩ := ensureDirectories_ok above
      obtain ⟨extended', found⟩ := ensureDirectory_ok last
      exact ⟨extended.trans extended', found⟩
  · exact orDirectory_ok h
termination_by p.segments.length

theorem ensureDirectories_of_isDirectory (h : t.isDirectory p = true) :
    (ensureDirectories p).run.run t = (.ok (), t) := by
  rw [ensureDirectories, run_get, makeDirectory_of_isDirectory h]
  show (orDirectory p _).run.run t = _
  rw [run_orDirectory, if_pos h]

theorem run_writeText : (writeText p s).run.run t =
    match t.write p s.toUTF8 with
    | .ok u => (.ok (), u)
    | .error e => (.error e, t) := by
  rw [writeText, step, run_get]
  cases t.write p s.toUTF8 <;> rfl

private theorem writeText_ok (h : (writeText p s).run.run t = (.ok (), u)) :
    t.write p s.toUTF8 = .ok u := by
  rw [run_writeText] at h
  split at h
  · rename_i written
    cases h
    exact written
  · cases h

private theorem writeInto_steps (h : (writeInto p s).run.run t = (.ok (), v)) :
    ∃ u, t.Extends u ∧ u.isDirectory p.parent = true ∧ u.write p s.toUTF8 = .ok v := by
  obtain ⟨_, u, made, written⟩ := exists_of_run_bind h
  obtain ⟨extended, found⟩ := ensureDirectories_ok made
  exact ⟨u, extended, found, writeText_ok written⟩

/-- A text that has been written is read. -/
theorem read_writeInto (h : (writeInto p s).run.run t = (.ok (), v)) :
    v.read p = .ok s.toUTF8 := by
  obtain ⟨u, _, _, written⟩ := writeInto_steps h
  exact read_write written

/-- A file is read as before, unless the path leads to the file that has been written. -/
theorem read_writeInto_other (h : (writeInto p s).run.run t = (.ok (), v))
    (before : t.read q = .ok b) : v.read q = .ok b ∨ v.read q = .ok s.toUTF8 := by
  obtain ⟨u, extended, _, written⟩ := writeInto_steps h
  exact read_write_other written (read_of_extends extended before)

/-- So is a text that has been written beside what lies there. -/
theorem read_writeBeside (h : (writeBeside p s).run.run t = (.ok (), v)) :
    v.read p = .ok s.toUTF8 := by
  rw [writeBeside, run_get] at h
  split at h
  next => cases h
  next => exact read_write (writeText_ok h)
  next => exact read_writeInto h

theorem writeInto_of_write (found : t.isDirectory p.parent = true)
    (written : t.write p s.toUTF8 = .ok u) : (writeInto p s).run.run t = (.ok (), u) := by
  rw [writeInto, run_run_bind, ensureDirectories_of_isDirectory found]
  show (writeText p s).run.run t = _
  rw [run_writeText, written]

/-- Where a text has been written, another can be. -/
theorem writeInto_again {s' : String} (h : (writeInto p s).run.run t = (.ok (), v)) :
    ∃ v', (writeInto p s').run.run v = (.ok (), v') := by
  obtain ⟨u, _, found, written⟩ := writeInto_steps h
  obtain ⟨l, located, file⟩ := read_eq_ok.1 (read_write written)
  have again : v.write p s'.toUTF8 = .ok (v.put l (.file s'.toUTF8)) :=
    write_eq_ok.2 ⟨l, located, by rw [file]; nofun, rfl⟩
  exact ⟨_, writeInto_of_write (isDirectory_of_keeps (keeps_write written) found) again⟩

end FileM

end Formwork
