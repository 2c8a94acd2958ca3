import Formwork.Proofs.Files.Ways

/-!
# What an operation on files changes

`FileTree.ChangesOnly` says which files may differ between two trees; directories may have been made
in between, and none is lost. Every operation is described by all that can come of it, failures
included: making directories changes no file (`FileM.ensures_ensureDirectories`), and writing a text
changes at most the file at the place that its path resolves to, and that only where it succeeds
(`FileM.writes_writeInto`, `FileM.writes_writeBeside`).

The directories that a path lacks can all be made exactly if no file is in the way and the system
lets the path pass (`FileTree.Allows`). So a path that leads nowhere may lead to an old file once
they are there: in `x/../f` the directory `x` is made, and `f` is written.
-/

set_option autoImplicit false

namespace Formwork

namespace FileTree

variable {S : Location → Prop} {t u v : FileTree} {l : Location} {p : Path} {b : ByteArray}

/-- Files outside of `S` are the same in both trees, and no directory is lost. -/
structure ChangesOnly (S : Location → Prop) (t u : FileTree) : Prop where
  bytes : ∀ l, ¬S l → u.bytes? l = t.bytes? l
  keeps : t.Keeps u

/-- All files are the same in both trees, and no directory is lost. -/
def SameFiles (t u : FileTree) : Prop := t.ChangesOnly (fun _ => False) u

theorem ChangesOnly.trans (h : t.ChangesOnly S u) (k : u.ChangesOnly S v) : t.ChangesOnly S v where
  bytes l outside := (k.bytes l outside).trans (h.bytes l outside)
  keeps := h.keeps.trans k.keeps

theorem SameFiles.refl (t : FileTree) : t.SameFiles t := ⟨fun _ _ => rfl, .refl t⟩

theorem SameFiles.trans (h : t.SameFiles u) (k : u.SameFiles v) : t.SameFiles v :=
  ChangesOnly.trans h k

theorem SameFiles.changesOnly (h : t.SameFiles u) : t.ChangesOnly S u :=
  ⟨fun l _ => h.bytes l not_false, h.keeps⟩

theorem SameFiles.bytes?_eq (h : t.SameFiles u) (l : Location) : u.bytes? l = t.bytes? l :=
  h.bytes l not_false

theorem SameFiles.place_eq (h : t.SameFiles u) (p : Path) : u.place p = t.place p :=
  h.keeps.place_eq p

theorem SameFiles.clear_iff (h : t.SameFiles u) : u.Clear p ↔ t.Clear p := by
  simp only [Clear, h.bytes?_eq, h.keeps.ground]

theorem SameFiles.passes_iff (h : t.SameFiles u) : u.Passes p ↔ t.Passes p :=
  passes_congr h.keeps.ground

/-- Nothing keeps the directories of a path from being made where they are not there: the system lets
the path pass, and no file is in the way. -/
structure Allows (t : FileTree) (p : Path) : Prop where
  passes : t.Passes p
  clear : t.Clear p

theorem SameFiles.allows_iff (h : t.SameFiles u) : u.Allows p ↔ t.Allows p := by
  constructor
  · rintro ⟨passes, clear⟩
    exact ⟨h.passes_iff.1 passes, h.clear_iff.1 clear⟩
  · rintro ⟨passes, clear⟩
    exact ⟨h.passes_iff.2 passes, h.clear_iff.2 clear⟩

theorem Allows.parent (h : t.Allows p) : t.Allows p.parent :=
  ⟨h.passes.parent, (FileTree.clear_iff.1 h.clear).1⟩

/-- A file that is none of those that may differ is read as before. -/
theorem ChangesOnly.read (h : t.ChangesOnly S u) (outside : ¬S (t.place p))
    (found : t.read p = .ok b) : u.read p = .ok b := by
  obtain ⟨named, passes, inside, file⟩ := read_eq_ok_iff.1 found
  refine read_eq_ok_iff.2 ⟨named, (passes_congr h.keeps.ground).2 passes,
    inside.of_keeps h.keeps, ?_⟩
  rw [h.keeps.place_eq, h.bytes _ outside, file]

theorem changesOnly_put (free : t.entry? l ≠ some .directory) :
    t.ChangesOnly (· = l) (t.put l (.file b)) where
  bytes m other := by rw [bytes?, entry?_put _ free, if_neg other, bytes?]
  keeps := keeps_put _ free

theorem changesOnly_remove (free : t.entry? l ≠ some .directory) :
    t.ChangesOnly (· = l) (t.remove l) where
  bytes m other := by rw [bytes?, entry?_remove free, if_neg other, bytes?]
  keeps := by
    refine ⟨rfl, fun m found => ?_⟩
    rw [entry?_remove free, if_neg]
    · exact found
    · rintro rfl
      exact free found

theorem sameFiles_put_directory (missing : t.entry? l = none) :
    t.SameFiles (t.put l .directory) where
  bytes m _ := by
    have free : t.entry? l ≠ some .directory := by
      rw [missing]
      nofun
    rw [bytes?, entry?_put _ free]
    by_cases same : m = l
    · rw [if_pos same, same, bytes?_of_missing missing]
    · rw [if_neg same, bytes?]
  keeps := (extends_put _ missing).keeps

/-! ## One step -/

theorem contains_iff : t.contains p = .ok true ↔
    p.isNameable = true ∧ t.Passes p ∧ t.Open p.parent ∧ (t.entry? (t.place p)).isSome := by
  unfold contains
  cases located : t.locate p with
  | error e =>
    refine iff_of_false ?_ fun ⟨named, passes, inside, _⟩ => ?_
    · split
      · rename_i mismatch
        cases mismatch
      · nofun
      · nofun
    · rw [locate_eq_ok_iff.2 ⟨named, passes, inside, rfl⟩] at located
      cases located
  | ok l =>
    obtain ⟨named, passes, inside, rfl⟩ := locate_eq_ok_iff.1 located
    simp [named, passes, inside]

/-- It is known whether something lies where a path leads, unless the system does not let it pass. -/
theorem contains_error {e : FileError} (h : t.contains p = .error e) :
    p.isNameable = true ∧ ∃ bar, e = .refused (.barred bar) p ∧ ¬t.Passes p := by
  unfold contains at h
  cases located : t.locate p with
  | ok l =>
    rw [located] at h
    cases h
  | error e' =>
    rw [located] at h
    rcases locate_error located with
      ⟨rfl, -⟩ | ⟨named, ⟨rfl, -⟩ | ⟨rfl, -⟩ | ⟨bar, rfl, barred⟩⟩
    · cases h
    · cases h
    · cases h
    · exact ⟨named, bar, (Except.error.inj h).symm, barred⟩

theorem sameFiles_of_makeDirectory (h : t.makeDirectory p = .ok u) :
    t.SameFiles u ∧ p.isNameable = true ∧ t.Allows p := by
  obtain ⟨l, located, missing, rfl⟩ := makeDirectory_eq_ok.1 h
  obtain ⟨named, passes, inside, rfl⟩ := locate_eq_ok_iff.1 located
  exact ⟨sameFiles_put_directory missing, named, passes,
    FileTree.clear_iff.2 ⟨inside.clear, bytes?_of_missing missing⟩⟩

/-- At the end of a way of directories, a directory is made unless something lies there already. -/
theorem makeDirectory_error_of_open {e : FileError} (named : p.isNameable = true)
    (passes : t.Passes p) (inside : t.Open p.parent) (h : t.makeDirectory p = .error e) :
    e = .refused .exists p ∧ t.entry? (t.place p) ≠ none := by
  have located := locate_eq_ok_iff.2 ⟨named, passes, inside, rfl⟩
  cases found : t.entry? (t.place p) with
  | none => simp [makeDirectory, located, found, bind, Except.bind] at h
  | some e' =>
    simp only [makeDirectory, located, found, bind, Except.bind, Except.error.injEq] at h
    exact ⟨h.symm, Option.some_ne_none e'⟩

/-- Why a directory is not made: the path has no name, what leads there is missing, the path is not
allowed, or something lies there already. -/
theorem makeDirectory_error {e : FileError} (h : t.makeDirectory p = .error e) :
    (∃ flaw, e = .nameless flaw ∧ p.isNameable = false) ∨ p.isNameable = true ∧
      (e = .refused .missing p ∧ p.segments ≠ [] ∨
        (∃ cause, e = .refused cause p ∧ cause ≠ .missing ∧ ¬t.Allows p) ∨
        e = .refused .exists p ∧ t.Passes p ∧ t.Open p.parent ∧
          t.entry? (t.place p) ≠ none) := by
  cases located : t.locate p with
  | error e' =>
    simp only [makeDirectory, located, bind, Except.bind, Except.error.injEq] at h
    subst h
    rcases locate_error located with
      ⟨rfl, nameless⟩ | ⟨named, missing | ⟨rfl, file⟩ | ⟨bar, rfl, barred⟩⟩
    · exact .inl ⟨_, rfl, nameless⟩
    · exact .inr ⟨named, .inl missing⟩
    · have other : FileError.Cause.notDirectory ≠ .missing := by decide
      exact .inr ⟨named, .inr (.inl ⟨_, rfl, other, fun allows => file allows.parent.clear⟩)⟩
    · have other : FileError.Cause.barred bar ≠ .missing := by rintro ⟨⟩
      exact .inr ⟨named, .inr (.inl ⟨_, rfl, other, fun allows => barred allows.passes⟩)⟩
  | ok l =>
    obtain ⟨named, passes, inside, rfl⟩ := locate_eq_ok_iff.1 located
    obtain ⟨rfl, there⟩ := makeDirectory_error_of_open named passes inside h
    exact .inr ⟨named, .inr (.inr ⟨rfl, passes, inside, there⟩)⟩

/-- What is written is the file at the place that the path resolves to. -/
theorem changesOnly_write (h : t.write p b = .ok u) : t.ChangesOnly (· = t.place p) u := by
  obtain ⟨l, located, free, rfl⟩ := write_eq_ok.1 h
  obtain ⟨-, -, -, rfl⟩ := locate_eq_ok_iff.1 located
  exact changesOnly_put free

theorem open_of_write (h : t.write p b = .ok u) :
    p.isNameable = true ∧ t.Passes p ∧ t.Open p.parent := by
  obtain ⟨l, located, -, -⟩ := write_eq_ok.1 h
  obtain ⟨named, passes, inside, -⟩ := locate_eq_ok_iff.1 located
  exact ⟨named, passes, inside⟩

/-- The path leads to what has been written. -/
theorem locate_write (h : t.write p b = .ok u) : u.locate p = .ok (t.place p) := by
  have keeps := keeps_write h
  obtain ⟨l, located, -, rfl⟩ := write_eq_ok.1 h
  obtain ⟨-, -, -, rfl⟩ := locate_eq_ok_iff.1 located
  exact locate_of_keeps keeps located

/-- Why a file is not written: the path has no name, it does not pass, or it leads nowhere or to a
directory. -/
theorem write_error {e : FileError} (h : t.write p b = .error e) :
    (∃ flaw, e = .nameless flaw ∧ p.isNameable = false) ∨
      p.isNameable = true ∧ (∃ cause, e = .refused cause p) ∧
        (¬t.Passes p ∨ ¬t.Open p.parent ∨ t.entry? (t.place p) = some .directory) := by
  cases located : t.locate p with
  | error e' =>
    simp only [write, located, bind, Except.bind, Except.error.injEq] at h
    subst h
    have stuck (named : p.isNameable = true) : ¬t.Passes p ∨ ¬t.Open p.parent ∨
        t.entry? (t.place p) = some .directory := by
      refine Classical.or_iff_not_imp_left.2 fun passes => .inl fun inside => ?_
      rw [locate_eq_ok_iff.2 ⟨named, Classical.not_not.1 passes, inside, rfl⟩] at located
      cases located
    rcases locate_error located with
      ⟨rfl, nameless⟩ | ⟨named, ⟨rfl, -⟩ | ⟨rfl, -⟩ | ⟨bar, rfl, -⟩⟩
    · exact .inl ⟨_, rfl, nameless⟩
    · exact .inr ⟨named, ⟨_, rfl⟩, stuck named⟩
    · exact .inr ⟨named, ⟨_, rfl⟩, stuck named⟩
    · exact .inr ⟨named, ⟨_, rfl⟩, stuck named⟩
  | ok l =>
    obtain ⟨named, passes, inside, rfl⟩ := locate_eq_ok_iff.1 located
    cases found : t.entry? (t.place p) with
    | none => simp [write, located, found, bind, Except.bind] at h
    | some e' =>
      cases e' with
      | file b' => simp [write, located, found, bind, Except.bind] at h
      | directory =>
        simp only [write, located, found, bind, Except.bind, Except.error.injEq] at h
        exact .inr ⟨named, ⟨_, h.symm⟩, .inr (.inr rfl)⟩

end FileTree

namespace FileM

open FileTree

variable {t u : FileTree} {p : Path} {s : String} {r : Except FileError Unit × FileTree}

/-! ## Directories -/

/-- What comes of making the directories that a path lacks. -/
inductive Ensures (t : FileTree) (p : Path) : Except FileError Unit × FileTree → Prop where
  | made {u : FileTree} (same : t.SameFiles u) (named : p.isNameable = true) (allows : t.Allows p)
    (found : u.isDirectory p = true) : Ensures t p (.ok (), u)
  | blocked {u : FileTree} {cause : FileError.Cause} {q : Path} (same : t.SameFiles u)
    (named : p.isNameable = true) (stopped : ¬t.Allows p) :
    Ensures t p (.error (.refused cause q), u)
  | nameless {u : FileTree} {flaw : Text.Flaw} (same : t.SameFiles u)
    (nameless : p.isNameable = false) : Ensures t p (.error (.nameless flaw), u)

theorem Ensures.of_same (h : Ensures u p r) (same : t.SameFiles u) : Ensures t p r := by
  cases h with
  | made same' named allows found =>
    exact .made (same.trans same') named (same.allows_iff.1 allows) found
  | blocked same' named stopped =>
    exact .blocked (same.trans same') named (mt same.allows_iff.2 stopped)
  | nameless same' nameless => exact .nameless (same.trans same') nameless

/-- Something lies where the last directory should be. -/
theorem ensures_orDirectory (named : p.isNameable = true) (passes : t.Passes p)
    (inside : t.Open p.parent) (there : t.entry? (t.place p) ≠ none) :
    Ensures t p ((orDirectory p (.refused .exists p)).run.run t) := by
  rw [run_orDirectory]
  cases found : t.isDirectory p with
  | true =>
    rw [if_pos rfl]
    exact .made (.refl t) named ⟨passes, (isDirectory_iff_open.1 found).2.2.clear⟩ found
  | false =>
    rw [if_neg Bool.false_ne_true]
    refine .blocked (.refl t) named fun allows => ?_
    have no_file := (FileTree.clear_iff.1 allows.clear).2
    cases entry : t.entry? (t.place p) with
    | none => exact there entry
    | some e =>
      cases e with
      | file b => rw [bytes?_eq_some.2 entry] at no_file; cases no_file
      | directory =>
        rw [isDirectory_iff_open.2 ⟨named, passes, open_iff.2 ⟨inside, entry⟩⟩] at found
        cases found

/-- The directories that lead to it are there. -/
theorem ensures_ensureDirectory (named : p.isNameable = true) (inside : t.Open p.parent) :
    Ensures t p ((ensureDirectory p).run.run t) := by
  rw [run_ensureDirectory]
  cases made : t.makeDirectory p with
  | ok u =>
    obtain ⟨same, -, allows⟩ := sameFiles_of_makeDirectory made
    exact .made same named allows (makeDirectory_ok made).2
  | error e =>
    by_cases passes : t.Passes p
    · obtain ⟨rfl, there⟩ := makeDirectory_error_of_open named passes inside made
      exact ensures_orDirectory named passes inside there
    · have nowhere : t.isDirectory p = false := by
        rw [Bool.eq_false_iff]
        exact fun found => passes (isDirectory_iff_open.1 found).2.1
      show Ensures t p ((orDirectory p e).run.run t)
      rw [run_orDirectory, nowhere]
      rcases makeDirectory_error made with
        ⟨_, -, nameless⟩ | ⟨-, ⟨rfl, -⟩ | ⟨_, rfl, -⟩ | ⟨rfl, -⟩⟩
      · cases named.symm.trans nameless
      all_goals exact .blocked (.refl t) named fun allows => passes allows.passes

theorem ensures_ensureDirectories (t : FileTree) (p : Path) :
    Ensures t p ((ensureDirectories p).run.run t) := by
  rw [ensureDirectories, run_get]
  split
  next u made =>
    obtain ⟨same, named, allows⟩ := sameFiles_of_makeDirectory made
    exact .made same named allows (makeDirectory_ok made).2
  next q failed =>
    rcases makeDirectory_error failed with
      ⟨_, mismatch, -⟩ | ⟨named, ⟨-, deeper⟩ | ⟨_, same, other, -⟩ | ⟨mismatch, -⟩⟩
    · cases mismatch
    · rw [dif_neg deeper]
      have shorter : p.parent.segments.length < p.segments.length := by
        have := List.length_pos_iff.2 deeper
        rw [Path.parent, List.length_dropLast]
        omega
      have above := ensures_ensureDirectories t p.parent
      rw [run_run_bind]
      generalize (ensureDirectories p.parent).run.run t = ran at above
      cases above with
      | made same _ _ found =>
        exact (ensures_ensureDirectory named (isDirectory_iff_open.1 found).2.2).of_same same
      | blocked same _ stopped => exact .blocked same named fun allows => stopped allows.parent
      | nameless same nameless =>
        rw [Path.isNameable_parent named] at nameless
        cases nameless
    · cases same
      exact absurd rfl other
    · cases mismatch
  next e other failed =>
    rcases makeDirectory_error failed with
      ⟨_, rfl, nameless⟩ | ⟨named, ⟨rfl, -⟩ | ⟨_, rfl, -, stopped⟩ | ⟨rfl, passes, inside, there⟩⟩
    · have nowhere : t.isDirectory p = false := by
        rw [Bool.eq_false_iff]
        intro found
        rw [(isDirectory_iff_open.1 found).1] at nameless
        cases nameless
      rw [run_orDirectory, nowhere]
      exact .nameless (.refl t) nameless
    · exact absurd rfl (other p)
    · have nowhere : t.isDirectory p = false := by
        rw [Bool.eq_false_iff]
        intro found
        obtain ⟨-, passes, inside⟩ := isDirectory_iff_open.1 found
        exact stopped ⟨passes, inside.clear⟩
      rw [run_orDirectory, nowhere]
      exact .blocked (.refl t) named stopped
    · exact ensures_orDirectory named passes inside there
termination_by p.segments.length

/-! ## Texts -/

/-- What comes of writing a text to a path. It is written where the path resolves to, unless a file
is in the way, a directory lies there or the system does not let the path pass. -/
inductive Writes (t : FileTree) (p : Path) (s : String) : Except FileError Unit × FileTree → Prop
    where
  | written {u v : FileTree} (same : t.SameFiles u) (named : p.isNameable = true)
    (passes : t.Passes p) (clear : t.Clear p.parent) (done : u.write p s.toUTF8 = .ok v) :
    Writes t p s (.ok (), v)
  | blocked {u : FileTree} {cause : FileError.Cause} {q : Path} (same : t.SameFiles u)
    (why : ¬t.Passes p ∨ ¬t.Clear p.parent ∨ u.entry? (t.place p) = some .directory) :
    Writes t p s (.error (.refused cause q), u)
  | nameless {u : FileTree} {flaw : Text.Flaw} (same : t.SameFiles u)
    (nameless : p.isNameable = false) : Writes t p s (.error (.nameless flaw), u)

theorem Writes.of_ok (h : Writes t p s (.ok (), u)) :
    p.isNameable = true ∧ t.Passes p ∧ t.Clear p.parent ∧ u.locate p = .ok (t.place p) ∧
      t.ChangesOnly (· = t.place p) u := by
  cases h with
  | written same named passes clear done =>
    have located := locate_write done
    have changes := changesOnly_write done
    rw [same.place_eq] at located changes
    exact ⟨named, passes, clear, located, same.changesOnly.trans changes⟩

theorem Writes.of_error {e : FileError} (h : Writes t p s (.error e, u)) :
    t.SameFiles u ∧ (p.isNameable = false ∨ ¬t.Passes p ∨ ¬t.Clear p.parent ∨
      u.entry? (t.place p) = some .directory) := by
  cases h with
  | blocked same why => exact ⟨same, .inr why⟩
  | nameless same nameless => exact ⟨same, .inl nameless⟩

theorem Writes.ground (h : Writes t p s r) : r.2.ground = t.ground := by
  obtain ⟨result, u⟩ := r
  cases result with
  | ok a => exact h.of_ok.2.2.2.2.keeps.ground
  | error e => exact h.of_error.1.keeps.ground

/-- Something lies where the last directory should be, so it need not be made. -/
theorem writes_writeText (there : t.contains p.parent = .ok true) :
    Writes t p s ((writeText p s).run.run t) := by
  have shut (stuck : ¬t.Open p.parent) : ¬t.Clear p.parent := by
    intro clear
    obtain ⟨-, -, above, some_entry⟩ := contains_iff.1 there
    obtain ⟨e, found⟩ := Option.isSome_iff_exists.1 some_entry
    cases e with
    | directory => exact stuck (open_iff.2 ⟨above, found⟩)
    | file b =>
      have no_file := (clear_iff.1 clear).2
      rw [bytes?_eq_some.2 found] at no_file
      cases no_file
  rw [run_writeText]
  cases done : t.write p s.toUTF8 with
  | ok u =>
    obtain ⟨named, passes, inside⟩ := open_of_write done
    exact .written (.refl t) named passes inside.clear done
  | error e =>
    rcases write_error done with ⟨_, rfl, nameless⟩ | ⟨-, ⟨cause, rfl⟩, why⟩
    · exact .nameless (.refl t) nameless
    · exact .blocked (.refl t) (why.imp_right (Or.imp_left shut))

theorem Writes.of_same (h : Writes u p s r) (same : t.SameFiles u) : Writes t p s r := by
  cases h with
  | written same' named passes clear done =>
    exact .written (same.trans same') named (same.passes_iff.1 passes) (same.clear_iff.1 clear) done
  | blocked same' why =>
    rw [same.passes_iff, same.clear_iff, same.place_eq] at why
    exact .blocked (same.trans same') why
  | nameless same' nameless => exact .nameless (same.trans same') nameless

/-- The directories of the path are made first. -/
theorem writes_writeInto (t : FileTree) (p : Path) (s : String) :
    Writes t p s ((writeInto p s).run.run t) := by
  have above := ensures_ensureDirectories t p.parent
  rw [writeInto, run_run_bind]
  generalize (ensureDirectories p.parent).run.run t = ran at above
  cases above with
  | made same _ _ found =>
    obtain ⟨named, passes, inside⟩ := isDirectory_iff_open.1 found
    obtain ⟨above, last⟩ := open_iff.1 inside
    have there := contains_iff.2 ⟨named, passes, above, by rw [last]; rfl⟩
    exact (writes_writeText there).of_same same
  | blocked same _ stopped =>
    refine .blocked same (Classical.or_iff_not_imp_left.2 fun passes => .inl fun clear => ?_)
    exact stopped ⟨(Classical.not_not.1 passes).parent, clear⟩
  | nameless same nameless =>
    refine .nameless same (Bool.eq_false_iff.2 fun named => ?_)
    rw [Path.isNameable_parent named] at nameless
    cases nameless

/-- They are made only where nothing lies in the place of the last of them. -/
theorem writes_writeBeside (t : FileTree) (p : Path) (s : String) :
    Writes t p s ((writeBeside p s).run.run t) := by
  rw [writeBeside, run_get]
  split
  next e unknown =>
    obtain ⟨-, bar, rfl, barred⟩ := contains_error unknown
    exact .blocked (.refl t) (.inl fun passes => barred passes.parent)
  next there => exact writes_writeText there
  next => exact writes_writeInto t p s

end FileM

end Formwork
