import Formwork.Proofs.Files.Changes
import Mathlib.Logic.Basic

/-!
# What is refused

A text is not written where its path has no name, or where something is in the way. No file can have
a name with a null character in it, or with a surrogate that stands for no byte, so a path that holds
one is refused as no other is: `FileError.nameless` stands for a mistake in the path, every other
error for a state of the files. A read refuses such a path at once. A write looks at the directory
first, and where the directory cannot be made it is stopped there (`FileM.writeInto_nameless_iff`,
`FileM.writeBeside_nameless_iff`).

A path that has a name is refused for a file on its way or a directory at its end, or where the system
does not let it pass. The directory may be one that is only made for the path
(`FileM.writeInto_refused_iff`).
-/

set_option autoImplicit false

namespace Formwork

namespace Text

/-- What is not the cut is in a piece exactly if it is in the text. -/
theorem exists_mem_pieces_iff {α : Type} [DecidableEq α] {c cut : α} (other : c ≠ cut)
    (cs : List α) : (∃ piece ∈ pieces cut cs, c ∈ piece) ↔ c ∈ cs := by
  induction cs with
  | nil => simp [pieces]
  | cons d cs ih =>
    rw [List.mem_cons, ← ih, pieces]
    by_cases here : d = cut
    · simp [here, other]
    · rw [if_neg here]
      cases rest : pieces cut cs with
      | nil => exact absurd rest (pieces_ne_nil cut cs)
      | cons piece pieces => simp [or_assoc]

namespace Raw

theorem isNameable_eq_false_iff {r : Raw} :
    r.isNameable = false ↔ ∃ u ∈ r.units, u.isNameable = false := by
  rw [isNameable, List.all_eq_false]
  simp only [Bool.not_eq_true]

/-- A text without surrogates is a name unless it holds the null character. -/
theorem isNameable_ofString_iff {s : String} :
    (ofString s).isNameable = true ↔ '\x00' ∉ s.toList := by
  rw [isNameable, ofString, List.all_map, List.all_eq_true]
  constructor
  · intro all nul
    cases all _ nul
  · intro named c mem
    refine bne_iff_ne.2 fun same => named ?_
    obtain rfl := RawUnit.char.inj same
    exact mem

end Raw

end Text

namespace Path

open Text (Raw RawUnit)

/-- A path has a name exactly if the text has one that it is read from: the segments that are left out
hold nothing that no name may hold. -/
theorem isNameable_ofText (s : Raw) : (ofText s).isNameable = s.isNameable := by
  have kept (segment : Raw) (nameless : ∃ u ∈ segment.units, u.isNameable = false) :
      isStep segment = true := by
    obtain ⟨u, mem, unfit⟩ := nameless
    rw [isStep, Bool.and_eq_true, bne_iff_ne, bne_iff_ne]
    constructor
    · rintro rfl
      cases mem
    · rintro rfl
      obtain rfl := List.mem_singleton.1 mem
      cases unfit
  have apart (u : RawUnit) (unfit : u.isNameable = false) : u ≠ .char '/' := by
    rintro rfl
    cases unfit
  have same : (ofText s).isNameable = false ↔ s.isNameable = false :=
    calc (ofText s).isNameable = false
        ↔ ∃ segment ∈ s.split '/', isStep segment = true ∧
            ∃ u ∈ segment.units, u.isNameable = false := by
          simp only [isNameable, ofText, List.all_eq_false, List.mem_filter, Bool.not_eq_true,
            Raw.isNameable_eq_false_iff, and_assoc]
      _ ↔ ∃ segment ∈ s.split '/', ∃ u ∈ segment.units, u.isNameable = false :=
          exists_congr fun segment => and_congr_right fun _ => and_iff_right_of_imp (kept segment)
      _ ↔ ∃ u, u.isNameable = false ∧ ∃ piece ∈ Text.pieces (.char '/') s.units, u ∈ piece := by
          simp only [Raw.split, List.mem_map, exists_exists_and_eq_and]
          constructor
          · rintro ⟨piece, inside, u, mem, unfit⟩
            exact ⟨u, unfit, piece, inside, mem⟩
          · rintro ⟨u, unfit, piece, inside, mem⟩
            exact ⟨piece, inside, u, mem, unfit⟩
      _ ↔ ∃ u, u.isNameable = false ∧ u ∈ s.units :=
          exists_congr fun u => and_congr_right fun unfit =>
            Text.exists_mem_pieces_iff (apart u unfit) s.units
      _ ↔ s.isNameable = false := by
          rw [Raw.isNameable_eq_false_iff]
          exact exists_congr fun u => and_comm
  exact Bool.eq_iff_iff.2 (by simpa only [Bool.not_eq_false] using not_congr same)

/-- Where a path is followed place by place, a flaw is found exactly if the path has no name. -/
theorem wayFlaw?_eq_none_iff {home : Location} {p : Path} :
    p.wayFlaw? home = none ↔ p.isNameable = true := by
  unfold wayFlaw? isNameable
  generalize p.origin home = here
  induction p.segments generalizing here with
  | nil => exact iff_of_true rfl rfl
  | cons s ss ih =>
    rw [flawFrom?, List.all_cons]
    cases s.isNameable with
    | true => exact ih _
    | false => exact iff_of_false nofun nofun

end Path

namespace FileTree

variable {t : FileTree} {p : Path}

/-- The path has no name, and nothing that keeps its directory from being made is found first. -/
def NamelessInto (t : FileTree) (p : Path) : Prop :=
  p.isNameable = false ∧ (p.parent.isNameable = false ∨ t.Allows p.parent)

/-- The path has no name, and its directory lies there or can be made. -/
def NamelessBeside (t : FileTree) (p : Path) : Prop :=
  p.isNameable = false ∧
    (p.parent.isNameable = false ∨ t.contains p.parent = .ok true ∨ t.Allows p.parent)

/-- An error that stands for a mistake in the path. -/
def Nameless {α : Type} (r : Except FileError α) : Prop := ∃ flaw, r = .error (.nameless flaw)

theorem nameless_locate_iff : Nameless (t.locate p) ↔ p.isNameable = false := by
  constructor
  · rintro ⟨flaw, refused⟩
    rcases locate_error refused with
      ⟨-, nameless⟩ | ⟨-, ⟨mismatch, -⟩ | ⟨mismatch, -⟩ | ⟨_, mismatch, -⟩⟩
    · exact nameless
    · cases mismatch
    · cases mismatch
    · cases mismatch
  · intro nameless
    exact ⟨p.flaw, by rw [locate, nameless]; rfl⟩

theorem nameless_read_iff : Nameless (t.read p) ↔ p.isNameable = false := by
  refine ⟨fun ⟨flaw, refused⟩ => isNameable_of_read refused, fun nameless => ?_⟩
  obtain ⟨flaw, refused⟩ := nameless_locate_iff (t := t).2 nameless
  exact ⟨flaw, by rw [read, refused]; rfl⟩

theorem nameless_write_iff {b : ByteArray} : Nameless (t.write p b) ↔ p.isNameable = false := by
  constructor
  · rintro ⟨flaw, refused⟩
    rcases write_error refused with ⟨_, -, nameless⟩ | ⟨-, ⟨cause, mismatch⟩, -⟩
    · exact nameless
    · cases mismatch
  · intro nameless
    obtain ⟨flaw, refused⟩ := nameless_locate_iff (t := t).2 nameless
    exact ⟨flaw, by rw [write, refused]; rfl⟩

/-- Where it is not known whether something lies, that is no mistake in the path. -/
theorem not_nameless_contains : ¬Nameless (t.contains p) := by
  rintro ⟨flaw, unknown⟩
  obtain ⟨-, bar, mismatch, -⟩ := contains_error unknown
  cases mismatch

end FileTree

namespace FileM

open FileTree

variable {t : FileTree} {p : Path} {s : String}

theorem writeText_nameless_iff :
    Nameless ((writeText p s).run.run t).1 ↔ p.isNameable = false := by
  rw [run_writeText, ← nameless_write_iff (t := t) (b := s.toUTF8)]
  cases t.write p s.toUTF8 with
  | ok u => exact iff_of_false nofun nofun
  | error e => simp only [Nameless, Except.error.injEq]

/-- The directories are made before the file is written, so what keeps them from that is found
first. -/
theorem writeInto_nameless_iff :
    Nameless ((writeInto p s).run.run t).1 ↔ t.NamelessInto p := by
  have above := ensures_ensureDirectories t p.parent
  rw [writeInto, run_run_bind, NamelessInto]
  generalize (ensureDirectories p.parent).run.run t = ran at above
  cases above with
  | made same _ allows _ =>
    rw [and_iff_left (.inr allows)]
    exact writeText_nameless_iff
  | blocked _ named stopped =>
    refine iff_of_false ?_ ?_
    · rintro ⟨_, ⟨⟩⟩
    · rintro ⟨-, nameless | allows⟩
      · cases named.symm.trans nameless
      · exact stopped allows
  | nameless _ nameless =>
    have nowhere : p.isNameable = false := Bool.eq_false_iff.2 fun named => by
      cases (Path.isNameable_parent named).symm.trans nameless
    exact iff_of_true ⟨_, rfl⟩ ⟨nowhere, .inl nameless⟩

/-- Where something lies in the place of the directory, nothing is looked at but the path. -/
theorem writeBeside_nameless_iff :
    Nameless ((writeBeside p s).run.run t).1 ↔ t.NamelessBeside p := by
  rw [writeBeside, run_get, NamelessBeside]
  split
  next e unknown =>
    refine iff_of_false ?_ ?_
    · rintro ⟨flaw, ⟨⟩⟩
      exact not_nameless_contains ⟨flaw, unknown⟩
    · obtain ⟨named, bar, -, barred⟩ := contains_error unknown
      rintro ⟨-, nameless | there | allows⟩
      · cases named.symm.trans nameless
      · cases unknown.symm.trans there
      · exact barred allows.passes
  next there =>
    rw [and_iff_left (.inr (.inl there))]
    exact writeText_nameless_iff
  next missing =>
    have not_there : t.contains p.parent ≠ .ok true := by
      rw [missing]
      rintro ⟨⟩
    rw [or_iff_right (a := t.contains p.parent = .ok true) not_there]
    exact writeInto_nameless_iff

end FileM

/-! ## Something in the way -/

namespace FileTree

variable {t u : FileTree} {p : Path} {l : Location}

/-- The path has a name, but it is not let pass, a file is in the way or a directory lies where it
ends. The directories that lead to it count, whether they are there or not. -/
def Blocks (t : FileTree) (p : Path) : Prop :=
  p.parent.isNameable = true ∧ (¬t.Allows p.parent ∨
    p.isNameable = true ∧ (¬t.Passes p ∨ p.parent.Visits t.ground.home (t.place p) ∨
      t.entry? (t.place p) = some .directory))

theorem entry?_makeDirectory (off : ¬p.Visits t.ground.home l) (made : t.makeDirectory p = .ok u) :
    u.entry? l = t.entry? l := by
  obtain ⟨m, located, missing, rfl⟩ := makeDirectory_eq_ok.1 made
  obtain ⟨-, -, -, rfl⟩ := locate_eq_ok_iff.1 located
  have elsewhere : l ≠ t.place p := fun same => off (Path.visits_iff.2 (.inr same))
  have free : t.entry? (t.place p) ≠ some .directory := by
    rw [missing]
    nofun
  rw [entry?_put _ free, if_neg elsewhere]

/-- At the end of a way of directories, only a directory is in the way. -/
theorem write_refused_iff {b : ByteArray} (inside : t.Open p.parent) :
    (∃ cause q, t.write p b = .error (.refused cause q)) ↔ p.isNameable = true ∧
      (¬t.Passes p ∨ t.entry? (t.place p) = some .directory) := by
  constructor
  · rintro ⟨cause, q, refused⟩
    rcases write_error refused with ⟨_, mismatch, -⟩ | ⟨named, -, barred | stuck | found⟩
    · cases mismatch
    · exact ⟨named, .inl barred⟩
    · exact absurd inside stuck
    · exact ⟨named, .inr found⟩
  · rintro ⟨named, why⟩
    cases done : t.write p b with
    | ok v =>
      obtain ⟨l, located, free, -⟩ := write_eq_ok.1 done
      obtain ⟨-, passes, -, rfl⟩ := locate_eq_ok_iff.1 located
      exact absurd why (not_or.2 ⟨not_not_intro passes, free⟩)
    | error e =>
      rcases write_error done with ⟨_, -, nameless⟩ | ⟨-, ⟨cause, rfl⟩, -⟩
      · cases named.symm.trans nameless
      · exact ⟨cause, p, rfl⟩

end FileTree

namespace FileM

open FileTree

variable {t u : FileTree} {p : Path} {s : String} {l : Location}

theorem snd_orDirectory (e : FileError) : ((orDirectory p e).run.run t).2 = t := by
  rw [run_orDirectory]
  split <;> rfl

theorem entry?_ensureDirectory (off : ¬p.Visits t.ground.home l) :
    FileTree.entry? ((ensureDirectory p).run.run t).2 l = t.entry? l := by
  rw [run_ensureDirectory]
  split
  next made => exact entry?_makeDirectory off made
  next => rw [snd_orDirectory]

/-- Making directories changes nothing at a place that the path does not visit. -/
theorem entry?_ensureDirectories (t : FileTree) (p : Path) (off : ¬p.Visits t.ground.home l) :
    FileTree.entry? ((ensureDirectories p).run.run t).2 l = t.entry? l := by
  rw [ensureDirectories, run_get]
  split
  next made => exact entry?_makeDirectory off made
  next =>
    by_cases top : p.segments = []
    · rw [dif_pos top]
      rfl
    · have shorter : p.parent.segments.length < p.segments.length := by
        have := List.length_pos_iff.2 top
        rw [Path.parent, List.length_dropLast]
        omega
      have made := ensures_ensureDirectories t p.parent
      have above := entry?_ensureDirectories t p.parent fun visited =>
        off (Path.visits_iff.2 (.inl visited))
      rw [dif_neg top, run_run_bind]
      generalize (ensureDirectories p.parent).run.run t = ran at above made
      cases made with
      | made same _ _ _ =>
        rw [← same.keeps.ground] at off
        exact (entry?_ensureDirectory off).trans above
      | blocked => exact above
      | nameless => exact above
  next => rw [snd_orDirectory]
termination_by p.segments.length

/-- Once the directories are there, a text is refused for what lies at the end of its path. -/
theorem writeText_refused_iff (inside : t.Open p.parent) :
    (∃ cause q, ((writeText p s).run.run t).1 = .error (.refused cause q)) ↔
      p.isNameable = true ∧ (¬t.Passes p ∨ t.entry? (t.place p) = some .directory) := by
  rw [← write_refused_iff (b := s.toUTF8) inside, run_writeText]
  cases t.write p s.toUTF8 with
  | ok v => exact ⟨nofun, nofun⟩
  | error e => simp only [Except.error.injEq]

theorem writeInto_refused_iff :
    (∃ cause q, ((writeInto p s).run.run t).1 = .error (.refused cause q)) ↔ t.Blocks p := by
  have above := ensures_ensureDirectories t p.parent
  have elsewhere := fun off => entry?_ensureDirectories (l := t.place p) t p.parent off
  rw [writeInto, run_run_bind, Blocks]
  generalize (ensureDirectories p.parent).run.run t = ran at above elsewhere
  cases above with
  | @made u same named allows found =>
    have inside := (isDirectory_iff_open.1 found).2.2
    have there : u.entry? (t.place p) = some .directory ↔
        p.parent.Visits t.ground.home (t.place p) ∨ t.entry? (t.place p) = some .directory := by
      by_cases visited : p.parent.Visits t.ground.home (t.place p)
      · rw [← same.keeps.ground] at visited
        refine iff_of_true (inside _ visited) (.inl ?_)
        rwa [same.keeps.ground] at visited
      · rw [or_iff_right visited, elsewhere visited]
    rw [← there, and_iff_right named, or_iff_right (not_not_intro allows), ← same.place_eq,
      ← same.passes_iff]
    exact writeText_refused_iff inside
  | blocked _ named stopped => exact iff_of_true ⟨_, _, rfl⟩ ⟨named, .inl stopped⟩
  | nameless _ nameless =>
    refine iff_of_false ?_ ?_
    · rintro ⟨_, _, ⟨⟩⟩
    · rintro ⟨named, -⟩
      cases nameless.symm.trans named

end FileM

end Formwork
