import Formwork.Proofs.Binary64.Rounding
import Formwork.Source.Module

/-!
# The size of the window

A side of the window is a sum of numbers of which the last one or two may be left out, cut off at the
largest side and then truncated. Truncation refuses NaN and the infinities (`truncated?`). Neither
gets there: a usable canvas is positive, an extent is at least a pixel, a sum of such numbers is a
number again or overflows upwards (`AtLeast.add`), and the largest side cuts off what overflows. So a
side is always computed and never exceeds the largest one (`truncated?_lesser`).

A side can come out as zero, though. One panel is enough to prevent that, but without any a canvas
of less than a pixel is truncated to nothing. `Project.windowSize_positive_iff` says that nothing else
leads there.
-/

set_option autoImplicit false

namespace Formwork

namespace Binary64

/-- The number without its fraction; none for NaN and the infinities, which have no integer. -/
def truncated? : Binary64 → Option Int
  | .finite negative u _ =>
    some (if negative then -((u / oneSteps : Nat) : Int) else (u / oneSteps : Nat))
  | _ => none

/-- The number is not NaN and not below a count of steps. -/
def AtLeast (u : Nat) (x : Binary64) : Prop := x.isNaN = false ∧ (u : Int) ≤ x.rank

variable {u k : Nat} {x y : Binary64}

theorem AtLeast.mono {v : Nat} (h : AtLeast v x) (le : u ≤ v) : AtLeast u x :=
  ⟨h.1, (Int.ofNat_le.2 le).trans h.2⟩

/-- Only numbers are compared. -/
theorem isNaN_of_below (h : below x y = true) : x.isNaN = false ∧ y.isNaN = false := by
  cases x with
  | nan => cases h
  | infinite | finite =>
    cases y with
    | nan => cases h
    | infinite | finite => exact ⟨rfl, rfl⟩

theorem AtLeast.greater (h : AtLeast u x) : AtLeast u (x.greater y) := by
  unfold Binary64.greater
  split
  case isTrue above =>
    have numbers := isNaN_of_below above
    exact ⟨numbers.2, h.2.trans ((below_iff_rank numbers.1 numbers.2).1 above).le⟩
  case isFalse => exact h

theorem AtLeast.ofRatio {num : Nat} (bound : k ≤ 2045) (h : 2 ^ k ≤ num) :
    AtLeast (2 ^ k) (ofRatio false num 1) := by
  unfold Binary64.ofRatio
  split
  case isTrue => exact ⟨rfl, Int.ofNat_le.2 (two_pow_le_roundSteps h)⟩
  case isFalse => exact ⟨rfl, Int.ofNat_le.2 (representable_two_pow bound).lt_overflowSteps.le⟩

/-- What is not below a count of steps is a larger count or positive infinity. The sign of a zero
remains open. -/
theorem AtLeast.infinite_or_finite (h : AtLeast u x) :
    x = .infinite false ∨ ∃ (negative : Bool) (v : Nat) (fits : Representable v),
      x = .finite negative v fits ∧ (if negative then -(v : Int) else v) = v ∧ u ≤ v := by
  obtain ⟨number, least⟩ := h
  have nonneg : 0 ≤ x.rank := (Int.natCast_nonneg u).trans least
  cases x with
  | nan => cases number
  | infinite negative =>
    cases negative with
    | false => exact .inl rfl
    | true => exact absurd nonneg (by decide +kernel)
  | finite negative v fits =>
    have steps : rank (.finite negative v fits) = if negative then -(v : Int) else v := rfl
    rw [steps] at nonneg least
    have count : (if negative then -(v : Int) else v) = v := by
      cases negative with
      | false => rfl
      | true => simp only [if_true] at nonneg ⊢; omega
    exact .inr ⟨negative, v, fits, rfl, count, by omega⟩

/-- A sum does not fall below a power of two that one of its parts reaches. -/
theorem AtLeast.add (bound : k ≤ 2045) (hx : AtLeast 0 x) (hy : AtLeast (2 ^ k) y) :
    AtLeast (2 ^ k) (x + y) := by
  have upwards : AtLeast (2 ^ k) (.infinite false) :=
    ⟨rfl, Int.ofNat_le.2 (representable_two_pow bound).lt_overflowSteps.le⟩
  obtain rfl | ⟨s, u, fits, rfl, count, -⟩ := hx.infinite_or_finite
  · obtain rfl | ⟨t, v, fits', rfl, -, -⟩ := hy.infinite_or_finite <;> exact upwards
  · obtain rfl | ⟨t, v, fits', rfl, count', least⟩ := hy.infinite_or_finite
    · exact upwards
    · have positive : 0 < 2 ^ k := Nat.two_pow_pos k
      have some : ¬(u + v : Int) = 0 := by omega
      have above : ¬(u + v : Int) < 0 := by omega
      change AtLeast _ (Binary64.add _ _)
      rw [Binary64.add, count, count', ofSteps, if_neg some, decide_eq_false above]
      exact .ofRatio bound (by omega)

end Binary64

namespace Source

open Binary64

/-! ## One side -/

theorem rank_maxWindowSide : maxWindowSide.rank = 16384 * (oneSteps : Int) := by
  decide +kernel

theorem rank_one : rank 1 = (oneSteps : Int) := by
  decide +kernel

theorem rank_zero : rank 0 = 0 := by decide +kernel

theorem isNaN_zero : isNaN 0 = false := by decide +kernel

theorem isNaN_one : isNaN 1 = false := by decide +kernel

section Side

variable {x : Binary64}

/-- Cut off at the largest side, a sum can be truncated, and the window has that side. It is zero
only below one pixel. -/
theorem truncated?_lesser (h : AtLeast 0 x) :
    truncated? (x.lesser maxWindowSide) = some (windowSide x : Int) ∧ windowSide x ≤ 16384 ∧
      (1 ≤ windowSide x ↔ AtLeast oneSteps x) := by
  have largest : maxWindowSide.isNaN = false := by decide +kernel
  obtain ⟨one, -, power⟩ := exists_oneSteps
  have unit : 0 < oneSteps := power ▸ Nat.two_pow_pos one
  unfold windowSide lesser
  split
  case isTrue above =>
    -- What exceeds the largest side, infinity among it, is replaced by it.
    have least := (below_iff_rank largest h.1).1 above
    rw [rank_maxWindowSide] at least
    refine ⟨by decide +kernel, by decide +kernel, fun _ => ⟨h.1, by omega⟩, fun _ => ?_⟩
    decide +kernel
  case isFalse within =>
    rw [below_iff_rank largest h.1, rank_maxWindowSide, Int.not_lt] at within
    obtain rfl | ⟨negative, v, fits, rfl, count, -⟩ := h.infinite_or_finite
    · exact absurd within (by decide +kernel)
    have steps : rank (.finite negative v fits) = v := count
    rw [steps] at within
    refine ⟨?_, ?_, ?_⟩
    · rw [truncated?, wholePart]
      cases negative with
      | false => rfl
      | true =>
        have zero : v = 0 := by simp only [if_true] at count; omega
        rw [zero, Nat.zero_div]
        rfl
    · rw [wholePart]
      exact Nat.div_le_of_le_mul (by omega)
    · rw [wholePart, AtLeast, steps, Nat.one_le_div_iff unit, Int.ofNat_le]
      exact ⟨fun h => ⟨rfl, h⟩, And.right⟩

/-! ## From the canvas to the side -/

/-- Less than one pixel, but more than nothing. -/
def IsSliver (x : Binary64) : Prop := below 0 x = true ∧ below x 1 = true

instance (x : Binary64) : Decidable (IsSliver x) := inferInstanceAs (Decidable (_ ∧ _))

variable {fallback : Binary64}

theorem usable_of_below (positive : below 0 x = true) (finite : x.isFinite = true) :
    usable x fallback = x := by
  simp [usable, positive, finite]

theorem usable_of_not (refused : ¬(x.isFinite = true ∧ below 0 x = true)) :
    usable x fallback = fallback := by
  rw [usable, if_neg fun taken => refused (Bool.and_eq_true_iff.1 taken)]

/-- A side of the canvas is a number that is not negative, and it is a pixel unless it is a sliver. -/
theorem usable_atLeast (h : AtLeast oneSteps fallback) (x : Binary64) :
    AtLeast 0 (usable x fallback) ∧ (AtLeast oneSteps (usable x fallback) ↔ ¬IsSliver x) := by
  by_cases taken : x.isFinite = true ∧ below 0 x = true
  · obtain ⟨finite, positive⟩ := taken
    have number := isNaN_of_finite finite
    have above := (below_iff_rank isNaN_zero number).1 positive
    rw [rank_zero] at above
    rw [usable_of_below positive finite]
    refine ⟨⟨number, above.le⟩, ?_⟩
    rw [IsSliver, below_iff_rank number isNaN_one, rank_one, AtLeast]
    simp only [number, positive, true_and, Int.not_lt]
  · rw [usable_of_not taken]
    refine ⟨h.mono (Nat.zero_le _), iff_of_true h fun ⟨positive, small⟩ => taken ⟨?_, positive⟩⟩
    have number := (isNaN_of_below positive).2
    cases x with
    | nan => cases number
    | finite => rfl
    | infinite negative =>
      cases negative with
      | false => exact absurd small (by decide +kernel)
      | true => exact absurd positive (by decide +kernel)

end Side

/-- A panel has at least its least thickness, whatever stands in it. -/
theorem extent_atLeast (panel : Panel) (ws : List Widget) : AtLeast oneSteps (extent panel ws) := by
  have start : AtLeast oneSteps (if isBand panel then minBand else minSide) := by
    cases panel <;> exact ⟨by decide +kernel, by decide +kernel⟩
  unfold extent
  generalize (if isBand panel then minBand else minSide) = least at start
  induction ws generalizing least with
  | nil => exact start
  | cons w ws ih =>
    rw [List.foldl_cons]
    apply ih
    split
    case isTrue => exact start.greater
    case isFalse => exact start

/-- Panels add to a side, and one that is switched on adds a pixel. -/
theorem withPanels_atLeast (p : Project) (panels : List Panel) {side : Binary64}
    (h : AtLeast 0 side) : AtLeast 0 (withPanels p side panels) ∧
      (AtLeast oneSteps (withPanels p side panels) ↔
        AtLeast oneSteps side ∨ ∃ panel ∈ panels, p.panels.get panel = true) := by
  induction panels generalizing side with
  | nil => simpa [withPanels] using h
  | cons panel panels ih =>
    rw [withPanels, List.foldl_cons, ← withPanels]
    by_cases on : p.panels.get panel = true
    · have wide : AtLeast oneSteps (side + panelExtent p panel) := by
        obtain ⟨one, value, power⟩ := exists_oneSteps
        have added := extent_atLeast panel (p.inArea panel.area)
        rw [power] at added ⊢
        exact h.add (by omega) added
      rw [if_pos on]
      simp [ih (wide.mono (Nat.zero_le _)), wide, on]
    · rw [if_neg on]
      simp [ih h, on]

/-- One side of the window from one side of the canvas. It can always be computed, never exceeds the
largest side, and is zero exactly where a sliver of a canvas has no panel beside it. -/
theorem truncated?_withPanels (p : Project) (x fallback : Binary64)
    (h : AtLeast oneSteps fallback) (panels : List Panel) :
    truncated? ((withPanels p (usable x fallback) panels).lesser maxWindowSide) =
        some (windowSide (withPanels p (usable x fallback) panels) : Int) ∧
      windowSide (withPanels p (usable x fallback) panels) ≤ 16384 ∧
      (1 ≤ windowSide (withPanels p (usable x fallback) panels) ↔
        ¬(IsSliver x ∧ ∀ panel ∈ panels, p.panels.get panel = false)) := by
  have canvas := usable_atLeast h x
  have sides := withPanels_atLeast p panels canvas.1
  obtain ⟨computed, bounded, positive⟩ := truncated?_lesser sides.1
  refine ⟨computed, bounded, ?_⟩
  rw [positive, sides.2, canvas.2, not_and_or]
  simp

end Source

open Source Binary64

/-- The size of the window can be computed for every design, and no side exceeds 16384 pixels. A
side has at least one pixel if and only if the canvas is no sliver along it or a panel is switched on
beside it. -/
theorem Project.windowSize_positive_iff (p : Project) :
    truncated? ((withPanels p (usable p.canvas.x 800) [.left, .right]).lesser maxWindowSide) =
        some ((windowSize p).1 : Int) ∧
      truncated? ((withPanels p (usable p.canvas.y 600) [.top, .bottom]).lesser maxWindowSide) =
        some ((windowSize p).2 : Int) ∧
      (windowSize p).1 ≤ 16384 ∧ (windowSize p).2 ≤ 16384 ∧
      (1 ≤ (windowSize p).1 ↔
        ¬(IsSliver p.canvas.x ∧ p.panels.left = false ∧ p.panels.right = false)) ∧
      (1 ≤ (windowSize p).2 ↔
        ¬(IsSliver p.canvas.y ∧ p.panels.top = false ∧ p.panels.bottom = false)) := by
  have width := truncated?_withPanels p p.canvas.x 800 ⟨by decide +kernel, by decide +kernel⟩
    [.left, .right]
  have height := truncated?_withPanels p p.canvas.y 600 ⟨by decide +kernel, by decide +kernel⟩
    [.top, .bottom]
  simp only [List.forall_mem_cons, List.not_mem_nil, false_implies, implies_true, and_true,
    Panels.get] at width height
  simp only [windowSize]
  exact ⟨width.1, height.1, width.2.1, height.2.1, width.2.2, height.2.2⟩

/-- A canvas half a pixel wide, with no panel beside it, opens a window of no width. -/
theorem Project.windowSize_sliver :
    windowSize { canvas := ⟨half, 600⟩ } = (0, 600) := by
  decide +kernel

end Formwork
