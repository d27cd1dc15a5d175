import Mathlib.Order.Lattice

/-!
# One-shot timers

A timer is idle or armed for a moment. Arming an armed timer moves it; firing one leaves it idle.
-/

namespace Reactive

/-- The moment a timer is due, `none` while it is idle. -/
abbrev Timer := Option Nat

namespace Timer

/-- Armed at `now` for `delay` later. -/
def start (now delay : Nat) : Timer := some (now + delay)

def isRunning (t : Timer) : Bool := t.isSome

/-- May fire at `now`. Nothing bounds how late a timer fires. -/
def isDue (t : Timer) (now : Nat) : Bool :=
  match t with
  | none => false
  | some due => decide (due ≤ now)

@[simp]
theorem isRunning_start (now delay : Nat) : (start now delay).isRunning = true := rfl

@[simp]
theorem isRunning_none : isRunning none = false := rfl

theorem isRunning_of_isDue {t : Timer} {now : Nat} (h : t.isDue now = true) :
    t.isRunning = true := by
  cases t with
  | none => simp [isDue] at h
  | some _ => rfl

end Timer

/-! ### A timer for many

What shares one timer arms it for the most impatient of all. -/

section Soonest

variable {α : Type*} {f : α → Nat} {xs : List α} {tick : Nat}

theorem le_foldl_min {m : Nat} (htick : m ≤ tick) (hall : ∀ x ∈ xs, m ≤ f x) :
    m ≤ xs.foldl (fun tick x => min tick (f x)) tick := by
  induction xs generalizing tick with
  | nil => exact htick
  | cons x xs ih =>
      exact ih (Nat.le_min.mpr ⟨htick, hall x List.mem_cons_self⟩)
        fun y hy => hall y (List.mem_cons_of_mem x hy)

theorem foldl_min_le :
    xs.foldl (fun tick x => min tick (f x)) tick ≤ tick ∧
      ∀ x ∈ xs, xs.foldl (fun tick x => min tick (f x)) tick ≤ f x := by
  induction xs generalizing tick with
  | nil => exact ⟨le_rfl, by simp⟩
  | cons x xs ih =>
      obtain ⟨hle, hall⟩ := @ih (min tick (f x))
      refine ⟨hle.trans (Nat.min_le_left _ _), fun y hy => ?_⟩
      rcases List.mem_cons.mp hy with rfl | hy
      · exact hle.trans (Nat.min_le_right _ _)
      · exact hall y hy

theorem foldl_min_eq {x : α} (hx : x ∈ xs) (htick : f x ≤ tick) (hall : ∀ y ∈ xs, f x ≤ f y) :
    xs.foldl (fun tick x => min tick (f x)) tick = f x :=
  Nat.le_antisymm (foldl_min_le.2 x hx) (le_foldl_min htick hall)

end Soonest

end Reactive
