import Mathlib.Data.List.TakeWhile

/-!
# Catching up with a list of work

A loop that has the first of what is still to do worked on, looks again what is to do, and goes on, a bounded number of
times and until the work is refused. If doing the first thing leaves the others as they were, the loop has done the
first things of the list it started with, in order.
-/

namespace Reactive

variable {σ α : Type*}

/-- Have the first of `todo` done, at most so many times: what that leaves, and how often it was done. -/
def catchUp (todo : σ → List α) (work : σ → α → σ) (refused : α → Bool) : Nat → σ → σ × Nat
  | 0, s => (s, 0)
  | left + 1, s =>
      match todo s with
      | [] => (s, 0)
      | a :: _ =>
          if refused a then (s, 0)
          else
            let (s, done) := catchUp todo work refused left (work s a)
            (s, done + 1)

/-- To do the first thing is to have the others left. -/
def Tackles (todo : σ → List α) (work : σ → α → σ) : Prop :=
  ∀ s a as, todo s = a :: as → todo (work s a) = as

variable {todo : σ → List α} {work : σ → α → σ} {refused : α → Bool} {s : σ}

theorem catchUp_spec (refused : α → Bool) (htackles : Tackles todo work) (left : Nat) (s : σ) :
    todo (catchUp todo work refused left s).1 = (todo s).drop (catchUp todo work refused left s).2 ∧
      (catchUp todo work refused left s).2 = (((todo s).take left).takeWhile (!refused ·)).length := by
  induction left generalizing s with
  | zero => exact ⟨rfl, by simp [catchUp]⟩
  | succ left ih =>
      rw [catchUp]
      cases htodo : todo s with
      | nil => exact ⟨htodo, rfl⟩
      | cons a as =>
          simp only
          cases hrefused : refused a with
          | true => exact ⟨htodo, by simp [hrefused]⟩
          | false =>
              obtain ⟨hleft, hdone⟩ := ih (work s a)
              rw [htackles s a as htodo] at hleft hdone
              refine ⟨by simpa using hleft, ?_⟩
              simpa [hrefused] using hdone

/-- What the work keeps, the loop keeps. -/
theorem catchUp_keeps {I : σ → Prop} (hkeeps : ∀ s a as, todo s = a :: as → I s → I (work s a)) (left : Nat)
    (hs : I s) : I (catchUp todo work refused left s).1 := by
  induction left generalizing s with
  | zero => exact hs
  | succ left ih =>
      rw [catchUp]
      split
      · exact hs
      · rename_i a as htodo
        split
        · exact hs
        · exact ih (hkeeps s a as htodo hs)

/-- Nothing is refused: as much is done as there is to do. -/
theorem catchUp_of_willing (htackles : Tackles todo work) (hwilling : ∀ a ∈ todo s, refused a = false) (left : Nat) :
    (catchUp todo work refused left s).2 = min left (todo s).length ∧
      todo (catchUp todo work refused left s).1 = (todo s).drop left := by
  obtain ⟨hleft, hdone⟩ := catchUp_spec refused htackles left s
  have hall : ((todo s).take left).takeWhile (!refused ·) = (todo s).take left := by
    refine List.takeWhile_eq_self_iff.mpr fun a ha => ?_
    simp [hwilling a (List.mem_of_mem_take ha)]
  rw [hall, List.length_take] at hdone
  refine ⟨hdone, ?_⟩
  rw [hleft, hdone]
  rcases Nat.le_total left (todo s).length with h | h
  · rw [Nat.min_eq_left h]
  · rw [Nat.min_eq_right h, List.drop_length, List.drop_eq_nil_of_le h]

/-- The loop is at rest: there is nothing to do, or the first thing is refused. -/
theorem catchUp_eq_zero {left : Nat} :
    (catchUp todo work refused (left + 1) s).2 = 0 ↔ ∀ a ∈ (todo s).head?, refused a = true := by
  rw [catchUp]
  cases htodo : todo s with
  | nil => simp
  | cons a as =>
      simp only
      cases hrefused : refused a <;> simp [hrefused]

theorem catchUp_of_rest {left : Nat} (hrest : (catchUp todo work refused left s).2 = 0) :
    (catchUp todo work refused left s).1 = s := by
  cases left with
  | zero => rfl
  | succ left =>
      rw [catchUp] at hrest ⊢
      split
      · rfl
      · rename_i a as htodo
        rw [htodo] at hrest
        simp only at hrest
        split
        · rfl
        · rename_i hwilling
          rw [if_neg hwilling] at hrest
          cases hrest

end Reactive
