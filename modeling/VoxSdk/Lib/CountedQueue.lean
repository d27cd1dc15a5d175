import Mathlib.Algebra.Group.Nat.Defs
import Mathlib.Data.List.Basic

/-!
# Queues that carry their length

A FIFO queue with a limit, whose length is not counted when it is asked for but kept beside it in a
machine word: one producer adds one, the consumer takes one away. The counter decides whether the queue is
full, so a counter that is off by one refuses work for no reason, and one that is taken below zero refuses
it for ever. As long as the counter is exact, neither happens.
-/

namespace Reactive

variable {α : Type*}

/-- How many values a `size_t` has. -/
def wordSize : Nat := 2 ^ 64

/-- The items, oldest first, and the word that is meant to count them. -/
structure CountedQueue (α : Type*) where
  items : List α
  len : Nat
  max : Nat
  deriving DecidableEq

namespace CountedQueue

def empty (max : Nat) : CountedQueue α := { items := [], len := 0, max }

/-- Append, unless the counter says the queue is full. -/
def push (x : α) (q : CountedQueue α) : Option (CountedQueue α) :=
  if q.max ≤ q.len then none
  else some { q with items := q.items ++ [x], len := (q.len + 1) % wordSize }

/-- Take the oldest item, and one off the counter. -/
def pop (q : CountedQueue α) : Option (α × CountedQueue α) :=
  match q.items with
  | [] => none
  | x :: rest => some (x, { q with items := rest, len := (q.len + (wordSize - 1)) % wordSize })

/-- The counter counts the items, and the limit is kept. -/
structure Exact (q : CountedQueue α) : Prop where
  len : q.len = q.items.length
  le : q.items.length ≤ q.max
  lt : q.max < wordSize

variable {q r : CountedQueue α} {x : α}

theorem exact_empty {max : Nat} (hmax : max < wordSize) : (empty max : CountedQueue α).Exact where
  len := rfl
  le := Nat.zero_le _
  lt := hmax

theorem push_some (h : q.push x = some r) :
    q.len < q.max ∧ r.items = q.items ++ [x] ∧ r.len = (q.len + 1) % wordSize ∧ r.max = q.max := by
  unfold push at h
  split at h
  · cases h
  · rename_i hroom
    obtain rfl := Option.some.inj h
    exact ⟨Nat.lt_of_not_le hroom, rfl, rfl, rfl⟩

theorem pop_some (h : q.pop = some (x, r)) :
    q.items = x :: r.items ∧ r.len = (q.len + (wordSize - 1)) % wordSize ∧ r.max = q.max := by
  unfold pop at h
  split at h
  · cases h
  · rename_i y rest hitems
    obtain ⟨rfl, rfl⟩ := Prod.mk.inj (Option.some.inj h)
    exact ⟨hitems, rfl, rfl⟩

theorem pop_eq_none : q.pop = none ↔ q.items = [] := by
  unfold pop
  split <;> simp [*]

theorem Exact.push (hq : q.Exact) (h : q.push x = some r) : r.Exact := by
  obtain ⟨hroom, hitems, hlen, hmax⟩ := push_some h
  have hcount : r.items.length = q.items.length + 1 := by rw [hitems, List.length_append]; rfl
  have hexact := hq.len
  have hlt := hq.lt
  constructor
  · calc
      r.len = (q.len + 1) % wordSize := hlen
      _ = q.len + 1 := Nat.mod_eq_of_lt (by omega)
      _ = r.items.length := by omega
  · omega
  · omega

theorem Exact.pop (hq : q.Exact) (h : q.pop = some (x, r)) : 0 < q.len ∧ r.Exact := by
  obtain ⟨hitems, hlen, hmax⟩ := pop_some h
  have hcount : q.items.length = r.items.length + 1 := by rw [hitems, List.length_cons]
  have hexact := hq.len
  have hle := hq.le
  have hlt := hq.lt
  refine ⟨by omega, ?_, by omega, by omega⟩
  have hsum : q.len + (wordSize - 1) = r.items.length + wordSize := by omega
  calc
    r.len = (q.len + (wordSize - 1)) % wordSize := hlen
    _ = (r.items.length + wordSize) % wordSize := by rw [hsum]
    _ = r.items.length % wordSize := Nat.add_mod_right _ _
    _ = r.items.length := Nat.mod_eq_of_lt (by omega)

/-- A queue whose counter is exact refuses only when it is full. -/
theorem Exact.full (hq : q.Exact) (h : q.push x = none) : q.items.length = q.max := by
  unfold CountedQueue.push at h
  split at h
  · rename_i hfull
    have hexact := hq.len
    have hle := hq.le
    omega
  · cases h

/-- And an empty one takes anything, if its limit allows for anything at all. -/
theorem Exact.push_isSome (hq : q.Exact) (hitems : q.items = []) (hmax : 0 < q.max) :
    (q.push x).isSome = true := by
  have hlen : q.len = 0 := by rw [hq.len, hitems, List.length_nil]
  unfold CountedQueue.push
  rw [if_neg (by omega)]
  rfl

end CountedQueue

end Reactive
