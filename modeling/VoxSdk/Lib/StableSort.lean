import Mathlib.Data.List.Induction
import Mathlib.Data.List.Sort

/-!
# Insertion sort by a key, from the right

Each element is moved left past the elements whose key is larger, and no further. So equal keys stay in
the order they came in, and the result says of its input exactly what each key's elements are, in their
order: two inputs sort to the same list if and only if they agree on every key.
-/

namespace Reactive

variable {α κ : Type*} [LinearOrder κ] (key : α → κ)

/-- Put `x` behind the last element whose key is not larger; the list is held back to front. -/
def insertBack (x : α) : List α → List α
  | [] => [x]
  | y :: ys => if key x < key y then y :: insertBack x ys else x :: y :: ys

/-- Insertion sort. -/
def stableSort (xs : List α) : List α := (xs.foldl (fun sorted x => insertBack key x sorted) []).reverse

variable {key} {xs ys : List α}

theorem perm_insertBack (x : α) (ys : List α) : (insertBack key x ys).Perm (x :: ys) := by
  induction ys with
  | nil => exact List.Perm.refl _
  | cons y ys ih =>
      unfold insertBack
      split
      · exact (ih.cons y).trans (List.Perm.swap x y ys)
      · exact List.Perm.refl _

theorem pairwise_insertBack {x : α} (h : ys.Pairwise fun a b => key b ≤ key a) :
    (insertBack key x ys).Pairwise fun a b => key b ≤ key a := by
  induction ys with
  | nil => exact List.pairwise_singleton _ _
  | cons y ys ih =>
      obtain ⟨hy, hys⟩ := List.pairwise_cons.mp h
      unfold insertBack
      split
      · rename_i hlt
        refine List.pairwise_cons.mpr ⟨fun z hz => ?_, ih hys⟩
        rcases List.mem_cons.mp ((perm_insertBack x ys).mem_iff.mp hz) with rfl | hz
        · exact hlt.le
        · exact hy z hz
      · rename_i hle
        refine List.pairwise_cons.mpr ⟨fun z hz => ?_, h⟩
        rcases List.mem_cons.mp hz with rfl | hz
        · exact not_lt.mp hle
        · exact (hy z hz).trans (not_lt.mp hle)

/-- Among the elements of one key the new one is last, which is first from the back. -/
theorem filter_insertBack (k : κ) {x : α} (h : ys.Pairwise fun a b => key b ≤ key a) :
    (insertBack key x ys).filter (fun a => decide (key a = k)) =
      (x :: ys).filter fun a => decide (key a = k) := by
  induction ys with
  | nil => rfl
  | cons y ys ih =>
      obtain ⟨-, hys⟩ := List.pairwise_cons.mp h
      unfold insertBack
      split
      · rename_i hlt
        rw [List.filter_cons, ih hys]
        by_cases hx : key x = k
        · have hy : key y ≠ k := (hx ▸ hlt).ne'
          simp [hx, hy]
        · simp [hx, List.filter_cons]
      · rfl

/-- The sorted list back to front, as the sort leaves it after some of its input. -/
theorem foldl_insertBack (k : κ) (xs ys : List α) (h : ys.Pairwise fun a b => key b ≤ key a) :
    (xs.foldl (fun sorted x => insertBack key x sorted) ys).Pairwise (fun a b => key b ≤ key a) ∧
      (xs.foldl (fun sorted x => insertBack key x sorted) ys).filter (fun a => decide (key a = k)) =
        (xs.filter fun a => decide (key a = k)).reverse ++ ys.filter fun a => decide (key a = k) := by
  induction xs generalizing ys with
  | nil => exact ⟨h, rfl⟩
  | cons x xs ih =>
      obtain ⟨hsorted, hfilter⟩ := ih (insertBack key x ys) (pairwise_insertBack h)
      refine ⟨hsorted, hfilter.trans ?_⟩
      rw [filter_insertBack k h]
      by_cases hx : key x = k <;> simp [hx]

theorem perm_stableSort (xs : List α) : (stableSort key xs).Perm xs := by
  have hfold (zs ys : List α) :
      (zs.foldl (fun sorted x => insertBack key x sorted) ys).Perm (zs ++ ys) := by
    induction zs generalizing ys with
    | nil => exact List.Perm.refl _
    | cons z zs ih =>
        exact ((ih _).trans ((perm_insertBack z ys).append_left zs)).trans List.perm_middle
  exact (List.reverse_perm _).trans (by simpa using hfold xs [])

theorem pairwise_stableSort (xs : List α) :
    (stableSort key xs).Pairwise fun a b => key a ≤ key b := by
  cases xs with
  | nil => exact List.Pairwise.nil
  | cons x xs => exact List.pairwise_reverse.mpr (foldl_insertBack (key x) _ [] List.Pairwise.nil).1

/-- The sort is stable. -/
@[simp]
theorem filter_stableSort (k : κ) (xs : List α) :
    (stableSort key xs).filter (fun a => decide (key a = k)) =
      xs.filter fun a => decide (key a = k) := by
  rw [stableSort, List.filter_reverse, (foldl_insertBack k xs [] List.Pairwise.nil).2]
  simp

/-- A sorted list is known by what it has of each key. -/
theorem eq_of_filter_eq (hxs : xs.Pairwise fun a b => key a ≤ key b)
    (hys : ys.Pairwise fun a b => key a ≤ key b)
    (h : ∀ k, xs.filter (fun a => decide (key a = k)) = ys.filter fun a => decide (key a = k)) :
    xs = ys := by
  induction xs generalizing ys with
  | nil =>
      cases ys with
      | nil => rfl
      | cons y ys => simpa using h (key y)
  | cons x xs ih =>
      cases ys with
      | nil => simpa using h (key x)
      | cons y ys =>
          obtain ⟨hx, hxs'⟩ := List.pairwise_cons.mp hxs
          obtain ⟨hy, hys'⟩ := List.pairwise_cons.mp hys
          -- each of the two heads is somewhere in the other list, so their keys are equal
          have hmemx : x ∈ y :: ys := by
            have : x ∈ (x :: xs).filter fun a => decide (key a = key x) := by simp
            rw [h] at this
            exact List.mem_of_mem_filter this
          have hmemy : y ∈ x :: xs := by
            have : y ∈ (y :: ys).filter fun a => decide (key a = key y) := by simp
            rw [← h] at this
            exact List.mem_of_mem_filter this
          have hle : key y ≤ key x := by
            rcases List.mem_cons.mp hmemx with rfl | hmem
            · exact le_rfl
            · exact hy x hmem
          have hge : key x ≤ key y := by
            rcases List.mem_cons.mp hmemy with rfl | hmem
            · exact le_rfl
            · exact hx y hmem
          have hkey : key x = key y := le_antisymm hge hle
          have hhead := h (key x)
          simp only [List.filter_cons, hkey, decide_true, if_true] at hhead
          obtain ⟨rfl, -⟩ := List.cons_eq_cons.mp hhead
          congr 1
          refine ih hxs' hys' fun k => ?_
          have hk := h k
          rw [List.filter_cons, List.filter_cons] at hk
          split at hk
          · exact (List.cons_eq_cons.mp hk).2
          · exact hk

/-- Two inputs sort to the same list exactly if they have the same elements of each key, in the same
order. -/
theorem stableSort_eq_iff :
    stableSort key xs = stableSort key ys ↔
      ∀ k, xs.filter (fun a => decide (key a = k)) = ys.filter fun a => decide (key a = k) := by
  constructor
  · intro h k
    rw [← filter_stableSort k xs, h, filter_stableSort]
  · intro h
    refine eq_of_filter_eq (pairwise_stableSort xs) (pairwise_stableSort ys) fun k => ?_
    rw [filter_stableSort, filter_stableSort, h]

/-! ### What stands before what -/

theorem pairwise_insertBack_iff {R : α → α → Prop} {x : α} (h : ys.Pairwise fun a b => key b ≤ key a) :
    (insertBack key x ys).Pairwise (fun b a => R a b) ↔
      ys.Pairwise (fun b a => R a b) ∧ ∀ y ∈ ys, (key y ≤ key x → R y x) ∧ (key x < key y → R x y) := by
  induction ys with
  | nil => simp [insertBack]
  | cons y ys ih =>
      obtain ⟨hy, hys⟩ := List.pairwise_cons.mp h
      unfold insertBack
      split
      · rename_i hlt
        have hmem : ∀ z, z ∈ insertBack key x ys ↔ z = x ∨ z ∈ ys := fun z =>
          (perm_insertBack x ys).mem_iff.trans List.mem_cons
        simp only [List.pairwise_cons, ih hys, hmem, List.forall_mem_cons, forall_eq_or_imp, not_le.mpr hlt, hlt,
          false_imp_iff, true_imp_iff, true_and]
        tauto
      · rename_i hle
        have hbelow : ∀ z ∈ y :: ys, key z ≤ key x := by
          intro z hz
          rcases List.mem_cons.mp hz with rfl | hz
          · exact not_lt.mp hle
          · exact (hy z hz).trans (not_lt.mp hle)
        rw [List.pairwise_cons, and_comm]
        refine and_congr_right fun _ => forall₂_congr fun z hz => ?_
        simp [hbelow z hz, not_lt.mpr (hbelow z hz)]

/-- Of two elements the one with the larger key comes later, and of two with one key the one that came later:
a relation holds along the sorted list exactly if it holds of every two elements that way around. -/
theorem pairwise_stableSort_iff {R : α → α → Prop} (xs : List α) :
    (stableSort key xs).Pairwise R ↔
      xs.Pairwise fun a b => (key a ≤ key b → R a b) ∧ (key b < key a → R b a) := by
  rw [stableSort, List.pairwise_reverse]
  induction xs using List.reverseRecOn with
  | nil => simp
  | append_singleton xs x ih =>
      rw [List.foldl_append, List.foldl_cons, List.foldl_nil]
      have hmem : ∀ z, z ∈ xs.foldl (fun sorted x => insertBack key x sorted) [] ↔ z ∈ xs := fun z =>
        List.mem_reverse.symm.trans (perm_stableSort xs).mem_iff
      rw [pairwise_insertBack_iff (List.pairwise_reverse.mp (pairwise_stableSort xs)), ih, List.pairwise_append]
      simp only [hmem, List.pairwise_singleton, List.mem_singleton, forall_eq, true_and]

/-- Elements that carry more than what they are sorted by. -/
theorem map_stableSort {β : Type*} (f : β → α) (xs : List β) :
    (stableSort (fun b => key (f b)) xs).map f = stableSort key (xs.map f) := by
  have hinsert (b : β) (ys : List β) :
      (insertBack (fun b => key (f b)) b ys).map f = insertBack key (f b) (ys.map f) := by
    induction ys with
    | nil => rfl
    | cons y ys ih =>
        simp only [insertBack, List.map_cons]
        split
        · rw [List.map_cons, ih]
        · rfl
  have hfold (xs ys : List β) :
      (xs.foldl (fun sorted b => insertBack (fun b => key (f b)) b sorted) ys).map f =
        (xs.map f).foldl (fun sorted x => insertBack key x sorted) (ys.map f) := by
    induction xs generalizing ys with
    | nil => rfl
    | cons b xs ih => rw [List.foldl_cons, ih, hinsert, List.map_cons, List.foldl_cons]
  rw [stableSort, List.map_reverse, hfold]
  rfl

/-! ### In an array

The slots are read and written one at a time. The element of a slot is taken out, those before it that are
larger move one slot up, and it goes where the last of them was. What is read or written outside the array has
no answer. -/

/-- A write to one slot. -/
def writeSlot (j : Nat) (x : α) (slots : List α) : Option (List α) :=
  if j < slots.length then some (slots.set j x) else none

/-- The slot `j` is free: `x` goes there, or further left. `moves y x` says that `y` makes way for `x`. -/
def insertSlot (moves : α → α → Bool) (x : α) : Nat → List α → Option (List α)
  | 0, slots => writeSlot 0 x slots
  | j + 1, slots =>
      match slots[j]? with
      | none => none
      | some y =>
          if moves y x then (writeSlot (j + 1) y slots).bind (insertSlot moves x j)
          else writeSlot (j + 1) x slots

/-- The slots from `i` on are inserted one after the other. -/
def sortSlots (moves : α → α → Bool) (i n : Nat) (slots : List α) : Option (List α) :=
  (List.range' i n).foldlM (fun slots i => slots[i]?.bind fun x => insertSlot moves x i slots) slots

theorem writeSlot_append (pre post : List α) (x y : α) :
    writeSlot pre.length x (pre ++ y :: post) = some (pre ++ x :: post) := by
  rw [writeSlot, if_pos (by rw [List.length_append, List.length_cons]; omega), List.set_append_right _ _ le_rfl,
    Nat.sub_self, List.set_cons_zero]

variable {moves : α → α → Bool}

theorem insertSlot_append (hmoves : ∀ x y, moves y x = decide (key x < key y)) (x y : α) (pre post : List α) :
    insertSlot moves x pre.length (pre ++ y :: post) =
      some ((insertBack key x pre.reverse).reverse ++ post) := by
  induction pre using List.reverseRecOn generalizing y post with
  | nil => exact writeSlot_append [] post x y
  | append_singleton pre z ih =>
      have hlen : (pre ++ [z]).length = pre.length + 1 := by simp
      have hread : (pre ++ [z] ++ y :: post)[pre.length]? = some z := by simp
      have hwrite (x : α) : writeSlot (pre.length + 1) x (pre ++ [z] ++ y :: post) =
          some (pre ++ [z] ++ x :: post) := by
        rw [← hlen]
        exact writeSlot_append _ post x y
      rw [hlen, insertSlot, hread, List.reverse_append, List.reverse_singleton,
        List.singleton_append, insertBack]
      by_cases hlt : key x < key z
      · simp only [hmoves, hlt, decide_true, if_true]
        rw [hwrite, Option.bind_some, List.append_assoc, List.singleton_append, ih, List.reverse_cons,
          List.append_assoc, List.singleton_append]
      · simp only [hmoves, hlt, decide_false, Bool.false_eq_true, if_false]
        rw [hwrite]
        simp

theorem stableSort_append_singleton (xs : List α) (x : α) :
    stableSort key (xs ++ [x]) = (insertBack key x (stableSort key xs).reverse).reverse := by
  rw [stableSort, stableSort, List.foldl_append, List.reverse_reverse]
  rfl

theorem length_stableSort (xs : List α) : (stableSort key xs).length = xs.length :=
  (perm_stableSort xs).length_eq

theorem sortSlots_append (hmoves : ∀ x y, moves y x = decide (key x < key y)) (xs ys post : List α) :
    sortSlots moves xs.length ys.length (stableSort key xs ++ (ys ++ post)) =
      some (stableSort key (xs ++ ys) ++ post) := by
  induction ys generalizing xs with
  | nil => simp [sortSlots]
  | cons y ys ih =>
      have hread : (stableSort key xs ++ (y :: ys ++ post))[xs.length]? = some y := by
        rw [List.getElem?_append_right (length_stableSort xs).le, length_stableSort, Nat.sub_self]
        rfl
      have hslot : insertSlot moves y xs.length (stableSort key xs ++ (y :: ys ++ post)) =
          some (stableSort key (xs ++ [y]) ++ (ys ++ post)) := by
        have hinsert := insertSlot_append hmoves y y (stableSort key xs) (ys ++ post)
        rw [length_stableSort, ← stableSort_append_singleton] at hinsert
        exact hinsert
      have hrest := ih (xs ++ [y])
      rw [show (xs ++ [y]).length = xs.length + 1 by simp, List.append_assoc, List.singleton_append] at hrest
      unfold sortSlots at hrest ⊢
      rw [List.length_cons, List.range'_succ, List.foldlM_cons, hread, Option.bind_some, hslot]
      exact hrest

/-- What the loop leaves in the first slots is what the sort says, and the other slots are as they were. -/
theorem sortSlots_eq (hmoves : ∀ x y, moves y x = decide (key x < key y)) (xs post : List α) :
    sortSlots moves 1 (xs.length - 1) (xs ++ post) = some (stableSort key xs ++ post) := by
  cases xs with
  | nil => rfl
  | cons x xs => exact sortSlots_append hmoves [x] xs post

/-! ### Batches that arrive in any order

A list is filled with batches as they arrive, up to a cap, and sorted afterwards. -/

variable {β : Type*} {cap : Nat} {batch : β → List α} {order order' all : List β}

/-- What the batches of `order` leave in a list that holds `xs` to begin with. -/
def collect (cap : Nat) (batch : β → List α) (xs : List α) (order : List β) : List α :=
  (xs ++ order.flatMap batch).take cap

theorem collect_nil : collect cap batch xs [] = xs.take cap := by
  simp [collect]

theorem collect_cons (b : β) :
    collect cap batch xs (b :: order) = collect cap batch ((xs ++ batch b).take cap) order := by
  have hroom : cap - (xs ++ batch b).length = cap - ((xs ++ batch b).take cap).length := by
    rw [List.length_take]
    omega
  unfold collect
  rw [List.flatMap_cons, ← List.append_assoc, @List.take_append _ (xs ++ batch b),
    @List.take_append _ ((xs ++ batch b).take cap), List.take_take, min_self, hroom]

/-- What does not change when two neighbours change places does not depend on the order. -/
theorem eq_of_swaps {γ : Type*} {f : List β → γ}
    (hswap : ∀ before b b' after, (before ++ b :: b' :: after).Perm all →
      f (before ++ b :: b' :: after) = f (before ++ b' :: b :: after))
    (horder : order.Perm all) (horder' : order'.Perm all) : f order = f order' := by
  have hcontext {rest rest' : List β} (hperm : rest.Perm rest') :
      ∀ before : List β, (before ++ rest).Perm all → f (before ++ rest) = f (before ++ rest') := by
    induction hperm with
    | nil => exact fun _ _ => rfl
    | cons b _ ih =>
        intro before hall
        simpa using ih (before ++ [b]) (by simpa using hall)
    | swap b b' after => exact fun before hall => hswap before b' b after hall
    | trans hfirst _ ih ih' =>
        intro before hall
        exact (ih before hall).trans (ih' before ((hfirst.append_left before).symm.trans hall))
  exact hcontext (horder.trans horder'.symm) [] horder

/-- What two neighbours bring is between what came before them and what comes after. -/
theorem filter_collect (p : α → Bool) (before : List β) (b b' : β) (after : List β) :
    (collect cap batch xs (before ++ b :: b' :: after)).filter p =
      (collect cap batch xs before).filter p ++
      (((batch b ++ batch b').take (cap - (xs.length + (before.flatMap batch).length))).filter p ++
      ((after.flatMap batch).take (cap - (xs.length + (before.flatMap batch).length) -
        ((batch b).length + (batch b').length))).filter p) := by
  have hflat : xs ++ (before ++ b :: b' :: after).flatMap batch =
      (xs ++ before.flatMap batch) ++ ((batch b ++ batch b') ++ after.flatMap batch) := by
    simp
  unfold collect
  rw [hflat, @List.take_append _ (xs ++ before.flatMap batch), List.filter_append,
    @List.take_append _ (batch b ++ batch b'), List.filter_append, List.length_append,
    List.length_append]

/-- The order does not matter exactly if no two batches ever trade places noticeably: of the records that
still fit when it is their turn, the two orders keep the same ones of each key, in the same sequence. -/
theorem stableSort_collect_eq_iff :
    (∀ order order' : List β, order.Perm all → order'.Perm all →
        stableSort key (collect cap batch xs order) = stableSort key (collect cap batch xs order')) ↔
      ∀ before b b' after, (before ++ b :: b' :: after).Perm all → ∀ k,
        ((batch b ++ batch b').take (cap - (xs.length + (before.flatMap batch).length))).filter
            (fun a => decide (key a = k)) =
          ((batch b' ++ batch b).take (cap - (xs.length + (before.flatMap batch).length))).filter
            fun a => decide (key a = k) := by
  constructor
  · intro h before b b' after hall k
    have hswapped : (before ++ b' :: b :: after).Perm all :=
      ((List.Perm.swap b b' after).append_left before).trans hall
    have hkey := stableSort_eq_iff.mp (h _ _ hall hswapped) k
    rw [filter_collect, filter_collect, Nat.add_comm (batch b').length] at hkey
    exact List.append_cancel_right (List.append_cancel_left hkey)
  · intro h order order' horder horder'
    refine eq_of_swaps (f := fun order => stableSort key (collect cap batch xs order))
      (fun before b b' after hall => ?_) horder horder'
    refine stableSort_eq_iff.mpr fun k => ?_
    rw [filter_collect, filter_collect, h before b b' after hall k,
      Nat.add_comm (batch b').length]

end Reactive
