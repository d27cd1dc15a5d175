import Mathlib.Algebra.GroupWithZero.Nat
import Mathlib.Algebra.Order.BigOperators.Group.List

/-!
# Tables of reference counts

A table of a fixed number of slots counts the holders of each key. A new holder is counted in the key's
slot, or takes a free one; the last to leave frees it. As long as a slot is found for every new holder,
the table's counts are the true ones.
-/

namespace Reactive

variable {α κ : Type*}

/-- Change the first element that passes the test. -/
def updateFirst (test : α → Bool) (f : α → α) : List α → List α
  | [] => []
  | x :: xs => if test x then f x :: xs else x :: updateFirst test f xs

variable {test : α → Bool} {f : α → α} {xs : List α}

theorem length_updateFirst : (updateFirst test f xs).length = xs.length := by
  induction xs with
  | nil => rfl
  | cons x xs ih =>
      unfold updateFirst
      split
      · rfl
      · exact congrArg (· + 1) ih

/-- If the change turns `a` of an element's weight into `b`, so it does with the weight of the list. -/
theorem sum_map_updateFirst {weight : α → Nat} {a b : Nat} (hany : xs.any test = true)
    (hweight : ∀ x, test x = true → weight (f x) + a = weight x + b) :
    ((updateFirst test f xs).map weight).sum + a = (xs.map weight).sum + b := by
  induction xs with
  | nil => cases hany
  | cons x xs ih =>
      unfold updateFirst
      cases htest : test x with
      | true =>
          have := hweight x htest
          simp only [if_true, List.map_cons, List.sum_cons]
          omega
      | false =>
          have := ih (by simpa [htest] using hany)
          simp only [Bool.false_eq_true, if_false, List.map_cons, List.sum_cons]
          omega

/-- Erasing the element found takes away what it counts for. -/
theorem countP_eraseP_add {p : α → Bool} {x : α} (h : xs.find? test = some x) :
    (xs.eraseP test).countP p + (if p x then 1 else 0) = xs.countP p := by
  induction xs with
  | nil => cases h
  | cons y xs ih =>
      cases htest : test y with
      | true =>
          rw [List.find?_cons_of_pos htest] at h
          obtain rfl := Option.some.inj h
          rw [List.eraseP_cons_of_pos htest, List.countP_cons]
      | false =>
          have hneg : ¬test y = true := by simp [htest]
          rw [List.find?_cons_of_neg hneg] at h
          rw [List.eraseP_cons_of_neg hneg, List.countP_cons, List.countP_cons, ← ih h]
          omega

/-- The holders of a key. A slot without any is free; `seq` says when it was taken. -/
structure Slot (κ : Type*) where
  key : κ
  refs : Nat
  seq : Nat

namespace Slot

def isFree (e : Slot κ) : Bool := decide (e.refs = 0)

variable [DecidableEq κ]

def isFor (k : κ) (e : Slot κ) : Bool := !e.isFree && decide (e.key = k)

/-- One more holder. -/
def retain (e : Slot κ) : Slot κ := { e with refs := e.refs + 1 }

/-- One less; `free` is what a slot without holders looks like. -/
def release (free e : Slot κ) : Slot κ :=
  if e.refs = 1 then free else { e with refs := e.refs - 1 }

/-- The holders of the key in the slot. -/
def refsFor (k : κ) (e : Slot κ) : Nat := if e.key = k then e.refs else 0

end Slot

variable [DecidableEq κ] {k : κ} {slots : List (Slot κ)}

/-- The holders of the key in the table. -/
def refsOf (k : κ) (slots : List (Slot κ)) : Nat := (slots.map (Slot.refsFor k)).sum

@[simp]
theorem refsOf_cons (e : Slot κ) : refsOf k (e :: slots) = e.refsFor k + refsOf k slots := rfl

/-- The key has a slot exactly if it has holders. -/
theorem any_isFor : slots.any (Slot.isFor k) = decide (0 < refsOf k slots) := by
  induction slots with
  | nil => rfl
  | cons e slots ih =>
      have hhead : e.isFor k = decide (0 < e.refsFor k) := by
        unfold Slot.isFor Slot.isFree Slot.refsFor
        split <;> simp_all [Nat.pos_iff_ne_zero]
      rw [List.any_cons, ih, hhead, refsOf_cons, Bool.eq_iff_iff]
      simp only [Bool.or_eq_true, decide_eq_true_eq]
      omega

theorem exists_of_refsOf_pos (h : 0 < refsOf k slots) :
    ∃ e ∈ slots, e.isFree = false ∧ e.key = k := by
  obtain ⟨e, he, hfor⟩ := List.any_eq_true.mp (any_isFor.trans (decide_eq_true h))
  exact ⟨e, he, by simpa [Slot.isFor] using hfor⟩

/-! ### The keys in use -/

/-- The keys that have a holder, slot by slot. -/
def keysOf (slots : List (Slot κ)) : List κ := (slots.filter fun e => !e.isFree).map Slot.key

omit [DecidableEq κ] in
theorem keysOf_cons (e : Slot κ) :
    keysOf (e :: slots) = if e.isFree then keysOf slots else e.key :: keysOf slots := by
  unfold keysOf
  cases hfree : e.isFree <;> simp [hfree]

theorem mem_keysOf : k ∈ keysOf slots ↔ 0 < refsOf k slots := by
  constructor
  · intro hk
    obtain ⟨e, he, hkey⟩ := List.mem_map.mp hk
    obtain ⟨hmem, hused⟩ := List.mem_filter.mp he
    have hany : slots.any (Slot.isFor k) = true :=
      List.any_eq_true.mpr ⟨e, hmem, by simp [Slot.isFor, hused, hkey]⟩
    exact of_decide_eq_true (any_isFor.symm.trans hany)
  · intro hpos
    obtain ⟨e, he, hused, hkey⟩ := exists_of_refsOf_pos hpos
    exact List.mem_map.mpr ⟨e, List.mem_filter.mpr ⟨he, by simp [hused]⟩, hkey⟩

omit [DecidableEq κ] in
/-- In a full table every slot has a key. -/
theorem length_keysOf (h : slots.any Slot.isFree = false) : (keysOf slots).length = slots.length := by
  have hall : ∀ e ∈ slots, (!e.isFree) = true := by
    intro e he
    have := List.any_eq_false.mp h e he
    simpa using this
  rw [keysOf, List.length_map, List.filter_eq_self.mpr hall]

theorem keysOf_retain :
    keysOf (updateFirst (Slot.isFor k) Slot.retain slots) = keysOf slots := by
  induction slots with
  | nil => rfl
  | cons e slots ih =>
      unfold updateFirst
      split
      · rename_i hfor
        have hused : e.isFree = false := by
          cases hfree : e.isFree <;> simp_all [Slot.isFor]
        have hretained : e.retain.isFree = false := by simp [Slot.isFree, Slot.retain]
        rw [keysOf_cons, keysOf_cons, hused, hretained]
        rfl
      · rw [keysOf_cons, keysOf_cons, ih]

omit [DecidableEq κ] in
theorem keysOf_take (h : slots.any Slot.isFree = true) (seq : Nat) :
    (keysOf (updateFirst Slot.isFree (fun _ => { key := k, refs := 1, seq }) slots)).Perm
      (k :: keysOf slots) := by
  induction slots with
  | nil => cases h
  | cons e slots ih =>
      unfold updateFirst
      cases hfree : e.isFree with
      | true =>
          simp only [if_true]
          rw [keysOf_cons, keysOf_cons, hfree]
          exact List.Perm.refl _
      | false =>
          have hrest := ih (by simpa [hfree] using h)
          simp only [Bool.false_eq_true, if_false]
          rw [keysOf_cons, keysOf_cons, hfree]
          exact (hrest.cons e.key).trans (List.Perm.swap k e.key _)

theorem keysOf_release {free : Slot κ} (hfree : free.isFree = true) :
    (keysOf (updateFirst (Slot.isFor k) (Slot.release free) slots)).Sublist (keysOf slots) := by
  induction slots with
  | nil => exact List.Sublist.refl _
  | cons e slots ih =>
      unfold updateFirst
      split
      · rename_i hfor
        have hused : e.isFree = false := by
          cases hfree : e.isFree <;> simp_all [Slot.isFor]
        by_cases hlast : e.refs = 1
        · have hfreed : free.release e = free := if_pos hlast
          rw [keysOf_cons, keysOf_cons, hused, hfreed, hfree]
          exact List.sublist_cons_self _ _
        · have hkept : free.release e = { e with refs := e.refs - 1 } := if_neg hlast
          rw [keysOf_cons, keysOf_cons, hused, hkept]
          split
          · exact List.sublist_cons_self _ _
          · exact List.Sublist.refl _
      · rw [keysOf_cons, keysOf_cons]
        split
        · exact ih
        · exact ih.cons_cons e.key

/-! ### The counts -/

theorem refsOf_retain (h : slots.any (Slot.isFor k) = true) (k' : κ) :
    refsOf k' (updateFirst (Slot.isFor k) Slot.retain slots) =
      refsOf k' slots + if k = k' then 1 else 0 := by
  refine sum_map_updateFirst (a := 0) h fun e he => ?_
  simp only [Slot.isFor, Bool.and_eq_true, decide_eq_true_eq] at he
  simp only [Slot.refsFor, Slot.retain, he.2]
  split <;> rfl

/-- A free slot counts for nobody, whatever is left in it. -/
theorem refsOf_take (h : slots.any Slot.isFree = true) (seq : Nat) (k' : κ) :
    refsOf k' (updateFirst Slot.isFree (fun _ => { key := k, refs := 1, seq }) slots) =
      refsOf k' slots + if k = k' then 1 else 0 := by
  refine sum_map_updateFirst (a := 0) h fun e he => ?_
  simp only [Slot.isFree, decide_eq_true_eq] at he
  simp only [Slot.refsFor, he, ite_self]
  omega

theorem refsOf_release {free : Slot κ} (hfree : free.isFree = true)
    (h : slots.any (Slot.isFor k) = true) (k' : κ) :
    refsOf k' (updateFirst (Slot.isFor k) (Slot.release free) slots) + (if k = k' then 1 else 0) =
      refsOf k' slots := by
  refine sum_map_updateFirst (b := 0) h fun e he => ?_
  simp only [Slot.isFree, decide_eq_true_eq] at hfree
  simp only [Slot.isFor, Slot.isFree, Bool.and_eq_true, Bool.not_eq_true', decide_eq_false_iff_not,
    decide_eq_true_eq] at he
  obtain ⟨hpos, rfl⟩ := he
  by_cases hlast : e.refs = 1
  · simp only [Slot.release, Slot.refsFor, hlast, hfree, if_true, ite_self]
    omega
  · simp only [Slot.release, Slot.refsFor, hlast, if_false]
    split
    · omega
    · rfl

/-! ### The order of the keys

A slot is stamped when it is taken. The stamps say in which order the keys in use came to the table. -/

section Order

variable {log log' : List κ} {clock : Nat} {slots' : List (Slot κ)}

/-- The later of the best so far and the next slot, if that is in use. -/
def laterSlot (best : Option (Slot κ)) (e : Slot κ) : Option (Slot κ) :=
  if e.isFree then best
  else if best.all fun b => decide (b.seq < e.seq) then some e
  else best

/-- The slot in use that was taken last. -/
def newestSlot (slots : List (Slot κ)) : Option (Slot κ) := slots.foldl laterSlot none

omit [DecidableEq κ] in
theorem laterSlot_of_used (best : Option (Slot κ)) {e : Slot κ} (he : e.isFree = false) :
    ∃ c, laterSlot best e = some c ∧ e.seq ≤ c.seq ∧ ∀ b, best = some b → b.seq ≤ c.seq := by
  unfold laterSlot
  rw [if_neg (by simp [he])]
  cases best with
  | none => exact ⟨e, rfl, le_refl _, fun b hb => by cases hb⟩
  | some b =>
      by_cases hlater : b.seq < e.seq
      · rw [if_pos (by simpa using hlater)]
        exact ⟨e, rfl, le_refl _, fun b' hb => Option.some.inj hb ▸ hlater.le⟩
      · rw [if_neg (by simpa using hlater)]
        exact ⟨b, rfl, not_lt.mp hlater, fun b' hb => Option.some.inj hb ▸ le_refl _⟩

omit [DecidableEq κ] in
theorem exists_foldl_of_some {b : Slot κ} :
    ∃ c, slots.foldl laterSlot (some b) = some c ∧ b.seq ≤ c.seq := by
  induction slots generalizing b with
  | nil => exact ⟨b, rfl, le_refl _⟩
  | cons e slots ih =>
      rw [List.foldl_cons]
      cases hfree : e.isFree with
      | true =>
          rw [show laterSlot (some b) e = some b from if_pos hfree]
          exact ih
      | false =>
          obtain ⟨c, hc, -, hbest⟩ := laterSlot_of_used (some b) hfree
          obtain ⟨c', hc', hle⟩ := @ih c
          rw [hc]
          exact ⟨c', hc', (hbest b rfl).trans hle⟩

omit [DecidableEq κ] in
/-- No slot in use was taken after the newest. -/
theorem exists_foldl_of_mem (best : Option (Slot κ)) {e : Slot κ} (he : e ∈ slots)
    (hused : e.isFree = false) : ∃ c, slots.foldl laterSlot best = some c ∧ e.seq ≤ c.seq := by
  induction slots generalizing best with
  | nil => cases he
  | cons e' slots ih =>
      rw [List.foldl_cons]
      rcases List.mem_cons.mp he with rfl | htail
      · obtain ⟨c, hc, hle, -⟩ := laterSlot_of_used best hused
        obtain ⟨c', hc', hle'⟩ : ∃ c', slots.foldl laterSlot (some c) = some c' ∧ c.seq ≤ c'.seq :=
          exists_foldl_of_some
        rw [hc]
        exact ⟨c', hc', hle.trans hle'⟩
      · exact ih _ htail

omit [DecidableEq κ] in
/-- The newest is a slot in use. -/
theorem mem_of_foldl {best : Option (Slot κ)} {c : Slot κ} (h : slots.foldl laterSlot best = some c) :
    best = some c ∨ c ∈ slots ∧ c.isFree = false := by
  induction slots generalizing best with
  | nil => exact .inl h
  | cons e slots ih =>
      rw [List.foldl_cons] at h
      rcases ih h with hbest | ⟨hmem, hused⟩
      · unfold laterSlot at hbest
        split at hbest
        · exact .inl hbest
        · rename_i hused
          split at hbest
          · obtain rfl := Option.some.inj hbest
            exact .inr ⟨List.mem_cons_self, by simpa using hused⟩
          · exact .inl hbest
      · exact .inr ⟨List.mem_cons_of_mem _ hmem, hused⟩

/-- Of two keys of `log`, the first one's slot was taken later, and none after `clock`. -/
structure Ranked (log : List κ) (clock : Nat) (slots : List (Slot κ)) : Prop where
  order : log.Pairwise fun k k' => ∀ e ∈ slots, ∀ e' ∈ slots, e.isFree = false → e'.isFree = false →
    e.key = k → e'.key = k' → e'.seq < e.seq
  clock : ∀ e ∈ slots, e.isFree = false → e.seq ≤ clock

/-- The newest key is the first of the log. -/
theorem Ranked.newestSlot (h : Ranked log clock slots) (hmem : ∀ k, k ∈ log ↔ 0 < refsOf k slots) :
    (newestSlot slots).map Slot.key = log.head? := by
  cases log with
  | nil =>
      cases hnewest : Reactive.newestSlot slots with
      | none => rfl
      | some c =>
          obtain hnone | ⟨hc, hused⟩ := mem_of_foldl hnewest
          · cases hnone
          · have hkey : c.key ∈ keysOf slots :=
              List.mem_map.mpr ⟨c, List.mem_filter.mpr ⟨hc, by simp [hused]⟩, rfl⟩
            exact absurd ((hmem c.key).mpr (mem_keysOf.mp hkey)) List.not_mem_nil
  | cons k log =>
      obtain ⟨e, he, hused, hkey⟩ := exists_of_refsOf_pos ((hmem k).mp List.mem_cons_self)
      obtain ⟨c, hc, hle⟩ := exists_foldl_of_mem none he hused
      obtain hnone | ⟨hcmem, hcused⟩ := mem_of_foldl hc
      · cases hnone
      · have hckey : c.key ∈ keysOf slots :=
          List.mem_map.mpr ⟨c, List.mem_filter.mpr ⟨hcmem, by simp [hcused]⟩, rfl⟩
        rw [show Reactive.newestSlot slots = some c from hc, Option.map_some, List.head?_cons]
        rcases List.mem_cons.mp ((hmem c.key).mpr (mem_keysOf.mp hckey)) with hsame | hlater
        · rw [hsame]
        · have hlt := (List.pairwise_cons.mp h.order).1 c.key hlater e he c hcmem hused hcused hkey rfl
          omega

omit [DecidableEq κ] in
/-- A table whose slots in use have been there before. -/
theorem Ranked.of_slots (h : Ranked log clock slots)
    (hslots : ∀ e' ∈ slots', e'.isFree = false →
      ∃ e ∈ slots, e.isFree = false ∧ e.key = e'.key ∧ e.seq = e'.seq) : Ranked log clock slots' where
  order := by
    refine h.order.imp fun horder e he e' he' hused hused' hkey hkey' => ?_
    obtain ⟨d, hd, hdused, hdkey, hdseq⟩ := hslots e he hused
    obtain ⟨d', hd', hdused', hdkey', hdseq'⟩ := hslots e' he' hused'
    rw [← hdseq, ← hdseq']
    exact horder d hd d' hd' hdused hdused' (hdkey.trans hkey) (hdkey'.trans hkey')
  clock e he hused := by
    obtain ⟨d, hd, hdused, -, hdseq⟩ := hslots e he hused
    exact hdseq ▸ h.clock d hd hdused

omit [DecidableEq κ] in
theorem Ranked.sublist (h : Ranked log clock slots) (hsub : log'.Sublist log) : Ranked log' clock slots :=
  ⟨h.order.sublist hsub, h.clock⟩

theorem mem_updateFirst {x : α} (h : x ∈ updateFirst test f xs) :
    x ∈ xs ∨ ∃ y ∈ xs, test y = true ∧ x = f y := by
  induction xs with
  | nil => cases h
  | cons y xs ih =>
      unfold updateFirst at h
      split at h
      · rename_i htest
        rcases List.mem_cons.mp h with rfl | htail
        · exact .inr ⟨y, List.mem_cons_self, htest, rfl⟩
        · exact .inl (List.mem_cons_of_mem _ htail)
      · rcases List.mem_cons.mp h with rfl | htail
        · exact .inl List.mem_cons_self
        · rcases ih htail with hold | ⟨z, hz, htest, rfl⟩
          · exact .inl (List.mem_cons_of_mem _ hold)
          · exact .inr ⟨z, List.mem_cons_of_mem _ hz, htest, rfl⟩

theorem Ranked.retain (h : Ranked log clock slots) :
    Ranked log clock (updateFirst (Slot.isFor k) Slot.retain slots) := by
  refine h.of_slots fun e' he' hused => ?_
  obtain hold | ⟨e, he, hfor, rfl⟩ := mem_updateFirst he'
  · exact ⟨e', hold, hused, rfl, rfl⟩
  · simp only [Slot.isFor, Bool.and_eq_true, Bool.not_eq_true'] at hfor
    exact ⟨e, he, hfor.1, rfl, rfl⟩

theorem Ranked.release {free : Slot κ} (hfree : free.isFree = true) (h : Ranked log clock slots) :
    Ranked log clock (updateFirst (Slot.isFor k) (Slot.release free) slots) := by
  refine h.of_slots fun e' he' hused => ?_
  obtain hold | ⟨e, he, hfor, rfl⟩ := mem_updateFirst he'
  · exact ⟨e', hold, hused, rfl, rfl⟩
  · simp only [Slot.isFor, Bool.and_eq_true, Bool.not_eq_true'] at hfor
    unfold Slot.release at hused ⊢
    split at hused
    · exact absurd (hfree.symm.trans hused) (by decide)
    · rename_i hmany
      rw [if_neg hmany]
      exact ⟨e, he, hfor.1, rfl, rfl⟩

/-- A key that is new to the table comes first, stamped with the next number. -/
theorem Ranked.take (h : Ranked log clock slots) (hmem : ∀ k, k ∈ log ↔ 0 < refsOf k slots)
    (hnew : k ∉ log) :
    Ranked (k :: log) (clock + 1)
      (updateFirst Slot.isFree (fun _ => { key := k, refs := 1, seq := clock + 1 }) slots) := by
  have hslots : ∀ e ∈ updateFirst Slot.isFree (fun _ => { key := k, refs := 1, seq := clock + 1 }) slots,
      e.isFree = false → e ∈ slots ∧ e.key ∈ log ∨ e.key = k ∧ e.seq = clock + 1 := by
    intro e he hused
    obtain hold | ⟨-, -, -, rfl⟩ := mem_updateFirst he
    · refine .inl ⟨hold, (hmem e.key).mpr (mem_keysOf.mp ?_)⟩
      exact List.mem_map.mpr ⟨e, List.mem_filter.mpr ⟨hold, by simp [hused]⟩, rfl⟩
    · exact .inr ⟨rfl, rfl⟩
  constructor
  · refine List.pairwise_cons.mpr ⟨fun k' hk' e he e' he' hused hused' hkey hkey' => ?_, ?_⟩
    · obtain ⟨-, hin⟩ | ⟨-, hseq⟩ := hslots e he hused
      · exact absurd (hkey ▸ hin) hnew
      · obtain ⟨hold, -⟩ | ⟨hsame, -⟩ := hslots e' he' hused'
        · rw [hseq]
          exact Nat.lt_succ_of_le (h.clock e' hold hused')
        · exact absurd (hsame.symm.trans hkey' ▸ hk') hnew
    · refine h.order.imp_of_mem fun {k₁ k₂} hk₁ hk₂ horder e he e' he' hused hused' hkey hkey' => ?_
      obtain ⟨hold, -⟩ | ⟨hsame, -⟩ := hslots e he hused
      · obtain ⟨hold', -⟩ | ⟨hsame', -⟩ := hslots e' he' hused'
        · exact horder e hold e' hold' hused hused' hkey hkey'
        · exact absurd (hsame'.symm.trans hkey' ▸ hk₂) hnew
      · exact absurd (hsame.symm.trans hkey ▸ hk₁) hnew
  · intro e he hused
    obtain ⟨hold, -⟩ | ⟨-, hseq⟩ := hslots e he hused
    · exact (h.clock e hold hused).trans (Nat.le_succ _)
    · exact hseq.le

end Order

end Reactive
