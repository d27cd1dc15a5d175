import VoxSdk.Lib.RefTable
import Mathlib.Algebra.BigOperators.Group.Multiset.Basic

/-!
# A ledger of blocks

Memory as the blocks that have been allocated and not freed. Which allocations fail is left open, and a program that
frees what is not there gets stuck, so that a program which runs to its end frees nothing twice. A triple says what a
program owns before and after; what it does not own is the frame, and stays as it is. Where everything that is live
has an owner, nothing leaks.
-/

namespace Ledger

universe u

variable {α β : Type u}

/-- The blocks there are, and the number the next one gets. -/
structure Store where
  next : Nat
  live : Multiset Nat

/-- Every block is there once, and was allocated. -/
structure Store.Sound (σ : Store) : Prop where
  nodup : σ.live.Nodup
  old : ∀ p ∈ σ.live, p < σ.next

/-- A program on the store; it gets stuck where it frees a block that is not live. -/
def Prog (α : Type u) : Type u := Store → Option (α × Store)

namespace Prog

def run (prog : Prog α) (σ : Store) : Option (α × Store) := prog σ

instance : Monad Prog where
  pure a := fun σ => some (a, σ)
  bind prog next := fun σ => (prog σ).bind fun r => next r.1 r.2

@[simp]
theorem run_pure (a : α) (σ : Store) : (pure a : Prog α).run σ = some (a, σ) := rfl

theorem run_bind (prog : Prog α) (next : α → Prog β) (σ : Store) :
    (prog >>= next).run σ = (prog.run σ).bind fun r => (next r.1).run r.2 := rfl

/-- A block, unless this allocation fails. -/
def alloc (fails : Nat → Bool) : Prog (Option Nat) := fun σ =>
  if fails σ.next then some (none, { σ with next := σ.next + 1 })
  else some (some σ.next, { next := σ.next + 1, live := σ.next ::ₘ σ.live })

/-- Frees a block; a null pointer is none. -/
def free : Option Nat → Prog Unit
  | none => pure ()
  | some p => fun σ => if p ∈ σ.live then some ((), { σ with live := σ.live.erase p }) else none

/-- Runs a program on each element in turn. -/
def each (prog : α → Prog Unit) : List α → Prog Unit
  | [] => pure ()
  | x :: xs => do
      prog x
      each prog xs

end Prog

/-- The block behind a pointer, if it is not null. -/
def owned : Option Nat → Multiset Nat
  | none => 0
  | some p => {p}

@[simp]
theorem owned_none : owned none = 0 := rfl

@[simp]
theorem owned_some (p : Nat) : owned (some p) = {p} := rfl

/-- `prog`, owning `own`, runs to its end in any store, and owns afterwards what `post` says of its result. The frame
stays as it is. -/
def Triple (own : Multiset Nat) (prog : Prog α) (post : α → Multiset Nat → Prop) : Prop :=
  ∀ σ frame, σ.Sound → σ.live = own + frame →
    ∃ a σ' own', prog.run σ = some (a, σ') ∧ σ'.Sound ∧ σ'.live = own' + frame ∧ post a own'

namespace Triple

variable {own own' extra : Multiset Nat} {prog : Prog α} {next : α → Prog β} {post post' : α → Multiset Nat → Prop}
  {post₂ : β → Multiset Nat → Prop} {fails : Nat → Bool}

theorem pure {a : α} (h : post a own) : Triple own (Pure.pure a) post :=
  fun σ _ hsound hlive => ⟨a, σ, own, rfl, hsound, hlive, h⟩

theorem bind (h : Triple own prog post) (hnext : ∀ a own', post a own' → Triple own' (next a) post₂) :
    Triple own (prog >>= next) post₂ := by
  intro σ frame hsound hlive
  obtain ⟨a, σ', own', hrun, hsound', hlive', hpost⟩ := h σ frame hsound hlive
  obtain ⟨b, σ'', own'', hrun', hrest⟩ := hnext a own' hpost σ' frame hsound' hlive'
  refine ⟨b, σ'', own'', ?_, hrest⟩
  rw [Prog.run_bind, hrun, Option.bind_some, hrun']

theorem weaken (h : Triple own prog post) (hpost : ∀ a own', post a own' → post' a own') : Triple own prog post' := by
  intro σ frame hsound hlive
  obtain ⟨a, σ', own', hrun, hsound', hlive', ha⟩ := h σ frame hsound hlive
  exact ⟨a, σ', own', hrun, hsound', hlive', hpost a own' ha⟩

/-- The frame rule. -/
theorem frame (h : Triple own prog post) :
    Triple (own + extra) prog fun a own' => ∃ own₁, own' = own₁ + extra ∧ post a own₁ := by
  intro σ frame hsound hlive
  obtain ⟨a, σ', own', hrun, hsound', hlive', ha⟩ := h σ (extra + frame) hsound (by rw [hlive, add_assoc])
  exact ⟨a, σ', own' + extra, hrun, hsound', by rw [hlive', add_assoc], own', rfl, ha⟩

/-- A program owns its part of what is there; the rest waits for the next one. -/
theorem bind_frame (h : Triple own prog post)
    (hnext : ∀ a own', post a own' → Triple (own' + extra) (next a) post₂) :
    Triple (own + extra) (prog >>= next) post₂ := by
  refine h.frame.bind ?_
  rintro a _ ⟨own₁, rfl, hpost⟩
  exact hnext a own₁ hpost

theorem of_eq (heq : own = own') (h : Triple own' prog post) : Triple own prog post := heq ▸ h

theorem alloc : Triple 0 (Prog.alloc fails) fun r own' => own' = owned r ∧ (r = none → ∃ n, fails n = true) := by
  intro σ frame hsound hlive
  by_cases hfail : fails σ.next = true
  · exact ⟨none, { σ with next := σ.next + 1 }, 0, if_pos hfail,
      ⟨hsound.nodup, fun p hp => Nat.lt_succ_of_lt (hsound.old p hp)⟩, hlive, rfl, fun _ => ⟨_, hfail⟩⟩
  · have hfresh : σ.next ∉ σ.live := fun hmem => Nat.lt_irrefl _ (hsound.old _ hmem)
    refine ⟨some σ.next, { next := σ.next + 1, live := σ.next ::ₘ σ.live }, {σ.next}, if_neg hfail, ⟨?_, ?_⟩, ?_, rfl,
      fun h => nomatch h⟩
    · exact Multiset.nodup_cons.mpr ⟨hfresh, hsound.nodup⟩
    · intro p hp
      rcases Multiset.mem_cons.mp hp with rfl | hp
      · exact Nat.lt_succ_self _
      · exact Nat.lt_succ_of_lt (hsound.old p hp)
    · rw [hlive, zero_add, Multiset.singleton_add]

theorem free (p : Option Nat) : Triple (owned p) (Prog.free p) fun _ own' => own' = 0 := by
  cases p with
  | none => exact .pure rfl
  | some p =>
      intro σ frame hsound hlive
      have hmem : p ∈ σ.live := by
        rw [hlive]
        exact Multiset.mem_add.mpr (.inl (Multiset.mem_singleton_self p))
      refine ⟨(), { σ with live := σ.live.erase p }, 0, if_pos hmem, ⟨?_, ?_⟩, ?_, rfl⟩
      · exact hsound.nodup.erase p
      · exact fun q hq => hsound.old q (Multiset.mem_of_mem_erase hq)
      · rw [hlive, owned_some, Multiset.singleton_add, Multiset.erase_cons_head, zero_add]

/-- The rule for a program that leaves nothing behind of what it owns of each element. -/
theorem each {γ : Type*} {prog : γ → Prog Unit} {res : γ → Multiset Nat}
    (h : ∀ x, Triple (res x) (prog x) fun _ own' => own' = 0) (xs : List γ) :
    Triple (xs.map res).sum (Prog.each prog xs) fun _ own' => own' = 0 := by
  induction xs with
  | nil => exact .pure rfl
  | cons x xs ih =>
      rw [List.map_cons, List.sum_cons]
      refine (h x).bind_frame ?_
      rintro - _ rfl
      exact ih.of_eq (zero_add _)

end Triple

/-- A copy of what may be there: nothing, for which an allocation must have failed, or what it copies. -/
structure IsCopy {γ : Type*} (fails : Nat → Bool) (src copy : Option γ) : Prop where
  null_or : copy = none ∨ copy = src
  exact_of : (∀ n, fails n = false) → copy = src

theorem IsCopy.rfl {γ : Type*} {fails : Nat → Bool} {src : Option γ} : IsCopy fails src src :=
  ⟨.inr (Eq.refl _), fun _ => Eq.refl _⟩

theorem IsCopy.null {γ : Type*} {fails : Nat → Bool} {src : Option γ} (h : ∃ n, fails n = true) :
    IsCopy fails src none := by
  obtain ⟨n, hn⟩ := h
  exact ⟨.inl (Eq.refl _), fun hall => absurd hn (by simp [hall n])⟩

/-- The element a test finds is opened: what else is owned stays, whether the element is changed or taken out. -/
theorem exists_rest_of_find {γ : Type*} {test : γ → Bool} {xs : List γ} {x : γ} (res : γ → Multiset Nat)
    (h : xs.find? test = some x) :
    ∃ rest, (xs.map res).sum = res x + rest ∧ ((xs.eraseP test).map res).sum = rest ∧
      ∀ y, ((Reactive.updateFirst test (fun _ => y) xs).map res).sum = res y + rest := by
  induction xs with
  | nil => cases h
  | cons z zs ih =>
      cases htest : test z with
      | true =>
          rw [List.find?_cons_of_pos htest] at h
          obtain rfl := Option.some.inj h
          refine ⟨(zs.map res).sum, by simp, by rw [List.eraseP_cons_of_pos htest], fun y => ?_⟩
          rw [Reactive.updateFirst, if_pos htest, List.map_cons, List.sum_cons]
      | false =>
          have hneg : ¬test z = true := by simp [htest]
          rw [List.find?_cons_of_neg hneg] at h
          obtain ⟨rest, hall, herase, hupdate⟩ := ih h
          refine ⟨res z + rest, ?_, ?_, fun y => ?_⟩
          · rw [List.map_cons, List.sum_cons, hall, add_left_comm]
          · rw [List.eraseP_cons_of_neg hneg, List.map_cons, List.sum_cons, herase]
          · rw [Reactive.updateFirst, if_neg hneg, List.map_cons, List.sum_cons, hupdate y, add_left_comm]

/-! ### Tables by key -/

section Keys

variable {γ κ : Type*} [DecidableEq κ] {key : γ → κ} {k : κ} {xs : List γ} {y : γ}

theorem map_key_updateFirst (hy : key y = k) :
    (Reactive.updateFirst (fun x => decide (key x = k)) (fun _ => y) xs).map key = xs.map key := by
  induction xs with
  | nil => rfl
  | cons x xs ih =>
      by_cases hx : key x = k
      · rw [Reactive.updateFirst, if_pos (decide_eq_true hx), List.map_cons, List.map_cons, hy, hx]
      · rw [Reactive.updateFirst, if_neg (by simpa using hx), List.map_cons, List.map_cons, ih]

/-- Where keys are used once, the entry of a key is changed and the others are those of other keys. -/
theorem forall_updateFirst {R R' : γ → Prop} (hnodup : (xs.map key).Nodup) (hR : ∀ x ∈ xs, R x)
    (hother : ∀ x, key x ≠ k → R x → R' x) (hy : R' y) :
    ∀ z ∈ Reactive.updateFirst (fun x => decide (key x = k)) (fun _ => y) xs, R' z := by
  induction xs with
  | nil => exact fun z hz => nomatch hz
  | cons x xs ih =>
      obtain ⟨hx, hrest⟩ := List.forall_mem_cons.mp hR
      obtain ⟨hnotMem, hnodup⟩ := List.nodup_cons.mp hnodup
      by_cases hkey : key x = k
      · rw [Reactive.updateFirst, if_pos (decide_eq_true hkey)]
        refine List.forall_mem_cons.mpr ⟨hy, fun z hz => hother z (fun hz' => ?_) (hrest z hz)⟩
        exact hnotMem (hkey.trans hz'.symm ▸ List.mem_map_of_mem hz)
      · rw [Reactive.updateFirst, if_neg (by simpa using hkey)]
        exact List.forall_mem_cons.mpr ⟨hother x hkey hx, ih hnodup hrest⟩

/-- What is entered under a key of its own leaves the keys apart. -/
theorem nodup_map_key_append {r : Option γ} (hnodup : (xs.map key).Nodup)
    (hnew : xs.any (fun x => decide (key x = k)) = false) (hr : ∀ x, r = some x → key x = k) :
    ((xs ++ r.toList).map key).Nodup := by
  cases r with
  | none => simpa using hnodup
  | some y =>
      rw [Option.toList_some, List.map_append, List.map_singleton, hr y rfl]
      refine List.Nodup.append hnodup (List.nodup_singleton k) (List.disjoint_singleton.mpr fun hmem => ?_)
      obtain ⟨x, hx, heq⟩ := List.mem_map.mp hmem
      exact List.any_eq_false.mp hnew x hx (decide_eq_true heq)

end Keys

end Ledger
