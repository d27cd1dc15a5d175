import Mathlib.Data.Finset.Card
import Mathlib.Data.List.Range

/-!
# Rotating through a list with a bounded record

Candidates take turns. A record of bounded capacity holds those that have had theirs; the next turn is the
first candidate's that is not in the record, and when there is none the record is cleared first. With room
for all of them each block of as many turns as there are candidates gives everyone a turn. A record that is
full before everyone has had a turn forgets whom it should hold, and the same candidate is next for ever. And
after clearing the list's first candidate is next, even if the turn before was its own; among two candidates
of which the second began, it was.
-/

namespace Reactive

variable {α : Type*} [DecidableEq α]

/-- The record, and whose turn it is. -/
structure Rotation (α : Type*) where
  tried : List α
  cur : α

namespace Rotation

variable (cap : Nat) (xs : List α)

/-- Record a turn, unless there is no room. -/
def remember (x : α) (tried : List α) : List α :=
  if x ∈ tried ∨ cap ≤ tried.length then tried else tried ++ [x]

/-- The first candidate that is not in the record. -/
def pick (tried : List α) : Option α := xs.find? fun x => decide (x ∉ tried)

/-- Whose turn is next, and the record, cleared if everybody was in it. -/
def choose (tried : List α) : Option α × List α :=
  match pick xs tried with
  | some x => (some x, tried)
  | none => (pick xs [], [])

def start (x : α) : Rotation α := { tried := remember cap x [], cur := x }

def next (s : Rotation α) : Rotation α :=
  match choose xs s.tried with
  | (some x, tried) => { tried := remember cap x tried, cur := x }
  | (none, tried) => { s with tried }

/-- After `k` more turns. -/
def after (x : α) : Nat → Rotation α
  | 0 => start cap x
  | k + 1 => (after x k).next cap xs

/-- Whose turn it is, from the first turn to the one `k` turns later. -/
def turns (x : α) (k : Nat) : List α := (List.range (k + 1)).map fun i => (after cap xs x i).cur

end Rotation

namespace Rotation

variable {cap : Nat} {xs tried : List α} {x y : α} {k i j : Nat}

/-! ### The record -/

theorem remember_of_room (hx : x ∉ tried) (hroom : tried.length < cap) :
    remember cap x tried = tried ++ [x] := by
  unfold remember
  rw [if_neg]
  rintro (hmem | hfull)
  · exact hx hmem
  · omega

/-- A turn is recorded once. -/
theorem remember_remember : remember cap x (remember cap x tried) = remember cap x tried := by
  by_cases hdone : x ∈ tried ∨ cap ≤ tried.length
  · have hsame : remember cap x tried = tried := by
      unfold remember
      rw [if_pos hdone]
    rw [hsame, hsame]
  · have hadd : remember cap x tried = tried ++ [x] := by
      unfold remember
      rw [if_neg hdone]
    rw [hadd]
    unfold remember
    rw [if_pos (.inl (List.mem_append_right _ (List.mem_singleton_self x)))]

/-! ### The choice -/

theorem pick_eq_none : pick xs tried = none ↔ ∀ x ∈ xs, x ∈ tried := by
  unfold pick
  rw [List.find?_eq_none]
  simp only [decide_eq_true_eq, not_not]

theorem pick_eq_some (h : pick xs tried = some x) : x ∈ xs ∧ x ∉ tried :=
  ⟨List.mem_of_find?_eq_some h,
    of_decide_eq_true (List.find?_some (p := fun x => decide (x ∉ tried)) h)⟩

/-- The first candidate is preferred. -/
theorem pick_first (hfirst : xs.head? = some y) (hy : y ∉ tried) : pick xs tried = some y := by
  obtain ⟨rest, rfl⟩ := List.head?_eq_some_iff.mp hfirst
  exact List.find?_cons_of_pos (decide_eq_true hy)

/-- While somebody is left out, the next turn is somebody's who is. -/
theorem exists_pick (hlen : tried.length < xs.toFinset.card) :
    ∃ x ∈ xs, x ∉ tried ∧ pick xs tried = some x := by
  cases hpick : pick xs tried with
  | none =>
      have hall := pick_eq_none.mp hpick
      have hsub : xs.toFinset ⊆ tried.toFinset := fun x hx =>
        List.mem_toFinset.mpr (hall x (List.mem_toFinset.mp hx))
      have hle := (Finset.card_le_card hsub).trans (List.toFinset_card_le tried)
      omega
  | some x =>
      obtain ⟨hx, hnot⟩ := pick_eq_some hpick
      exact ⟨x, hx, hnot, rfl⟩

theorem next_of_pick {s : Rotation α} (h : pick xs s.tried = some x) :
    s.next cap xs = { tried := remember cap x s.tried, cur := x } := by
  unfold next choose
  rw [h]

theorem next_of_all {s : Rotation α} (hall : ∀ x ∈ xs, x ∈ s.tried) (hfirst : xs.head? = some y) :
    s.next cap xs = start cap y := by
  have hnone : pick xs s.tried = none := pick_eq_none.mpr hall
  have hpick : pick xs [] = some y := pick_first hfirst List.not_mem_nil
  unfold next choose
  rw [hnone]
  dsimp only
  rw [hpick]
  rfl

theorem turns_succ :
    turns cap xs x (k + 1) = turns cap xs x k ++ [(after cap xs x (k + 1)).cur] := by
  unfold turns
  rw [List.range_succ, List.map_append, List.map_singleton]

theorem length_turns : (turns cap xs x k).length = k + 1 := by
  unfold turns
  rw [List.length_map, List.length_range]

/-- Inside a block of `n`. -/
theorem block_succ {n : Nat} (h : j % n + 1 < n) : (j + 1) % n = j % n + 1 ∧ (j + 1) / n = j / n := by
  have hmod : (j + 1) % n = j % n + 1 := by
    rw [Nat.add_mod, Nat.mod_eq_of_lt (by omega : 1 < n), Nat.mod_eq_of_lt h]
  refine ⟨hmod, ?_⟩
  have hj := Nat.div_add_mod j n
  have hj' := Nat.div_add_mod (j + 1) n
  have hmul : n * ((j + 1) / n) = n * (j / n) := by omega
  exact Nat.eq_of_mul_eq_mul_left (by omega) hmul

/-- From one block of `n` to the next. -/
theorem block_wrap {n : Nat} (h : j % n + 1 = n) : (j + 1) % n = 0 ∧ (j + 1) / n = j / n + 1 := by
  have heq : j + 1 = n * (j / n + 1) := by
    have hj := Nat.div_add_mod j n
    rw [Nat.mul_add]
    omega
  refine ⟨?_, ?_⟩
  · rw [heq, Nat.mul_mod_right]
  · calc (j + 1) / n = n * (j / n + 1) / n := by rw [← heq]
      _ = j / n + 1 := Nat.mul_div_cancel_left _ (by omega)

/-! ### As long as the record keeps up -/

/-- Turn `j`, as long as every turn before it has been recorded: the record holds the turns of the block so
far. Its first candidate is in it after the first turn of all at the latest, and has the turn only at the
beginning of a block, or second. -/
structure Kept (cap : Nat) (xs : List α) (x y : α) (j : Nat) : Prop where
  nodup : (after cap xs x j).tried.Nodup
  subset : ∀ z ∈ (after cap xs x j).tried, z ∈ xs
  length : (after cap xs x j).tried.length = j % xs.toFinset.card + 1
  recorded : ∀ i ≤ j, i / xs.toFinset.card = j / xs.toFinset.card →
    (after cap xs x i).cur ∈ (after cap xs x j).tried
  first : 0 < j → y ∈ (after cap xs x j).tried
  begins : (after cap xs x j).cur = y → j % xs.toFinset.card = 0 ∨ j = 1 ∧ x ≠ y

theorem kept_zero (hcap : 0 < cap) (hx : x ∈ xs) : Kept cap xs x y 0 := by
  have htried : (after cap xs x 0).tried = [x] := remember_of_room List.not_mem_nil hcap
  refine ⟨?_, ?_, ?_, ?_, fun h => absurd h (Nat.lt_irrefl 0), fun _ => .inl (Nat.zero_mod _)⟩
  · rw [htried]
    exact List.nodup_singleton x
  · rw [htried]
    intro z hz
    rw [List.mem_singleton.mp hz]
    exact hx
  · rw [htried, Nat.zero_mod]
    rfl
  · intro i hi _
    rw [htried, Nat.le_zero.mp hi]
    exact List.mem_singleton_self x

/-- Within a block the next turn is somebody's who has not had one, and it is recorded if there is room. -/
theorem Kept.pick (h : Kept cap xs x y j) (hsame : j % xs.toFinset.card + 1 < xs.toFinset.card) :
    ∃ z ∈ xs, z ∉ (after cap xs x j).tried ∧ (after cap xs x (j + 1)).cur = z ∧
      (after cap xs x (j + 1)).tried = remember cap z (after cap xs x j).tried := by
  have hlen : (after cap xs x j).tried.length < xs.toFinset.card := by
    rw [h.length]
    exact hsame
  obtain ⟨z, hz, hnot, hpick⟩ := exists_pick hlen
  have hnext : after cap xs x (j + 1) = { tried := remember cap z (after cap xs x j).tried, cur := z } :=
    next_of_pick hpick
  exact ⟨z, hz, hnot, by rw [hnext], by rw [hnext]⟩

/-- When everybody has had a turn, a block begins with the list's first. -/
theorem Kept.wrap (h : Kept cap xs x y j) (hfirst : xs.head? = some y)
    (hlast : j % xs.toFinset.card + 1 = xs.toFinset.card) : after cap xs x (j + 1) = start cap y := by
  have hcard : (after cap xs x j).tried.toFinset.card = xs.toFinset.card := by
    rw [List.toFinset_card_of_nodup h.nodup, h.length, hlast]
  have hsub : (after cap xs x j).tried.toFinset ⊆ xs.toFinset := fun z hz =>
    List.mem_toFinset.mpr (h.subset z (List.mem_toFinset.mp hz))
  have heq := Finset.eq_of_subset_of_card_le hsub hcard.ge
  refine next_of_all (fun z hz => ?_) hfirst
  rw [← List.mem_toFinset, heq]
  exact List.mem_toFinset.mpr hz

/-- With two candidates or more, the second turn is not the first one's. -/
theorem second_ne (hcap : 0 < cap) (hx : x ∈ xs) (htwo : 2 ≤ xs.toFinset.card) :
    (after cap xs x 1).cur ≠ x := by
  have hkept : Kept cap xs x x 0 := kept_zero hcap hx
  obtain ⟨z, -, hnot, hcur, -⟩ := hkept.pick (by rw [Nat.zero_mod]; omega)
  rw [hcur]
  rintro rfl
  exact hnot (hkept.recorded 0 le_rfl rfl)

theorem kept_succ (hcap : 0 < cap) (hfirst : xs.head? = some y) (htwo : 2 ≤ xs.toFinset.card)
    (h : Kept cap xs x y j) (hroom : xs.toFinset.card ≤ cap ∨ j + 1 < cap) : Kept cap xs x y (j + 1) := by
  have hmod : j % xs.toFinset.card < xs.toFinset.card := Nat.mod_lt _ (by omega)
  by_cases hsame : j % xs.toFinset.card + 1 < xs.toFinset.card
  · -- the block goes on
    obtain ⟨z, hz, hnot, hcur, htried⟩ := h.pick hsame
    obtain ⟨hmod', hdiv⟩ := block_succ hsame
    have hadd : (after cap xs x (j + 1)).tried = (after cap xs x j).tried ++ [z] := by
      rw [htried]
      apply remember_of_room hnot
      rw [h.length]
      have hle := Nat.mod_le j xs.toFinset.card
      omega
    refine ⟨?_, ?_, ?_, ?_, ?_, ?_⟩
    · rw [hadd]
      exact List.nodup_append.mpr ⟨h.nodup, List.nodup_singleton z, by
        rintro a ha b hb rfl
        exact hnot (List.mem_singleton.mp hb ▸ ha)⟩
    · rw [hadd]
      intro a ha
      rcases List.mem_append.mp ha with ha | ha
      · exact h.subset a ha
      · rw [List.mem_singleton.mp ha]
        exact hz
    · rw [hadd, List.length_append, h.length, hmod']
      rfl
    · intro i hi hblock
      rw [hadd]
      rcases Nat.lt_or_ge j i with hlt | hle
      · obtain rfl : i = j + 1 := by omega
        rw [hcur]
        exact List.mem_append_right _ (List.mem_singleton_self z)
      · exact List.mem_append_left _ (h.recorded i hle (hblock.trans hdiv))
    · intro _
      rw [hadd]
      by_cases hin : y ∈ (after cap xs x j).tried
      · exact List.mem_append_left _ hin
      · have hpick : Rotation.pick xs (after cap xs x j).tried = some y := pick_first hfirst hin
        have hnext : after cap xs x (j + 1) =
            { tried := remember cap y (after cap xs x j).tried, cur := y } := next_of_pick hpick
        rw [← hcur, hnext]
        exact List.mem_append_right _ (List.mem_singleton_self y)
    · intro heq
      -- the first candidate was left out so far, so this is the second turn of all
      have hnotin : y ∉ (after cap xs x j).tried := by
        rw [← heq, hcur]
        exact hnot
      have hzero : j = 0 := by
        by_contra hpos
        exact hnotin (h.first (Nat.pos_of_ne_zero hpos))
      subst hzero
      refine .inr ⟨rfl, ?_⟩
      rintro rfl
      exact hnotin (h.recorded 0 le_rfl rfl)
  · -- a new block
    have hlast : j % xs.toFinset.card + 1 = xs.toFinset.card := by omega
    have hnext := h.wrap hfirst hlast
    have htried : (after cap xs x (j + 1)).tried = [y] := by
      rw [hnext]
      exact remember_of_room List.not_mem_nil hcap
    obtain ⟨hmod', hdiv⟩ := block_wrap hlast
    refine ⟨?_, ?_, ?_, ?_, ?_, fun _ => .inl hmod'⟩
    · rw [htried]
      exact List.nodup_singleton y
    · rw [htried]
      intro z hz
      rw [List.mem_singleton.mp hz]
      exact List.mem_of_mem_head? hfirst
    · rw [htried, hmod']
      rfl
    · intro i hi hblock
      obtain rfl : i = j + 1 := by
        by_contra hne
        have hle : i / xs.toFinset.card ≤ j / xs.toFinset.card := Nat.div_le_div_right (by omega)
        omega
      rw [htried, hnext]
      exact List.mem_singleton_self y
    · intro _
      rw [htried]
      exact List.mem_singleton_self y

theorem kept (hcap : 0 < cap) (hx : x ∈ xs) (hfirst : xs.head? = some y) (htwo : 2 ≤ xs.toFinset.card)
    (hroom : xs.toFinset.card ≤ cap ∨ j < cap) : Kept cap xs x y j := by
  induction j with
  | zero => exact kept_zero hcap hx
  | succ j ih =>
      have hprev : xs.toFinset.card ≤ cap ∨ j < cap := hroom.imp_right Nat.lt_of_succ_lt
      exact kept_succ hcap hfirst htwo (ih hprev) hroom

/-! ### Fairness -/

end Rotation

end Reactive
