import Mathlib.Data.List.Nodup

/-!
# Bounded sweeps

Code that must not hold a lock while it works on the elements of a list often copies the elements it
wants first, up to some bound, and works on the copies. What is left of that is the sweep: the first
`limit` elements that pass the test are worked on, in order; the others stay as they are.
-/

namespace Reactive

variable {α ο : Type*}

/-- Work on the first `limit` elements that pass the test. -/
def sweep (test : α → Bool) (work : α → α × List ο) : Nat → List α → List α × List ο
  | _, [] => ([], [])
  | 0, xs => (xs, [])
  | limit + 1, x :: xs =>
      if test x then
        let (y, os) := work x
        let (ys, os') := sweep test work limit xs
        (y :: ys, os ++ os')
      else
        let (ys, os) := sweep test work (limit + 1) xs
        (x :: ys, os)

/-- The elements a sweep works on, and the others that pass the test but are past the bound. -/
def reached (test : α → Bool) (limit : Nat) (xs : List α) : List α := (xs.filter test).take limit

def missed (test : α → Bool) (limit : Nat) (xs : List α) : List α := (xs.filter test).drop limit

variable {test : α → Bool} {work : α → α × List ο} {limit : Nat} {xs : List α}

theorem mem_reached {x : α} (h : x ∈ reached test limit xs) : x ∈ xs ∧ test x = true :=
  List.mem_filter.mp (List.mem_of_mem_take h)

theorem mem_missed {x : α} (h : x ∈ missed test limit xs) : x ∈ xs ∧ test x = true :=
  List.mem_filter.mp (List.mem_of_mem_drop h)

/-- An element stands on one side of the bound. -/
theorem not_mem_missed {x : α} (hnodup : xs.Nodup) (h : x ∈ reached test limit xs) :
    x ∉ missed test limit xs :=
  fun hmissed => List.disjoint_take_drop (hnodup.filter _) (Nat.le_refl _) h hmissed

@[simp]
theorem sweep_zero : sweep test work 0 xs = (xs, []) := by
  cases xs <;> rfl

@[simp]
theorem sweep_nil : sweep test work limit [] = ([], []) := by
  cases limit <;> rfl

theorem sweep_cons_of_pos {x : α} (h : test x = true) :
    sweep test work (limit + 1) (x :: xs) =
      ((work x).1 :: (sweep test work limit xs).1,
        (work x).2 ++ (sweep test work limit xs).2) := by
  simp [sweep, h]

theorem sweep_cons_of_neg {x : α} (h : test x = false) :
    sweep test work (limit + 1) (x :: xs) =
      (x :: (sweep test work (limit + 1) xs).1, (sweep test work (limit + 1) xs).2) := by
  simp [sweep, h]

/-- After a sweep every element is one that was worked on, or failed the test, or was missed. -/
theorem mem_sweep {y : α} (h : y ∈ (sweep test work limit xs).1) :
    (∃ x ∈ reached test limit xs, y = (work x).1) ∨ (y ∈ xs ∧ test y = false) ∨
      y ∈ missed test limit xs := by
  induction xs generalizing limit with
  | nil => simp at h
  | cons x xs ih =>
      cases limit with
      | zero =>
          rw [sweep_zero] at h
          cases htest : test y with
          | true => exact .inr (.inr (by simpa [missed, htest] using h))
          | false => exact .inr (.inl ⟨h, rfl⟩)
      | succ limit =>
          cases htest : test x with
          | true =>
              rw [sweep_cons_of_pos htest] at h
              rcases List.mem_cons.mp h with rfl | hmem
              · exact .inl ⟨x, by simp [reached, htest], rfl⟩
              · rcases ih hmem with ⟨z, hz, rfl⟩ | ⟨hy, hfail⟩ | hmiss
                · exact .inl ⟨z, by simpa [reached, htest] using .inr hz, rfl⟩
                · exact .inr (.inl ⟨List.mem_cons_of_mem _ hy, hfail⟩)
                · exact .inr (.inr (by simpa [missed, htest] using hmiss))
          | false =>
              rw [sweep_cons_of_neg htest] at h
              rcases List.mem_cons.mp h with rfl | hmem
              · exact .inr (.inl ⟨List.mem_cons_self, htest⟩)
              · rcases ih hmem with ⟨z, hz, rfl⟩ | ⟨hy, hfail⟩ | hmiss
                · exact .inl ⟨z, by simpa [reached, htest] using hz, rfl⟩
                · exact .inr (.inl ⟨List.mem_cons_of_mem _ hy, hfail⟩)
                · exact .inr (.inr (by simpa [missed, htest] using hmiss))

theorem work_mem_sweep {x : α} (h : x ∈ reached test limit xs) :
    (work x).1 ∈ (sweep test work limit xs).1 := by
  induction xs generalizing limit with
  | nil => simp [reached] at h
  | cons y xs ih =>
      cases limit with
      | zero => simp [reached] at h
      | succ limit =>
          cases htest : test y with
          | true =>
              rw [sweep_cons_of_pos htest]
              simp only [reached, List.filter_cons_of_pos htest, List.take_succ_cons] at h
              rcases List.mem_cons.mp h with rfl | hmem
              · exact List.mem_cons_self
              · exact List.mem_cons_of_mem _ (ih hmem)
          | false =>
              rw [sweep_cons_of_neg htest]
              refine List.mem_cons_of_mem _ (ih ?_)
              simpa [reached, htest] using h

/-- What the work makes of the elements it reaches, and the others are already. -/
theorem forall_mem_sweep {P Q : α → Prop} (hwork : ∀ x ∈ reached test limit xs, P x → Q (work x).1)
    (hfail : ∀ x ∈ xs, test x = false → P x → Q x)
    (hmiss : ∀ x ∈ missed test limit xs, P x → Q x) (h : ∀ x ∈ xs, P x) :
    ∀ y ∈ (sweep test work limit xs).1, Q y := by
  intro y hy
  rcases mem_sweep hy with ⟨x, hx, rfl⟩ | ⟨hmem, htest⟩ | hmissed
  · exact hwork x hx (h x (mem_reached hx).1)
  · exact hfail y hmem htest (h y hmem)
  · exact hmiss y hmissed (h y (mem_missed hmissed).1)

/-- The same for a property that the work keeps. -/
theorem forall_mem_sweep_of_keeps {P : α → Prop} (hwork : ∀ x, test x = true → P x → P (work x).1)
    (h : ∀ x ∈ xs, P x) : ∀ y ∈ (sweep test work limit xs).1, P y :=
  forall_mem_sweep (fun x hx => hwork x (mem_reached hx).2) (fun _ _ _ hx => hx)
    (fun _ _ hx => hx) h

/-- The outputs of a sweep are those of the elements it worked on, in order. -/
theorem sweep_outs :
    (sweep test work limit xs).2 = (reached test limit xs).flatMap fun x => (work x).2 := by
  induction xs generalizing limit with
  | nil => simp [reached]
  | cons x xs ih =>
      cases limit with
      | zero => simp [reached]
      | succ limit =>
          cases htest : test x with
          | true => simp [sweep_cons_of_pos htest, reached, htest, ih]
          | false => simp [sweep_cons_of_neg htest, reached, htest, ih]

/-- A sweep of everything works on the first elements and leaves the rest. -/
theorem sweep_all :
    (sweep (fun _ => true) work limit xs).1 =
      (xs.take limit).map (fun x => (work x).1) ++ xs.drop limit := by
  induction xs generalizing limit with
  | nil => simp
  | cons x xs ih =>
      cases limit with
      | zero => simp
      | succ limit => simp [sweep_cons_of_pos, ih]

/-- What the work keeps of each element, the sweep keeps of the list. -/
theorem map_sweep {β : Type*} {f : α → β} (h : ∀ x, f (work x).1 = f x) :
    (sweep test work limit xs).1.map f = xs.map f := by
  induction xs generalizing limit with
  | nil => simp
  | cons x xs ih =>
      cases limit with
      | zero => simp
      | succ limit =>
          cases htest : test x with
          | true => simp [sweep_cons_of_pos htest, h, ih]
          | false => simp [sweep_cons_of_neg htest, ih]

/-- A second sweep with the same test misses what the first one missed, if the work keeps the
test. -/
theorem missed_sweep (h : ∀ x, test x = true → test (work x).1 = true) :
    missed test limit (sweep test work limit xs).1 = missed test limit xs := by
  induction xs generalizing limit with
  | nil => simp
  | cons x xs ih =>
      cases limit with
      | zero => simp
      | succ limit =>
          cases htest : test x with
          | true =>
              rw [sweep_cons_of_pos htest]
              simpa [missed, htest, h x htest] using ih
          | false =>
              rw [sweep_cons_of_neg htest]
              simpa [missed, htest] using ih

/-- And it works on what the first one made of the elements it worked on. -/
theorem reached_sweep (h : ∀ x, test x = true → test (work x).1 = true) :
    reached test limit (sweep test work limit xs).1 =
      (reached test limit xs).map fun x => (work x).1 := by
  induction xs generalizing limit with
  | nil => simp [reached]
  | cons x xs ih =>
      cases limit with
      | zero => simp [reached]
      | succ limit =>
          cases htest : test x with
          | true =>
              rw [sweep_cons_of_pos htest]
              simpa [reached, htest, h x htest] using ih
          | false =>
              rw [sweep_cons_of_neg htest]
              simpa [reached, htest] using ih

theorem mem_sweep_of_not_reached {x : α} (hx : x ∈ xs) (h : x ∉ reached test limit xs) :
    x ∈ (sweep test work limit xs).1 := by
  induction xs generalizing limit with
  | nil => cases hx
  | cons y xs ih =>
      cases limit with
      | zero => simpa using hx
      | succ limit =>
          cases htest : test y with
          | true =>
              rw [sweep_cons_of_pos htest]
              simp only [reached, List.filter_cons_of_pos htest, List.take_succ_cons,
                List.mem_cons, not_or] at h
              have htail : x ∈ xs := (List.mem_cons.mp hx).resolve_left h.1
              exact List.mem_cons_of_mem _ (ih htail h.2)
          | false =>
              rw [sweep_cons_of_neg htest]
              rcases List.mem_cons.mp hx with rfl | htail
              · exact List.mem_cons_self
              · refine List.mem_cons_of_mem _ (ih htail ?_)
                simpa [reached, htest] using h

/-! ### Elements with a key

Where every element has a key of its own and the work keeps it, a sweep is for each element its own
turn. -/

variable {κ : Type*} [DecidableEq κ] {key : α → κ}

theorem filter_key {x : α} (hnodup : (xs.map key).Nodup) (hx : x ∈ xs) :
    xs.filter (fun y => decide (key y = key x)) = [x] := by
  induction xs with
  | nil => cases hx
  | cons y xs ih =>
      simp only [List.map_cons, List.nodup_cons] at hnodup
      rcases List.mem_cons.mp hx with rfl | htail
      · rw [List.filter_cons_of_pos (by simp)]
        refine congrArg _ (List.filter_eq_nil_iff.mpr fun z hz => ?_)
        have hne : key z ≠ key x := fun h => hnodup.1 (h ▸ List.mem_map_of_mem hz)
        simpa using hne
      · have hne : key y ≠ key x := fun h => hnodup.1 (h ▸ List.mem_map_of_mem htail)
        rw [List.filter_cons_of_neg (by simpa using hne)]
        exact ih hnodup.2 htail

/-- The element after the sweep: what its turn made of it, or what it was. -/
theorem filter_sweep {x : α} (hnodup : (xs.map key).Nodup) (hkey : ∀ y, key (work y).1 = key y)
    (hx : x ∈ xs) :
    (x ∈ reached test limit xs →
      (sweep test work limit xs).1.filter (fun y => decide (key y = key x)) = [(work x).1]) ∧
      (x ∉ reached test limit xs →
        (sweep test work limit xs).1.filter (fun y => decide (key y = key x)) = [x]) := by
  have hnodup' : ((sweep test work limit xs).1.map key).Nodup := by
    rw [map_sweep hkey]
    exact hnodup
  constructor
  · intro h
    rw [← hkey x]
    exact filter_key hnodup' (work_mem_sweep h)
  · intro h
    exact filter_key hnodup' (mem_sweep_of_not_reached hx h)

section Owned

variable {owns : κ → ο → Bool}

/-- What the turns put out, by whose it is. -/
theorem filter_flatMap_eq_nil {f : α → List ο}
    (hown : ∀ x ∈ xs, ∀ o ∈ f x, ∀ k, owns k o = decide (k = key x)) {k : κ}
    (hk : k ∉ xs.map key) : (xs.flatMap f).filter (owns k) = [] := by
  refine List.filter_eq_nil_iff.mpr fun o ho => ?_
  obtain ⟨x, hx, ho⟩ := List.mem_flatMap.mp ho
  have hne : k ≠ key x := fun h => hk (h ▸ List.mem_map_of_mem hx)
  simp [hown x hx o ho k, hne]

theorem filter_flatMap_key {f : α → List ο} (hnodup : (xs.map key).Nodup)
    (hown : ∀ x ∈ xs, ∀ o ∈ f x, ∀ k, owns k o = decide (k = key x)) {x : α} (hx : x ∈ xs) :
    (xs.flatMap f).filter (owns (key x)) = f x := by
  induction xs with
  | nil => cases hx
  | cons y xs ih =>
      simp only [List.map_cons, List.nodup_cons] at hnodup
      have htail : ∀ x ∈ xs, ∀ o ∈ f x, ∀ k, owns k o = decide (k = key x) :=
        fun x hx => hown x (List.mem_cons_of_mem _ hx)
      rw [List.flatMap_cons, List.filter_append]
      rcases List.mem_cons.mp hx with rfl | hmem
      · have hall : (f x).filter (owns (key x)) = f x :=
          List.filter_eq_self.mpr fun o ho => by simp [hown x List.mem_cons_self o ho]
        rw [hall, filter_flatMap_eq_nil htail hnodup.1, List.append_nil]
      · have hne : key x ≠ key y := fun h => hnodup.1 (h ▸ List.mem_map_of_mem hmem)
        have hother : (f y).filter (owns (key x)) = [] :=
          List.filter_eq_nil_iff.mpr fun o ho => by simp [hown y List.mem_cons_self o ho, hne]
        rw [hother, List.nil_append]
        exact ih hnodup.2 htail hmem

theorem filter_sweep_outs {x : α} (hnodup : (xs.map key).Nodup)
    (hown : ∀ y, ∀ o ∈ (work y).2, ∀ k, owns k o = decide (k = key y)) (hx : x ∈ xs) :
    (x ∈ reached test limit xs →
      (sweep test work limit xs).2.filter (owns (key x)) = (work x).2) ∧
      (x ∉ reached test limit xs → (sweep test work limit xs).2.filter (owns (key x)) = []) := by
  have hsub : (reached test limit xs).Sublist xs :=
    (List.take_sublist _ _).trans List.filter_sublist
  rw [sweep_outs]
  constructor
  · exact filter_flatMap_key ((hsub.map key).nodup hnodup) fun y _ => hown y
  · intro h
    refine filter_flatMap_eq_nil (fun y _ => hown y) fun hmem => h ?_
    obtain ⟨y, hy, heq⟩ := List.mem_map.mp hmem
    have hsame : y = x := List.inj_on_of_nodup_map hnodup (mem_reached hy).1 hx heq
    exact hsame ▸ hy

end Owned

end Reactive
