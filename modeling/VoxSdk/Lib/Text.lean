import Mathlib.Data.List.Chain
import Mathlib.Data.List.TakeWhile

/-!
# Cutting a text at a delimiter

What stands before the first or the last occurrence of a delimiter and what stands behind it; the pieces a delimiter
cuts a text into, and the text they are joined to again.
-/

namespace Text

variable {α : Type*}

theorem takeWhile_append_stop {p : α → Bool} {c : α} (hc : p c = false) (s t : List α) :
    (s ++ c :: t).takeWhile p = s.takeWhile p := by
  induction s with
  | nil => rw [List.nil_append, List.takeWhile_cons_of_neg (by simp [hc]), List.takeWhile_nil]
  | cons a s ih => rw [List.cons_append, List.takeWhile_cons, List.takeWhile_cons, ih]

theorem dropWhile_append_stop {p : α → Bool} {c : α} (hc : p c = false) (s t : List α) :
    (s ++ c :: t).dropWhile p = s.dropWhile p ++ c :: t := by
  induction s with
  | nil => rw [List.nil_append, List.dropWhile_cons_of_neg (by simp [hc]), List.dropWhile_nil,
      List.nil_append]
  | cons a s ih =>
      rw [List.cons_append, List.dropWhile_cons, List.dropWhile_cons, ih]
      split
      · rfl
      · rw [List.cons_append]

/-- What `p` holds of, up to the first thing it does not hold of. -/
theorem takeWhile_append_of_head {p : α → Bool} {s t : List α} (hs : ∀ a ∈ s, p a = true)
    (ht : ∀ a, t.head? = some a → p a = false) : (s ++ t).takeWhile p = s := by
  rw [List.takeWhile_append_of_pos hs]
  cases t with
  | nil => exact List.append_nil s
  | cons a t => rw [List.takeWhile_cons_of_neg (by simp [ht a rfl]), List.append_nil]

theorem dropWhile_append_of_head {p : α → Bool} {s t : List α} (hs : ∀ a ∈ s, p a = true)
    (ht : ∀ a, t.head? = some a → p a = false) : (s ++ t).dropWhile p = t := by
  rw [List.dropWhile_append_of_pos hs]
  cases t with
  | nil => rfl
  | cons a t => exact List.dropWhile_cons_of_neg (by simp [ht a rfl])

variable [DecidableEq α] {c : α} {s t : List α}

/-- `s` up to the first `c`. -/
def upTo (c : α) (s : List α) : List α := s.takeWhile fun a => decide (a ≠ c)

/-- What stands behind the first `c` of `s`; nothing when there is none. -/
def past (c : α) (s : List α) : List α := (s.dropWhile fun a => decide (a ≠ c)).tail

theorem ne_of_mem (h : c ∉ s) : ∀ a ∈ s, decide (a ≠ c) = true := by
  intro a ha
  rw [decide_eq_true_eq]
  rintro rfl
  exact h ha

theorem upTo_of_notMem (h : c ∉ s) : upTo c s = s := List.takeWhile_eq_self_iff.mpr (ne_of_mem h)

theorem upTo_append (h : c ∉ s) : upTo c (s ++ c :: t) = s := by
  unfold upTo
  rw [takeWhile_append_stop (by simp)]
  exact upTo_of_notMem h

theorem past_append (h : c ∉ s) : past c (s ++ c :: t) = t := by
  unfold past
  rw [dropWhile_append_stop (by simp), List.dropWhile_eq_nil_iff.mpr (ne_of_mem h), List.nil_append,
    List.tail_cons]

/-- What stands before a text without the delimiter in it does not move the first one. -/
theorem past_append_of_notMem (h : c ∉ s) (t : List α) : past c (s ++ t) = past c t := by
  unfold past
  rw [List.dropWhile_append_of_pos (ne_of_mem h)]

theorem length_past_lt (h : s ≠ []) : (past c s).length < s.length := by
  have hpos : 0 < s.length := List.length_pos_iff.mpr h
  have hle : (s.dropWhile fun a => decide (a ≠ c)).length ≤ s.length := (List.dropWhile_sublist _).length_le
  unfold past
  rw [List.length_tail]
  omega

theorem notMem_upTo : c ∉ upTo c s := by
  intro hmem
  have hne := List.mem_takeWhile_imp hmem
  simp at hne

/-- A text with a `c` in it is what stands before the first one, the `c`, and what stands behind. -/
theorem exists_cut (h : c ∈ s) : ∃ t u, s = t ++ c :: u ∧ c ∉ t := by
  induction s with
  | nil => exact absurd h (List.not_mem_nil)
  | cons a s ih =>
      by_cases ha : a = c
      · exact ⟨[], s, by rw [ha, List.nil_append], List.not_mem_nil⟩
      · obtain ⟨t, u, rfl, ht⟩ := ih ((List.mem_cons.mp h).resolve_left (Ne.symm ha))
        refine ⟨a :: t, u, List.cons_append.symm, ?_⟩
        rw [List.mem_cons, not_or]
        exact ⟨Ne.symm ha, ht⟩

/-! ### The last occurrence -/

/-- `s` up to the last `c`; nothing when there is none. -/
def upToLast (c : α) (s : List α) : List α :=
  ((s.reverse.dropWhile fun a => decide (a ≠ c)).drop 1).reverse

/-- What stands behind the last `c` of `s`. -/
def pastLast (c : α) (s : List α) : List α := (s.reverse.takeWhile fun a => decide (a ≠ c)).reverse

theorem upToLast_append (h : c ∉ t) : upToLast c (s ++ c :: t) = s := by
  have hrev : c ∉ t.reverse := fun hmem => h (List.mem_reverse.mp hmem)
  unfold upToLast
  rw [List.reverse_append, List.reverse_cons, List.append_assoc, List.singleton_append,
    dropWhile_append_stop (by simp), List.dropWhile_eq_nil_iff.mpr (ne_of_mem hrev), List.nil_append,
    List.drop_succ_cons, List.drop_zero, List.reverse_reverse]

theorem pastLast_append (h : c ∉ t) : pastLast c (s ++ c :: t) = t := by
  have hrev : c ∉ t.reverse := fun hmem => h (List.mem_reverse.mp hmem)
  unfold pastLast
  rw [List.reverse_append, List.reverse_cons, List.append_assoc, List.singleton_append,
    takeWhile_append_stop (by simp), List.takeWhile_eq_self_iff.mpr (ne_of_mem hrev),
    List.reverse_reverse]

/-! ### Pieces -/

theorem notMem_of_mem_splitOn (h : t ∈ s.splitOn c) : c ∉ t := by
  induction s generalizing t with
  | nil =>
      obtain rfl : t = [] := by simpa using h
      exact List.not_mem_nil
  | cons a s ih =>
      rw [List.splitOn_cons_eq_if_modifyHead] at h
      split at h
      · obtain rfl | htail := List.mem_cons.mp h
        · exact List.not_mem_nil
        · exact ih htail
      · next hne =>
          obtain ⟨u, us, hsplit⟩ := List.exists_cons_of_ne_nil (List.splitOn_ne_nil c s)
          rw [hsplit, List.modifyHead_cons] at h
          rw [hsplit] at ih
          obtain rfl | htail := List.mem_cons.mp h
          · have hu := ih List.mem_cons_self
            have hac : c ≠ a := fun heq => hne (by simp [heq])
            rw [List.mem_cons, not_or]
            exact ⟨hac, hu⟩
          · exact ih (List.mem_cons_of_mem _ htail)

omit [DecidableEq α] in
theorem intercalate_append_singleton {ts : List (List α)} (hts : ts ≠ []) (t : List α) :
    [c].intercalate (ts ++ [t]) = [c].intercalate ts ++ c :: t := by
  induction ts with
  | nil => exact absurd rfl hts
  | cons u us ih =>
      rw [List.cons_append, List.intercalate_cons_of_ne_nil (by simp)]
      by_cases hus : us = []
      · rw [hus, List.nil_append, List.intercalate_singleton, List.intercalate_singleton,
          List.append_assoc, List.singleton_append]
      · rw [ih hus, List.intercalate_cons_of_ne_nil hus]
        simp only [List.append_assoc]

omit [DecidableEq α] in
theorem length_intercalate_le (ts us : List (List α)) :
    ([c].intercalate ts).length ≤ ([c].intercalate (ts ++ us)).length := by
  induction us generalizing ts with
  | nil => rw [List.append_nil]
  | cons u us ih =>
      refine le_trans ?_ (List.append_cons ts u us ▸ ih (ts ++ [u]))
      by_cases hts : ts = []
      · simp [hts, List.intercalate]
      · rw [intercalate_append_singleton hts, List.length_append]
        exact Nat.le_add_right _ _

omit [DecidableEq α] in
/-- Pieces joined are nothing only if there are none. -/
theorem intercalate_eq_nil_iff {ts : List (List α)} (h : ∀ t ∈ ts, t ≠ []) :
    [c].intercalate ts = [] ↔ ts = [] := by
  cases ts with
  | nil => simp [List.intercalate]
  | cons t ts =>
      have ht := h t List.mem_cons_self
      cases ts with
      | nil => simp [List.intercalate_singleton, ht]
      | cons u us => simp [List.intercalate_cons_cons, ht]

omit [DecidableEq α] in
theorem length_intercalate_lt {k : Nat} {ts : List (List α)} (hne : ts ≠ []) (h : ∀ t ∈ ts, t.length ≤ k) :
    ([c].intercalate ts).length < ts.length * (k + 1) := by
  induction ts with
  | nil => exact absurd rfl hne
  | cons t ts ih =>
      have ht := h t List.mem_cons_self
      by_cases hts : ts = []
      · rw [hts, List.intercalate_singleton, List.length_singleton]
        omega
      · have hrest := ih hts fun u hu => h u (List.mem_cons_of_mem t hu)
        rw [List.intercalate_cons_of_ne_nil hts, List.length_append, List.length_append, List.length_singleton,
          List.length_cons, Nat.succ_mul]
        omega

/-! ### Delimiters that only separate -/

/-- No delimiter at either end, and no two of them in a row. -/
structure Tidy (c : α) (s : List α) : Prop where
  head : s.head? ≠ some c
  last : s.getLast? ≠ some c
  single : s.IsChain fun a b => ¬(a = c ∧ b = c)

omit [DecidableEq α] in
theorem tidy_nil : Tidy c [] := ⟨by simp, by simp, .nil⟩

omit [DecidableEq α] in
theorem tidy_of_notMem (h : c ∉ s) : Tidy c s := by
  refine ⟨fun hhead => h (List.mem_of_head? hhead), fun hlast => h (List.mem_of_getLast? hlast), ?_⟩
  apply List.Pairwise.isChain
  apply List.Pairwise.imp_of_mem (R := fun _ _ => True) _ (List.pairwise_of_forall fun _ _ => trivial)
  rintro a b ha - - ⟨rfl, -⟩
  exact h ha

omit [DecidableEq α] in
theorem tidy_append_cons_iff (hs : s ≠ []) (ht : t ≠ []) : Tidy c (s ++ c :: t) ↔ Tidy c s ∧ Tidy c t := by
  have hhead : (s ++ c :: t).head? = s.head? := List.head?_append_of_ne_nil s hs
  have hlast : (s ++ c :: t).getLast? = t.getLast? := by
    rw [List.getLast?_append_of_ne_nil s (List.cons_ne_nil c t), List.getLast?_cons_of_ne_nil ht]
  have hchain : (s ++ c :: t).IsChain (fun a b => ¬(a = c ∧ b = c)) ↔
      (s.IsChain fun a b => ¬(a = c ∧ b = c)) ∧ s.getLast? ≠ some c ∧ t.head? ≠ some c ∧
        t.IsChain fun a b => ¬(a = c ∧ b = c) := by
    rw [List.isChain_append, List.isChain_cons]
    cases hs : s.getLast? <;> cases ht : t.head? <;> simp <;> tauto
  constructor
  · rintro ⟨h, h', hsingle⟩
    obtain ⟨hchain, hlast', hhead', hchain'⟩ := hchain.mp hsingle
    exact ⟨⟨hhead ▸ h, hlast', hchain⟩, ⟨hhead', hlast ▸ h', hchain'⟩⟩
  · rintro ⟨h, h'⟩
    exact ⟨hhead.symm ▸ h.head, hlast.symm ▸ h'.last, hchain.mpr ⟨h.single, h.last, h'.head, h'.single⟩⟩

omit [DecidableEq α] in
/-- In joined pieces the delimiters only separate if they do in each piece. -/
theorem tidy_intercalate_iff {ts : List (List α)} (h : ∀ t ∈ ts, t ≠ []) :
    Tidy c ([c].intercalate ts) ↔ ∀ t ∈ ts, Tidy c t := by
  induction ts with
  | nil => exact iff_of_true tidy_nil (by simp)
  | cons t ts ih =>
      by_cases hts : ts = []
      · simp [hts, List.intercalate_singleton]
      · have hrest : ∀ u ∈ ts, u ≠ [] := fun u hu => h u (List.mem_cons_of_mem t hu)
        have hjoined : [c].intercalate ts ≠ [] := fun hnil => hts ((intercalate_eq_nil_iff hrest).mp hnil)
        rw [List.intercalate_cons_of_ne_nil hts, List.append_assoc, List.singleton_append,
          tidy_append_cons_iff (h t List.mem_cons_self) hjoined, ih hrest, List.forall_mem_cons]

/-- Joined pieces without the delimiter are cut into the same pieces again. -/
theorem filter_splitOn_intercalate {p : List α → Bool} (hnil : p [] = false) {ts : List (List α)}
    (h : ∀ t ∈ ts, c ∉ t) : (([c].intercalate ts).splitOn c).filter p = ts.filter p := by
  by_cases hts : ts = []
  · subst hts
    simp [List.intercalate, hnil]
  · rw [List.splitOn_intercalate c h hts]

end Text
