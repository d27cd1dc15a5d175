import VoxSdk.Dns

/-!
# The targets in their order

`sort_targets` sorts the array in place, by two keys at once. What it leaves there is the stable sort of the
targets by their rank, which is the order a failover walks them in.
-/

namespace VoxSdk

open Reactive

variable {t tmp : DnsTarget} {targets spare : List DnsTarget}

theorem DnsTarget.rank_eq_iff :
    t.rank = tmp.rank ↔ t.priority = tmp.priority ∧ t.weight = tmp.weight := by
  unfold DnsTarget.rank
  rw [EmbeddingLike.apply_eq_iff_eq, Prod.mk.injEq, EmbeddingLike.apply_eq_iff_eq]

/-- The loop test compares the ranks. -/
theorem DnsTarget.movesFor_eq (tmp t : DnsTarget) : t.movesFor tmp = decide (tmp.rank < t.rank) := by
  have hlt : tmp.rank < t.rank ↔
      tmp.priority < t.priority ∨ tmp.priority = t.priority ∧ t.weight < tmp.weight := by
    unfold DnsTarget.rank
    rw [Prod.Lex.toLex_lt_toLex, OrderDual.toDual_lt_toDual]
  rw [decide_eq_decide.mpr hlt, DnsTarget.movesFor, Bool.decide_or, Bool.decide_and]
  simp only [gt_iff_lt, eq_comm]

/-- The loop sorts as `sortTargets` says, and leaves the slots that are not in use alone. -/
theorem sortTargetsInPlace_eq (targets spare : List DnsTarget) :
    sortTargetsInPlace targets.length (targets ++ spare) = some (sortTargets targets ++ spare) :=
  sortSlots_eq DnsTarget.movesFor_eq targets spare

theorem filter_sortTargets (priority weight : Nat) (targets : List DnsTarget) :
    (sortTargets targets).filter (fun t => decide (t.priority = priority ∧ t.weight = weight)) =
      targets.filter fun t => decide (t.priority = priority ∧ t.weight = weight) := by
  have hrank : (fun t : DnsTarget => decide (t.priority = priority ∧ t.weight = weight)) =
      fun t => decide (t.rank = toLex (priority, OrderDual.toDual weight)) := by
    funext t
    apply decide_eq_decide.mpr
    exact (@DnsTarget.rank_eq_iff t { t with priority, weight }).symm
  rw [hrank]
  exact filter_stableSort _ targets

/-- **The order of the targets.** Whatever is in the array, and whatever is behind the targets: `sort_targets`
stays inside it and rearranges the targets, by rising priority and within one priority by falling weight, and
those of one priority and weight stay as they came. -/
theorem sort_targets_stable (targets spare : List DnsTarget) :
    ∃ sorted, sortTargetsInPlace targets.length (targets ++ spare) = some (sorted ++ spare) ∧
      sorted.Perm targets ∧
      sorted.Pairwise (fun a b =>
        a.priority < b.priority ∨ a.priority = b.priority ∧ b.weight ≤ a.weight) ∧
      ∀ priority weight,
        sorted.filter (fun t => decide (t.priority = priority ∧ t.weight = weight)) =
          targets.filter fun t => decide (t.priority = priority ∧ t.weight = weight) := by
  refine ⟨sortTargets targets, sortTargetsInPlace_eq targets spare, perm_stableSort targets, ?_,
    fun priority weight => filter_sortTargets priority weight targets⟩
  apply (pairwise_stableSort targets).imp
  intro a b hle
  exact DnsTarget.rank_le_iff.mp hle

end VoxSdk
