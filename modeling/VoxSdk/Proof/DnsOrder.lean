import VoxSdk.Proof.DnsCompletion

/-!
# The order the SRV answers arrive in

`sort_targets` is stable, so records of one priority and weight stay in the order their answers came in,
and a full list keeps those that came first. The list is the same for every order of the answers exactly
if neither shows.
-/

namespace VoxSdk

open Reactive

namespace DnsLookup

variable {lk : DnsLookup} {qs : List DnsQuery} {answer : DnsQuery → DnsAnswer}

/-- What the answer to a query adds to the list, if there is room. -/
def batch (lk : DnsLookup) (answer : DnsQuery → DnsAnswer) (q : DnsQuery) : List DnsTarget :=
  match q with
  | .naptr => []
  | .srv _ transport => (srvAdds lk.domain transport (answer q)).map DnsTarget.fit

/-- The list when the answers to `qs` have arrived in this order. -/
def collected (lk : DnsLookup) (answer : DnsQuery → DnsAnswer) (qs : List DnsQuery) :
    List DnsTarget :=
  collect maxTargets (lk.batch answer) lk.result.targets qs

/-- For any two answers, and whatever arrived before them: of the records of the two that the list still
takes, either order keeps the same ones of each priority and weight, in the same sequence. -/
def Commuting (lk : DnsLookup) (answer : DnsQuery → DnsAnswer) (qs : List DnsQuery) : Prop :=
  ∀ before q q' after, (before ++ q :: q' :: after).Perm qs → ∀ rank,
    ((lk.batch answer q ++ lk.batch answer q').take
        (maxTargets - (lk.result.targets.length + (before.flatMap (lk.batch answer)).length))).filter
          (fun t => decide (t.rank = rank)) =
      ((lk.batch answer q' ++ lk.batch answer q).take
        (maxTargets - (lk.result.targets.length + (before.flatMap (lk.batch answer)).length))).filter
          fun t => decide (t.rank = rank)

/-- With room for all, answers commute when no record of one has the priority and weight of a record of
another. -/
theorem commuting_of_distinct
    (hroom : lk.result.targets.length + (qs.flatMap (lk.batch answer)).length ≤ maxTargets)
    (hdistinct : ∀ q ∈ qs, ∀ q' ∈ qs, q ≠ q' →
      ∀ t ∈ lk.batch answer q, ∀ t' ∈ lk.batch answer q', t.rank ≠ t'.rank) :
    lk.Commuting answer qs := by
  intro before q q' after hperm rank
  by_cases hsame : q = q'
  · rw [hsame]
  · have hlen : (qs.flatMap (lk.batch answer)).length = (before.flatMap (lk.batch answer)).length +
        ((lk.batch answer q).length + ((lk.batch answer q').length +
          (after.flatMap (lk.batch answer)).length)) := by
      rw [← (hperm.flatMap_right _).length_eq]
      simp
    have hmem : q ∈ qs ∧ q' ∈ qs := by
      simp [← hperm.mem_iff]
    have hcases := hdistinct q hmem.1 q' hmem.2 hsame
    rw [List.take_of_length_le (by rw [List.length_append]; omega),
      List.take_of_length_le (by rw [List.length_append]; omega),
      List.filter_append, List.filter_append]
    -- one of the two has no record of this rank
    by_cases hnone : (lk.batch answer q).filter (fun t => decide (t.rank = rank)) = []
    · rw [hnone, List.nil_append, List.append_nil]
    · obtain ⟨t, ht⟩ := List.exists_mem_of_ne_nil _ hnone
      obtain ⟨ht, hrank⟩ := List.mem_filter.mp ht
      have hnone' : (lk.batch answer q').filter (fun t => decide (t.rank = rank)) = [] := by
        apply List.filter_eq_nil_iff.mpr
        intro t' ht' hrank'
        exact hcases t ht t' ht' ((of_decide_eq_true hrank).trans (of_decide_eq_true hrank').symm)
      rw [hnone', List.nil_append, List.append_nil]

end DnsLookup

namespace DnsSys

open DnsLookup

/-- The targets `done_h` is called with when the queries in flight are answered in the order `qs`. -/
def targetsIn (answer : DnsQuery → DnsAnswer) (qs : List DnsQuery) (r : DnsSys) :
    Option (List DnsTarget) :=
  (dnsSystem.exec (fun _ _ => true) r
    (qs.map fun q => .answer q (answer q) fun _ => .refused)).bind fun end' =>
      (Trace.outs end'.2).findSome? fun o =>
        match o with
        | .done res => some res.targets
        | _ => none

/-- Answering the last queries of a lookup hands over what has been collected. -/
theorem targetsIn_eq {lk : DnsLookup} {qs order : List DnsQuery} (answer : DnsQuery → DnsAnswer)
    (h : lk.Waiting qs) (hsrv : .naptr ∉ qs) (horder : order.Perm qs) :
    targetsIn answer order { called := true, lookup := some lk, inFlight := qs } =
      some (sortTargets (lk.collected answer order)) := by
  induction order generalizing lk qs with
  | nil => exact absurd (List.nil_perm.mp horder) h.busy
  | cons q order ih =>
      have hq : q ∈ qs := horder.mem_iff.mp List.mem_cons_self
      have herase : order.Perm (qs.erase q) := by
        have := horder.erase q
        rwa [List.erase_cons_head] at this
      cases q with
      | naptr => exact absurd hq hsrv
      | srv slot transport =>
          have hstep : dnsSystem.step { called := true, lookup := some lk, inFlight := qs }
              (.answer (.srv slot transport) (answer (.srv slot transport)) fun _ => .refused) =
              some (({ called := true, lookup := some lk, inFlight := qs } : DnsSys).answer
                (.srv slot transport) (answer (.srv slot transport)) fun _ => .refused) := if_pos hq
          rcases h.srvHandler hq (by simp) transport (answer (.srv slot transport)) with
            ⟨lk', hhandler, hwaiting', hdomain, htargets⟩ | ⟨res, hhandler, -, hnone, htargets⟩
          · have hrest := ih hwaiting' (fun hmem => hsrv (List.mem_of_mem_erase hmem)) herase
            have hbatch : lk'.batch answer = lk.batch answer := by
              funext q
              cases q <;> simp [batch, hdomain]
            have hcollect : lk'.collected answer order =
                lk.collected answer (.srv slot transport :: order) := by
              rw [collected, collected, collect_cons, hbatch, htargets]
              rfl
            rw [← hcollect, ← hrest]
            simp only [targetsIn, List.map_cons, Machine.exec, if_true, hstep, DnsSys.answer, hhandler]
            cases dnsSystem.exec (fun _ _ => true)
                { called := true, lookup := some lk', inFlight := qs.erase (.srv slot transport) }
                (order.map fun q => .answer q (answer q) fun _ => .refused) with
            | none => rfl
            | some r => rfl
          · obtain rfl : order = [] := List.perm_nil.mp (hnone ▸ herase)
            have hcollect : lk.collected answer [.srv slot transport] =
                lk.targetsWith transport (answer (.srv slot transport)) := by
              rw [collected, collect_cons, collect_nil, List.take_take, min_self]
              rfl
            rw [hcollect, ← htargets]
            simp [targetsIn, Machine.exec, hstep, DnsSys.answer, hhandler, Trace.outs]

/-- **What the order of the answers changes.** When a lookup's SRV queries are out, any two orders of the
answers lead to the same list of targets if and only if the answers commute. -/
theorem srv_order_irrelevant_iff {r : DnsSys} {t : Trace DnsAct DnsOut} {lk : DnsLookup}
    (answer : DnsQuery → DnsAnswer) (hrun : dnsSystem.Run Machine.Always r t)
    (hlookup : r.lookup = some lk) (hsrv : .naptr ∉ r.inFlight) :
    (∀ order order' : List DnsQuery, order.Perm r.inFlight → order'.Perm r.inFlight →
        targetsIn answer order r = targetsIn answer order' r) ↔
      lk.Commuting answer r.inFlight := by
  have hstage := stage_of_run hrun
  generalize Trace.outs t = outs, t.length = n at hstage
  cases hstage with
  | idle => cases hlookup
  | refused => cases hlookup
  | completed => cases hlookup
  | waiting hwaiting =>
      obtain rfl := Option.some.inj hlookup
      refine Iff.trans ?_ stableSort_collect_eq_iff
      refine forall₄_congr fun order order' horder horder' => ?_
      rw [targetsIn_eq answer hwaiting hsrv horder, targetsIn_eq answer hwaiting hsrv horder']
      exact Option.some_inj

/-- The call, and an NAPTR answer that leads to an SRV query for UDP and one for TCP. -/
def twoServices : List DnsAct :=
  [.resolve (some "example.org".toList) true true true .udp 0 .launched,
    .answer .naptr
      { err := false
        ansl := some [.naptr (some "s".toList) (some "SIP+D2U".toList) "_sip._udp.example.org".toList,
          .naptr (some "s".toList) (some "SIP+D2T".toList) "_sip._tcp.example.org".toList] }
      fun _ => .launched]

/-- The two SRV answers name servers of different priorities. -/
theorem srv_order_irrelevant_two :
    ∃ (r : DnsSys) (answer : DnsQuery → DnsAnswer),
      (targetsIn answer [.srv 0 .udp, .srv 1 .tcp] r).isSome ∧
      targetsIn answer [.srv 0 .udp, .srv 1 .tcp] r = targetsIn answer [.srv 1 .tcp, .srv 0 .udp] r := by
  let answer : DnsQuery → DnsAnswer := fun q =>
    { err := false
      ansl := some [.srv "sip.example.org".toList 5060 (if q = .srv 0 .udp then 20 else 10) 0] }
  obtain ⟨r, t, hrun, hend⟩ := Machine.exists_run_of_exec (M := dnsSystem) (fun _ _ => true) rfl
    twoServices
    (fun r _ => decide (r.inFlight = [.srv 0 .udp, .srv 1 .tcp]) &&
      (targetsIn answer [.srv 0 .udp, .srv 1 .tcp] r).isSome &&
      r.lookup.any fun (lk : DnsLookup) => decide (lk.result.targets = []) &&
        decide ((lk.batch answer (.srv 0 .udp)).map DnsTarget.priority = [20]) &&
        decide ((lk.batch answer (.srv 1 .tcp)).map DnsTarget.priority = [10]))
    (by decide +kernel)
  simp only [Bool.and_eq_true, decide_eq_true_eq, Option.any_eq_true] at hend
  obtain ⟨⟨hqueries, hsome⟩, lk, hlookup, ⟨hempty, hudp⟩, htcp⟩ := hend
  have hlen (q : DnsQuery) (p : Nat) (h : (lk.batch answer q).map DnsTarget.priority = [p]) :
      (lk.batch answer q).length = 1 := by
    have := congrArg List.length h
    simpa using this
  have hpriority (q : DnsQuery) (p : Nat) (h : (lk.batch answer q).map DnsTarget.priority = [p]) :
      ∀ t ∈ lk.batch answer q, t.priority = p := by
    intro t ht
    exact List.mem_singleton.mp (h ▸ List.mem_map_of_mem ht)
  have hcommuting : lk.Commuting answer r.inFlight := by
    apply commuting_of_distinct
    · rw [hqueries, hempty]
      simp [hlen _ _ hudp, hlen _ _ htcp, maxTargets]
    · intro q hq q' hq' hne t ht t' ht' hrank
      have hsame : t.priority = t'.priority := congrArg (fun rank => (ofLex rank).1) hrank
      simp only [hqueries, List.mem_cons, List.not_mem_nil, or_false] at hq hq'
      rcases hq with rfl | rfl <;> rcases hq' with rfl | rfl
      · exact hne rfl
      · rw [hpriority _ _ hudp t ht, hpriority _ _ htcp t' ht'] at hsame
        cases hsame
      · rw [hpriority _ _ htcp t ht, hpriority _ _ hudp t' ht'] at hsame
        cases hsame
      · exact hne rfl
  refine ⟨r, answer, hsome, ?_⟩
  apply (srv_order_irrelevant_iff answer hrun.always hlookup (by simp [hqueries])).mpr hcommuting
  · rw [hqueries]
  · rw [hqueries]
    exact List.Perm.swap _ _ _

/-- Neither query finds an SRV record: whichever answer comes first puts its transport first. -/
theorem srv_order_shows :
    ¬ ∀ (r : DnsSys) (t : Trace DnsAct DnsOut) (answer : DnsQuery → DnsAnswer),
      dnsSystem.Run Machine.Always r t → .naptr ∉ r.inFlight →
      ∀ order order' : List DnsQuery, order.Perm r.inFlight → order'.Perm r.inFlight →
        targetsIn answer order r = targetsIn answer order' r := by
  intro h
  obtain ⟨r, t, hrun, hend⟩ := Machine.exists_run_of_exec (M := dnsSystem) (fun _ _ => true) rfl
    twoServices
    (fun r _ => decide (r.inFlight = [.srv 0 .udp, .srv 1 .tcp]) &&
      decide (targetsIn (fun _ => { err := false, ansl := some [] }) [.srv 0 .udp, .srv 1 .tcp] r ≠
        targetsIn (fun _ => { err := false, ansl := some [] }) [.srv 1 .tcp, .srv 0 .udp] r))
    (by decide +kernel)
  simp only [Bool.and_eq_true, decide_eq_true_eq] at hend
  obtain ⟨hqueries, hdiffer⟩ := hend
  refine hdiffer (h r t _ hrun.always (by simp [hqueries]) _ _ ?_ ?_)
  · rw [hqueries]
  · rw [hqueries]
    exact List.Perm.swap _ _ _

end DnsSys

end VoxSdk
