import VoxSdk.Dns

/-!
# A lookup completes once

While a lookup is there, `pending` counts the queries that wait for an answer and there is at least one of
them; the answer that takes it to zero calls the caller's handler and frees the lookup. The NAPTR query is
alone while it waits, so the queries its answer starts are the only ones then.
-/

namespace VoxSdk

open Reactive

/-- The result handed to the caller. -/
def DnsOut.isDone : DnsOut → Bool
  | .done _ => true
  | _ => false

/-- The target as it is stored. -/
def DnsTarget.fit (t : DnsTarget) : DnsTarget := { t with host := strNcpy 256 t.host }

namespace DnsLookup

variable {lk : DnsLookup} {qs : List DnsQuery}

/-- Adding targets fills the list up to its cap. -/
theorem foldl_addResult (lk : DnsLookup) (ts : List DnsTarget) (hcap : lk.result.targets.length ≤ maxTargets) :
    ts.foldl (fun lk t => lk.addResult t) lk =
      { lk with
        result := { lk.result with
          targets := (lk.result.targets ++ ts.map DnsTarget.fit).take maxTargets } } := by
  induction ts generalizing lk with
  | nil => simp [List.take_of_length_le hcap]
  | cons t ts ih =>
      simp only [List.foldl_cons]
      by_cases hfull : maxTargets ≤ lk.result.targets.length
      · have hsame : lk.addResult t = lk := if_pos hfull
        rw [hsame, ih lk hcap, List.take_append_of_le_length hfull, List.take_append_of_le_length hfull]
      · have hadd : lk.addResult t =
            { lk with result := { lk.result with targets := lk.result.targets ++ [t.fit] } } :=
          if_neg hfull
        rw [hadd, ih _ (by simp only [List.length_append, List.length_singleton]; omega)]
        simp

theorem srvAdds_ne_nil (domain : CStr) (transport : Transport) (ans : DnsAnswer) :
    srvAdds domain transport ans ≠ [] := by
  unfold srvAdds
  split
  · exact List.cons_ne_nil _ _
  · rename_i hne
    exact fun h => hne h

/-- A lookup with queries out. -/
structure Waiting (lk : DnsLookup) (qs : List DnsQuery) : Prop where
  pending : lk.pending = qs.length
  busy : qs ≠ []
  notDone : lk.done = false
  noErr : lk.result.err = false
  cap : lk.result.targets.length ≤ maxTargets
  alone : .naptr ∈ qs → qs = [.naptr] ∧ lk.srv = []

/-- What may be handed to the caller. -/
def Complete (res : DnsResult) : Prop :=
  res.err = false ∧ 1 ≤ res.targets.length ∧ res.targets.length ≤ maxTargets

theorem finish_of_targets (lk : DnsLookup) (hdone : lk.done = false) (herr : lk.result.err = false)
    (hcap : lk.result.targets.length ≤ maxTargets) (hne : lk.result.targets ≠ []) :
    ∃ res, lk.finish = (none, [.done res]) ∧ Complete res ∧
      res.targets = sortTargets lk.result.targets := by
  refine ⟨{ lk.result with targets := sortTargets lk.result.targets }, ?_, ⟨herr, ?_⟩, rfl⟩
  · simp [finish, hdone, hne]
  · have hlen : (sortTargets lk.result.targets).length = lk.result.targets.length :=
      (perm_stableSort _).length_eq
    simp only [hlen]
    exact ⟨List.length_pos_of_ne_nil hne, hcap⟩

/-- The targets after the records of an SRV answer have been added. -/
def targetsWith (lk : DnsLookup) (transport : Transport) (ans : DnsAnswer) : List DnsTarget :=
  (lk.result.targets ++ (srvAdds lk.domain transport ans).map DnsTarget.fit).take maxTargets

theorem targetsWith_ne_nil (lk : DnsLookup) (transport : Transport) (ans : DnsAnswer) :
    lk.targetsWith transport ans ≠ [] := by
  have hadds := srvAdds_ne_nil lk.domain transport ans
  simp [targetsWith, maxTargets, hadds]

/-- An SRV answer either leaves fewer queries out, or is the last and completes the lookup. -/
theorem Waiting.srvHandler (h : lk.Waiting qs) {q : DnsQuery} (hq : q ∈ qs) (hsrv : q ≠ .naptr)
    (transport : Transport) (ans : DnsAnswer) :
    (∃ lk', lk.srvHandler transport ans = (some lk', []) ∧ lk'.Waiting (qs.erase q) ∧
        lk'.domain = lk.domain ∧ lk'.result.targets = lk.targetsWith transport ans) ∨
      (∃ res, lk.srvHandler transport ans = (none, [.done res]) ∧ Complete res ∧ qs.erase q = [] ∧
        res.targets = sortTargets (lk.targetsWith transport ans)) := by
  have hadd := foldl_addResult lk (srvAdds lk.domain transport ans) h.cap
  have hcap : (lk.targetsWith transport ans).length ≤ maxTargets := List.length_take_le _ _
  have hne := lk.targetsWith_ne_nil transport ans
  rw [← targetsWith] at hadd
  have hlen : ((qs.erase q).length : Int) = lk.pending - 1 := by
    have hpos := List.length_pos_of_mem hq
    rw [List.length_erase_of_mem hq, h.pending]
    omega
  simp only [DnsLookup.srvHandler, hadd]
  by_cases hlast : lk.pending - 1 = 0
  · right
    simp only [hlast, if_true]
    obtain ⟨res, hfinish, hcomplete, htargets⟩ := finish_of_targets
      { lk with
        result := { lk.result with targets := lk.targetsWith transport ans }, pending := 0 }
      h.notDone h.noErr hcap hne
    refine ⟨res, hfinish, hcomplete, ?_, htargets⟩
    apply List.length_eq_zero_iff.mp
    omega
  · left
    simp only [hlast, if_false]
    refine ⟨_, rfl, ⟨hlen.symm, ?_, h.notDone, h.noErr, hcap, fun hmem => ?_⟩, rfl, rfl⟩
    · rintro hnil
      rw [hnil] at hlen
      exact hlast hlen.symm
    · have hqs := (h.alone (List.mem_of_mem_erase hmem)).1
      rw [hqs] at hq
      exact absurd (List.mem_singleton.mp hq) hsrv

theorem length_launchedFrom (launch : Nat → DnsLaunch) (i : Nat) (slots : List SrvSlot) :
    (launchedFrom launch i slots).length ≤ slots.length := by
  induction slots generalizing i with
  | nil => exact Nat.le_refl _
  | cons slot slots ih =>
      unfold launchedFrom
      have hrest := ih (i + 1)
      split
      · simp only [List.length_cons]
        omega
      · simp only [List.length_cons]
        omega

theorem naptr_notMem_launchedFrom (launch : Nat → DnsLaunch) (i : Nat) (slots : List SrvSlot) :
    .naptr ∉ (launchedFrom launch i slots).map Prod.fst := by
  induction slots generalizing i with
  | nil => exact List.not_mem_nil
  | cons slot slots ih =>
      unfold launchedFrom
      split
      · simp only [List.map_cons, List.mem_cons, not_or]
        exact ⟨by simp, ih (i + 1)⟩
      · exact ih (i + 1)

/-- What the NAPTR answer's own part leaves: the slots to query, at most `MAX_SRV`. -/
theorem naptrHandler_eq (lk : DnsLookup) (ans : DnsAnswer) (launch : Nat → DnsLaunch) (hsrv : lk.srv = []) :
    ∃ slots, slots.length ≤ maxSrv ∧ lk.naptrHandler ans launch =
      ({ lk with srv := slots, pending := lk.pending - 1 } : DnsLookup).startSrvQueries launch := by
  unfold naptrHandler
  simp only [hsrv, List.length_nil, List.nil_append]
  by_cases hfound : (naptrSlots ans).take (maxSrv - 0) = []
  · refine ⟨[lk.fallbackSlot], by simp [maxSrv], ?_⟩
    rw [if_neg (not_not.mpr hfound), if_pos (by decide)]
  · refine ⟨(naptrSlots ans).take (maxSrv - 0), List.length_take_le _ _, ?_⟩
    rw [if_pos hfound]

/-- The NAPTR answer leaves SRV queries out, or completes the lookup with the domain itself. -/
theorem Waiting.naptrHandler (h : lk.Waiting [.naptr]) (ans : DnsAnswer) (launch : Nat → DnsLaunch) :
    (∃ lk' qs' outs, lk.naptrHandler ans launch = (some lk', qs', outs) ∧ lk'.Waiting qs' ∧
        .naptr ∉ qs' ∧ qs'.length ≤ maxSrv ∧ (∀ o ∈ outs, ∃ q name, o = .query q name) ∧ outs ≠ [] ∧
        lk'.result.targets = lk.result.targets) ∨
      (∃ res, lk.naptrHandler ans launch = (none, [], [.done res]) ∧ Complete res ∧
        res.targets = sortTargets ((lk.result.targets ++
          [(bareTarget lk.transportHint lk.domain lk.barePort).fit]).take maxTargets)) := by
  obtain ⟨hpending, -, hnotDone, hnoErr, hcap, halone⟩ := h
  obtain ⟨slots, hslots, hstart⟩ := naptrHandler_eq lk ans launch
    (halone (List.mem_singleton_self _)).2
  rw [hstart]
  have hzero : lk.pending - 1 = 0 := by simp [hpending]
  simp only [startSrvQueries, hzero, zero_add]
  by_cases hnone : launchedFrom launch 0 slots = []
  · right
    simp only [hnone, if_true, List.length_nil, Nat.cast_zero]
    have hadd := foldl_addResult { lk with srv := slots, pending := 0 }
      [bareTarget lk.transportHint lk.domain lk.barePort] hcap
    simp only [List.foldl_cons, List.foldl_nil] at hadd
    have hbare : ({ lk with srv := slots, pending := 0 } : DnsLookup).barePort = lk.barePort := rfl
    rw [hbare, hadd, if_pos rfl]
    obtain ⟨res, hfinish, hcomplete, htargets⟩ := finish_of_targets
      { lk with
        srv := slots
        pending := 0
        result := { lk.result with
          targets := (lk.result.targets ++
            [bareTarget lk.transportHint lk.domain lk.barePort].map DnsTarget.fit).take maxTargets } }
      hnotDone hnoErr (List.length_take_le _ _) (by simp [maxTargets])
    rw [hfinish]
    exact ⟨res, rfl, hcomplete, htargets⟩
  · left
    simp only [hnone, if_false]
    refine ⟨_, _, _, rfl, ⟨by simp, by simpa using hnone, hnotDone, hnoErr, hcap, fun hmem => ?_⟩, ?_, ?_, ?_,
      ?_, rfl⟩
    · exact absurd hmem (naptr_notMem_launchedFrom launch 0 slots)
    · exact naptr_notMem_launchedFrom launch 0 slots
    · rw [List.length_map]
      exact (length_launchedFrom launch 0 slots).trans hslots
    · intro o ho
      obtain ⟨p, -, rfl⟩ := List.mem_map.mp ho
      exact ⟨p.1, p.2, rfl⟩
    · exact fun hnil => hnone (List.map_eq_nil_iff.mp hnil)

end DnsLookup

namespace DnsSys

open DnsLookup

/-- How far a call has come, what has been put out, and how many steps it took: the NAPTR query is out
after the first, and an answer to it is followed by at most `MAX_SRV` more. -/
inductive Stage : DnsSys → List DnsOut → Nat → Prop where
  | idle : Stage .idle [] 0
  | refused : Stage { called := true, lookup := none, inFlight := [] } [.returned false] 1
  | waiting {lk : DnsLookup} {qs : List DnsQuery} {outs : List DnsOut} {n : Nat} :
      lk.Waiting qs → .returned true ∈ outs →
      (∀ o ∈ outs, o = .returned true ∨ ∃ q name, o = .query q name) →
      n + qs.length ≤ maxSrv + 2 → (.naptr ∈ qs → n = 1) →
      Stage { called := true, lookup := some lk, inFlight := qs } outs n
  | completed {outs : List DnsOut} {res : DnsResult} {n : Nat} :
      Complete res → .returned true ∈ outs → outs.filter DnsOut.isDone = [.done res] →
      (∀ o ∈ outs, o = .returned true ∨ (∃ q name, o = .query q name) ∨ o = .done res) →
      n ≤ maxSrv + 2 →
      Stage { called := true, lookup := none, inFlight := [] } outs n

theorem stage_resolve (domain : Option CStr) (hasHandler dnsc mem : Bool) (transportHint : Transport)
    (portHint : Nat) (launch : DnsLaunch) :
    Stage (resolve domain hasHandler dnsc mem transportHint portHint launch).1
      (resolve domain hasHandler dnsc mem transportHint portHint launch).2 1 := by
  cases domain with
  | none => exact .refused
  | some domain =>
      simp only [resolve]
      split
      · exact .refused
      · split
        · exact .refused
        · split
          · exact .refused
          · split
            · have hcomplete : Complete
                  { targets := [DnsTarget.fit (bareTarget transportHint domain portHint)], err := false } :=
                ⟨rfl, by simp, by simp [maxTargets]⟩
              exact .completed hcomplete (by simp) rfl (by simp [addResult, maxTargets, DnsTarget.fit])
                (by simp)
            · split
              · refine .waiting ⟨rfl, List.cons_ne_nil _ _, rfl, rfl, by simp, fun _ => ⟨rfl, rfl⟩⟩
                  ?_ ?_ ?_ fun _ => rfl
                all_goals simp
              · exact .refused

/-- An answer is taken while the call waits, and leaves it waiting or completes it. -/
theorem Stage.answer {s : DnsSys} {outs : List DnsOut} {n : Nat} (h : Stage s outs n) {q : DnsQuery}
    (hq : q ∈ s.inFlight) (ans : DnsAnswer) (launch : Nat → DnsLaunch) :
    Stage (s.answer q ans launch).1 (outs ++ (s.answer q ans launch).2) (n + 1) := by
  cases h with
  | idle => cases hq
  | refused => cases hq
  | completed => cases hq
  | @waiting lk qs _ n hwaiting hreturned houts hsteps hfirst =>
      have hnoDone : outs.filter DnsOut.isDone = [] := by
        apply List.filter_eq_nil_iff.mpr
        intro o ho
        rcases houts o ho with rfl | ⟨q', name, rfl⟩ <;> simp [DnsOut.isDone]
      have hlater (os : List DnsOut) : .returned true ∈ outs ++ os := List.mem_append_left _ hreturned
      -- the last answer, whichever it is
      have hlast {res : DnsResult} (hcomplete : Complete res) :
          Stage { called := true, lookup := none, inFlight := [] } (outs ++ [.done res]) (n + 1) := by
        have hpos : 0 < qs.length := List.length_pos_of_mem hq
        refine .completed hcomplete (hlater _) ?_ ?_ (by omega)
        · rw [List.filter_append, hnoDone]
          rfl
        · intro o ho
          rcases List.mem_append.mp ho with hold | hnew
          · rcases houts o hold with h | h
            · exact .inl h
            · exact .inr (.inl h)
          · exact .inr (.inr (List.mem_singleton.mp hnew))
      cases q with
      | naptr =>
          obtain ⟨rfl, -⟩ := hwaiting.alone hq
          simp only [DnsSys.answer]
          rcases hwaiting.naptrHandler ans launch with
            ⟨lk', qs', os, hhandler, hwaiting', hnaptr, hcount, hos, -⟩ | ⟨res, hhandler, hcomplete, -⟩
          · rw [hhandler]
            refine .waiting (by simpa using hwaiting') (hlater _) (fun o ho => ?_) ?_ ?_
            · rcases List.mem_append.mp ho with hold | hnew
              · exact houts o hold
              · exact .inr (hos o hnew)
            · have hone := hfirst hq
              simp only [List.erase_cons_head, List.nil_append]
              omega
            · exact fun hmem => absurd (by simpa using hmem) hnaptr
          · rw [hhandler]
            simpa using hlast hcomplete
      | srv slot transport =>
          simp only [DnsSys.answer]
          rcases hwaiting.srvHandler hq (by simp) transport ans with
            ⟨lk', hhandler, hwaiting', -⟩ | ⟨res, hhandler, hcomplete, hnone, -⟩
          · rw [hhandler, List.append_nil]
            refine .waiting hwaiting' hreturned houts ?_ fun hmem => ?_
            · have hpos : 0 < qs.length := List.length_pos_of_mem hq
              have hless : n + 1 + (qs.length - 1) ≤ maxSrv + 2 := by omega
              rwa [List.length_erase_of_mem hq]
            · have hqs := (hwaiting.alone (List.mem_of_mem_erase hmem)).1
              rw [hqs] at hq
              cases List.mem_singleton.mp hq
          · rw [hhandler, hnone]
            exact hlast hcomplete

theorem stage_of_run {s : DnsSys} {t : Trace DnsAct DnsOut}
    (hrun : dnsSystem.Run Machine.Always s t) : Stage s t.outs t.length := by
  refine hrun.invariant (I := fun s t => Stage s (Trace.outs t) t.length) ?_ ?_
  · rintro _ rfl
    exact .idle
  · intro s t act s' os hstage _ hstep
    rw [Trace.outs_append, Trace.outs_singleton, List.length_append, List.length_singleton]
    cases act with
    | resolve domain hasHandler dnsc mem transportHint portHint launch =>
        simp only [dnsSystem] at hstep
        split at hstep
        · cases hstep
        · rename_i hidle
          generalize Trace.outs t = outs, t.length = n at hstage ⊢
          cases hstage with
          | idle =>
              have hsys := Option.some.inj hstep
              have hnew := stage_resolve domain hasHandler dnsc mem transportHint portHint launch
              rw [hsys] at hnew
              simpa using hnew
          | refused => exact absurd rfl hidle
          | waiting => exact absurd rfl hidle
          | completed => exact absurd rfl hidle
    | answer q ans launch =>
        obtain ⟨hq, hsys⟩ := Option.ite_none_right_eq_some.mp hstep
        have hnew := hstage.answer hq ans launch
        rw [Option.some.inj hsys] at hnew
        exact hnew

/-- **The lookup completes once.** A call that returns an error never calls `done_h`. A call that returns
0 has called it once when every query it launched has been answered, and not before; the result has
between 1 and `MAX_TARGETS` targets. No handler runs after it, the freed lookup is never touched, and there
are at most the NAPTR answer and `MAX_SRV` others to wait for. -/
theorem dns_completes_once {s : DnsSys} {t : Trace DnsAct DnsOut}
    (hrun : dnsSystem.Run Machine.Always s t) :
    (s.called = true → (.returned false ∈ t.outs ↔ .returned true ∉ t.outs)) ∧
    (.returned false ∈ t.outs → s.inFlight = [] ∧ ∀ res, .done res ∉ t.outs) ∧
    (.returned true ∈ t.outs →
      t.outs.countP DnsOut.isDone = if s.inFlight = [] then 1 else 0) ∧
    (∀ res, .done res ∈ t.outs →
      res.err = false ∧ 1 ≤ res.targets.length ∧ res.targets.length ≤ maxTargets) ∧
    (∀ before p after, t = before ++ p :: after → (∃ res, .done res ∈ p.2) → after = []) ∧
    .useAfterFree ∉ t.outs ∧ t.length ≤ maxSrv + 2 := by
  have hstage := stage_of_run hrun
  have hafter : ∀ before p after, t = before ++ p :: after → (∃ res, .done res ∈ p.2) → after = [] := by
    rintro before p after rfl ⟨res, hres⟩
    obtain ⟨r, r', hr, -, hstep, hsteps⟩ := hrun.at_step
    have hmem : DnsOut.done res ∈ Trace.outs (before ++ [(p.1, p.2)]) := by
      rw [Trace.outs_append, Trace.outs_singleton]
      exact List.mem_append_right _ hres
    have hr' := stage_of_run (hr.step trivial hstep)
    -- once it is complete the call is over, and nothing is out
    have hover : r' = { called := true, lookup := none, inFlight := [] } := by
      generalize Trace.outs (before ++ [(p.1, p.2)]) = outs at hr' hmem
      generalize List.length (before ++ [(p.1, p.2)]) = n at hr'
      cases hr' with
      | idle => cases hmem
      | refused => simp at hmem
      | waiting _ _ houts => simpa using houts _ hmem
      | completed => rfl
    have hstuck (act : DnsAct) : dnsSystem.step r' act = none := by
      rw [hover]
      cases act <;> simp [dnsSystem]
    exact (hsteps.of_stuck hstuck).1
  generalize t.outs = outs, t.length = n at hstage ⊢
  cases hstage with
  | idle => exact ⟨by simp [idle], by simp, by simp, by simp, hafter, by simp, by simp⟩
  | refused => exact ⟨by simp, by simp, by simp, by simp, hafter, by simp, by simp⟩
  | waiting hwaiting hreturned houts hsteps =>
      have hnot (o : DnsOut) (hne : o ≠ .returned true) (hquery : ∀ q name, o ≠ .query q name) :
          o ∉ outs := by
        intro ho
        rcases houts o ho with h | ⟨q, name, h⟩
        · exact hne h
        · exact hquery q name h
      have hnoDone : outs.countP DnsOut.isDone = 0 := by
        apply List.countP_eq_zero.mpr
        intro o ho
        rcases houts o ho with rfl | ⟨q, name, rfl⟩ <;> simp [DnsOut.isDone]
      have hrefused := hnot (.returned false) (by simp) (by simp)
      refine ⟨fun _ => iff_of_false hrefused (not_not.mpr hreturned), fun h => absurd h hrefused,
        fun _ => ?_, fun res h => absurd h (hnot _ (by simp) (by simp)), hafter,
        hnot _ (by simp) (by simp), by omega⟩
      rw [hnoDone, if_neg hwaiting.busy]
  | @completed _ res _ hcomplete hreturned hfilter houts hsteps =>
      have hnot (o : DnsOut) (hne : o ≠ .returned true) (hquery : ∀ q name, o ≠ .query q name)
          (hdone : ∀ res, o ≠ .done res) : o ∉ outs := by
        intro ho
        rcases houts o ho with h | ⟨q, name, h⟩ | h
        · exact hne h
        · exact hquery q name h
        · exact hdone res h
      have hrefused := hnot (.returned false) (by simp) (by simp) (by simp)
      refine ⟨fun _ => iff_of_false hrefused (not_not.mpr hreturned), fun h => absurd h hrefused,
        fun _ => ?_, fun res' hres' => ?_, hafter, hnot _ (by simp) (by simp) (by simp), hsteps⟩
      · rw [List.countP_eq_length_filter, hfilter]
        rfl
      · have hsame : DnsOut.done res' ∈ outs.filter DnsOut.isDone := List.mem_filter.mpr ⟨hres', rfl⟩
        rw [hfilter] at hsame
        cases List.mem_singleton.mp hsame
        exact hcomplete

/-- NAPTR with a UDP and a TCP record, one of the two SRV queries refused by the client, the other
answered with an error. -/
theorem dns_completes_once_fallback :
    ∃ (s : DnsSys) (t : Trace DnsAct DnsOut), dnsSystem.Run Machine.Always s t ∧
      t.outs.countP DnsOut.isDone = 1 ∧ t.length = 3 := by
  obtain ⟨s, t, hrun, hend⟩ := Machine.exists_run_of_exec (M := dnsSystem) (fun _ _ => true) rfl
    [.resolve (some "example.org".toList) true true true .udp 0 .launched,
      .answer .naptr
        { err := false
          ansl := some [.naptr (some "s".toList) (some "SIP+D2U".toList) "_sip._udp.example.org".toList,
            .naptr (some "s".toList) (some "SIP+D2T".toList) "_sip._tcp.example.org".toList] }
        (fun i => if i = 0 then .refused else .launched),
      .answer (.srv 1 .tcp) { err := true, ansl := none } (fun _ => .launched)]
    (fun s t => s.inFlight.isEmpty && decide (.returned true ∈ Trace.outs t) && decide (t.length = 3))
    (by decide +kernel)
  simp only [Bool.and_eq_true, decide_eq_true_eq, List.isEmpty_iff] at hend
  obtain ⟨⟨hnone, hreturned⟩, hlen⟩ := hend
  refine ⟨s, t, hrun.always, ?_, hlen⟩
  rw [(dns_completes_once hrun.always).2.2.1 hreturned, if_pos hnone]

end DnsSys

end VoxSdk
