import VoxSdk.Proof.DnsCompletion

/-!
# Published targets and the domain itself

A query that finds no SRV record makes the domain itself a target, with priority 0 and weight 0, and the sort
does not know that nobody published it. The history of a run keeps every target in the order it arrives, with
whether an SRV record published it.
-/

namespace VoxSdk

open Reactive

/-- A target, as it is stored, and whether an SRV record published it. -/
structure Arrival where
  target : DnsTarget
  published : Bool
  deriving DecidableEq

namespace DnsLookup

/-- What an SRV answer brings. -/
def srvArrivals (transport : Transport) (ans : DnsAnswer) (lk : DnsLookup) : List Arrival :=
  if srvTargets transport ans = [] then
    [⟨(bareTarget transport lk.domain (defaultPortForTransport transport)).fit, false⟩]
  else (srvTargets transport ans).map fun t => ⟨t.fit, true⟩

/-- What an NAPTR answer brings: the domain itself if no SRV query is sent. -/
def naptrArrivals (outs : List DnsOut) (lk : DnsLookup) : List Arrival :=
  if outs.any fun o => !o.isDone then []
  else [⟨(bareTarget lk.transportHint lk.domain lk.barePort).fit, false⟩]

end DnsLookup

namespace DnsSys

/-- What arrives in a step. A port that is given makes the domain itself the only target. -/
def arrives (s : DnsSys) (act : DnsAct) (outs : List DnsOut) : List Arrival :=
  match s.lookup, act with
  | some lk, .answer (.srv _ transport) ans _ => lk.srvArrivals transport ans
  | some lk, .answer .naptr _ _ => lk.naptrArrivals outs
  | none, .resolve (some domain) _ _ _ hint port _ =>
      if 0 < port ∧ .returned true ∈ outs then [⟨(DnsLookup.bareTarget hint domain port).fit, false⟩] else []
  | _, _ => []

end DnsSys

/-- One lookup with the targets that have arrived, oldest first. -/
def recordedDns : Machine (DnsSys × List Arrival) DnsAct DnsOut :=
  dnsSystem.withHistory [] fun s act outs arrivals => arrivals ++ s.arrives act outs

/-- The list for `done_h`, of the targets there was room for. -/
def handedOver (arrivals : List Arrival) : List Arrival :=
  stableSort (fun a => a.target.rank) (arrivals.take maxTargets)

/-- No target that nobody published precedes one that was. -/
def PublishedFirst (targets : List Arrival) : Prop :=
  targets.Pairwise fun a b => a.published = false → b.published = false

/-- Of two targets that arrive in this order, a published one has priority 0; the second has a weight, too. -/
def Outranks (a b : Arrival) : Prop :=
  (a.published = false → b.published = true → b.target.priority = 0 ∧ 0 < b.target.weight) ∧
    (a.published = true → b.published = false → a.target.priority = 0)

instance (targets : List Arrival) : Decidable (PublishedFirst targets) :=
  inferInstanceAs (Decidable (List.Pairwise _ _))

instance (a b : Arrival) : Decidable (Outranks a b) := inferInstanceAs (Decidable (_ ∧ _))

/-! ### The sort -/

/-- With priority 0 and weight 0 for what nobody published, it is the others that decide. -/
theorem publishedFirst_handedOver_iff {arrivals : List Arrival}
    (hbare : ∀ a ∈ arrivals, a.published = false → a.target.priority = 0 ∧ a.target.weight = 0) :
    PublishedFirst (handedOver arrivals) ↔ (arrivals.take maxTargets).Pairwise Outranks := by
  rw [PublishedFirst, handedOver, pairwise_stableSort_iff]
  apply List.Pairwise.iff_of_mem
  intro a b ha hb
  have hbareA := hbare a (List.mem_of_mem_take ha)
  have hbareB := hbare b (List.mem_of_mem_take hb)
  rw [← not_le, DnsTarget.rank_le_iff, Outranks]
  cases hpa : a.published <;> cases hpb : b.published
  · simp
  · obtain ⟨hpri, hweight⟩ := hbareA hpa
    simp [hpri, hweight]
    omega
  · obtain ⟨hpri, hweight⟩ := hbareB hpb
    simp [hpri, hweight]
  · simp

/-! ### The runs -/

namespace DnsLookup

variable {lk : DnsLookup}

theorem map_srvArrivals (transport : Transport) (ans : DnsAnswer) :
    (lk.srvArrivals transport ans).map Arrival.target = (srvAdds lk.domain transport ans).map DnsTarget.fit := by
  unfold srvArrivals srvAdds
  cases srvTargets transport ans with
  | nil => rfl
  | cons t ts => simp

theorem bare_srvArrivals (transport : Transport) (ans : DnsAnswer) {a : Arrival}
    (h : a ∈ lk.srvArrivals transport ans) (hbare : a.published = false) :
    a.target.priority = 0 ∧ a.target.weight = 0 := by
  unfold srvArrivals at h
  split at h
  · obtain rfl := List.mem_singleton.mp h
    exact ⟨rfl, rfl⟩
  · obtain ⟨t, -, rfl⟩ := List.mem_map.mp h
    cases hbare

theorem bare_naptrArrivals (outs : List DnsOut) {a : Arrival} (h : a ∈ lk.naptrArrivals outs) :
    a.target.priority = 0 ∧ a.target.weight = 0 := by
  unfold naptrArrivals at h
  split at h
  · cases h
  · obtain rfl := List.mem_singleton.mp h
    exact ⟨rfl, rfl⟩

end DnsLookup

namespace DnsSys

open DnsLookup

/-- The targets of the history that there was room for. -/
def stored (arrivals : List Arrival) : List DnsTarget := (arrivals.map Arrival.target).take maxTargets

theorem map_handedOver (arrivals : List Arrival) :
    (handedOver arrivals).map Arrival.target = sortTargets (stored arrivals) := by
  rw [handedOver, map_stableSort, stored, List.map_take]
  rfl

theorem stored_append (arrivals more : List Arrival) :
    stored (arrivals ++ more) = (stored arrivals ++ more.map Arrival.target).take maxTargets := by
  rw [stored, stored, List.map_append]
  generalize arrivals.map Arrival.target = old
  have hright : (old.take maxTargets ++ more.map Arrival.target).take maxTargets =
      old.take maxTargets ++ (more.map Arrival.target).take (maxTargets - (old.take maxTargets).length) := by
    rw [List.take_append, List.take_take, min_self]
  rw [hright, List.take_append, List.length_take]
  congr 2
  omega

/-- The list of the lookup, and the one handed over, are those of the history. -/
structure Recorded (s : DnsSys) (arrivals : List Arrival) (outs : List DnsOut) : Prop where
  fresh : s.called = false → arrivals = []
  waiting : ∀ lk, s.lookup = some lk → lk.result.targets = stored arrivals
  handed : ∀ res, .done res ∈ outs → res.targets = sortTargets (stored arrivals)
  bare : ∀ a ∈ arrivals, a.published = false → a.target.priority = 0 ∧ a.target.weight = 0

variable {s : DnsSys} {arrivals : List Arrival} {outs : List DnsOut} {n : Nat}

theorem recorded_idle : Recorded idle [] [] :=
  ⟨fun _ => rfl, by simp [idle], by simp, by simp⟩

theorem recorded_resolve (domain : Option CStr) (hasHandler dnsc mem : Bool) (hint : Transport) (port : Nat)
    (launch : DnsLaunch) :
    Recorded (resolve domain hasHandler dnsc mem hint port launch).1
      (idle.arrives (.resolve domain hasHandler dnsc mem hint port launch)
        (resolve domain hasHandler dnsc mem hint port launch).2)
      (resolve domain hasHandler dnsc mem hint port launch).2 := by
  have hrefused : Recorded { called := true, lookup := none, inFlight := [] } [] [.returned false] :=
    ⟨by simp, by simp, fun res h => by simp at h, by simp⟩
  cases domain with
  | none => exact hrefused
  | some domain =>
      by_cases hable : (hasHandler && dnsc && mem) = true
      · simp only [Bool.and_eq_true] at hable
        obtain ⟨⟨rfl, rfl⟩, rfl⟩ := hable
        by_cases hport : 0 < port
        · simp only [resolve, arrives, idle, hport, Bool.not_true, Bool.false_eq_true, if_false, if_true, true_and]
          refine ⟨by simp, by simp, fun res h => ?_, fun a ha _ => ?_⟩
          · rcases List.mem_cons.mp h with heq | hmem
            · obtain rfl := DnsOut.done.inj heq
              rfl
            · cases List.mem_singleton.mp hmem
          · obtain rfl := List.mem_singleton.mp ha
            exact ⟨rfl, rfl⟩
        · simp only [resolve, arrives, idle, hport, Bool.not_true, Bool.false_eq_true, if_false, false_and]
          by_cases hlaunch : launch = .launched
          · simp only [hlaunch, if_true]
            refine ⟨fun _ => rfl, fun lk h => ?_, fun res h => by simp at h, by simp⟩
            obtain rfl := Option.some.inj h
            rfl
          · simpa only [hlaunch, if_false] using hrefused
      · cases hasHandler <;> cases dnsc <;> cases mem <;>
          first
          | exact absurd rfl hable
          | simpa [resolve, arrives, idle] using hrefused

/-- An answer is recorded. -/
theorem Recorded.answer (h : Recorded s arrivals outs) (hstage : Stage s outs n) {q : DnsQuery}
    (hq : q ∈ s.inFlight) (ans : DnsAnswer) (launch : Nat → DnsLaunch) :
    Recorded (s.answer q ans launch).1
      (arrivals ++ s.arrives (.answer q ans launch) (s.answer q ans launch).2)
      (outs ++ (s.answer q ans launch).2) := by
  cases hstage with
  | idle => cases hq
  | refused => cases hq
  | completed => cases hq
  | @waiting lk qs _ n hwaiting hreturned houts hsteps hfirst =>
      have htargets := h.waiting lk rfl
      have hnot (res : DnsResult) : .done res ∉ outs := by
        intro hmem
        rcases houts _ hmem with heq | ⟨q', name, heq⟩ <;> cases heq
      cases q with
      | naptr =>
          obtain ⟨rfl, -⟩ := hwaiting.alone hq
          rcases hwaiting.naptrHandler ans launch with
            ⟨lk', qs', os, hhandler, -, -, -, hos, hne, hsame⟩ | ⟨res, hhandler, -, hres⟩
          · have hnone : lk.naptrArrivals os = [] := by
              obtain ⟨o, ho⟩ := List.exists_mem_of_ne_nil os hne
              obtain ⟨q', name, rfl⟩ := hos o ho
              exact if_pos (List.any_eq_true.mpr ⟨_, ho, rfl⟩)
            simp only [DnsSys.answer, hhandler, arrives, hnone, List.append_nil]
            refine ⟨by simp, fun lk'' heq => ?_, fun res hmem => ?_, h.bare⟩
            · obtain rfl := Option.some.inj heq
              rw [hsame, htargets]
            · rcases List.mem_append.mp hmem with hold | hnew
              · exact absurd hold (hnot res)
              · obtain ⟨q', name, heq⟩ := hos _ hnew
                cases heq
          · simp only [DnsSys.answer, hhandler, arrives]
            refine ⟨by simp, by simp, fun res' hmem => ?_, ?_⟩
            · rcases List.mem_append.mp hmem with hold | hnew
              · exact absurd hold (hnot res')
              · obtain rfl := DnsOut.done.inj (List.mem_singleton.mp hnew)
                rw [hres, htargets, stored_append]
                rfl
            · intro a ha hbare
              rcases List.mem_append.mp ha with hold | hnew
              · exact h.bare a hold hbare
              · exact bare_naptrArrivals _ hnew
      | srv slot transport =>
          have hbare : ∀ a ∈ arrivals ++ lk.srvArrivals transport ans, a.published = false →
              a.target.priority = 0 ∧ a.target.weight = 0 := by
            intro a ha hbare
            rcases List.mem_append.mp ha with hold | hnew
            · exact h.bare a hold hbare
            · exact bare_srvArrivals transport ans hnew hbare
          have hwith : lk.targetsWith transport ans = stored (arrivals ++ lk.srvArrivals transport ans) := by
            rw [stored_append, map_srvArrivals, ← htargets]
            rfl
          rcases hwaiting.srvHandler hq (by simp) transport ans with
            ⟨lk', hhandler, -, -, hlk'⟩ | ⟨res, hhandler, -, -, hres⟩
          · simp only [DnsSys.answer, hhandler, arrives, List.append_nil]
            refine ⟨by simp, fun lk'' heq => ?_, fun res hmem => absurd hmem (hnot res), hbare⟩
            obtain rfl := Option.some.inj heq
            exact hlk'.trans hwith
          · simp only [DnsSys.answer, hhandler, arrives]
            refine ⟨by simp, by simp, fun res' hmem => ?_, hbare⟩
            rcases List.mem_append.mp hmem with hold | hnew
            · exact absurd hold (hnot res')
            · obtain rfl := DnsOut.done.inj (List.mem_singleton.mp hnew)
              rw [hres, hwith]

theorem Stage.idle_of_fresh (h : Stage s outs n) (hcalled : s.called = false) :
    s = DnsSys.idle ∧ outs = [] := by
  cases h with
  | idle => exact ⟨rfl, rfl⟩
  | refused => cases hcalled
  | waiting => cases hcalled
  | completed => cases hcalled

theorem recorded_of_run {p : DnsSys × List Arrival} {t : Trace DnsAct DnsOut}
    (hrun : recordedDns.Run Machine.Always p t) : Recorded p.1 p.2 t.outs := by
  induction hrun with
  | start h =>
      obtain ⟨hinit, hstart⟩ := h
      rw [hinit, hstart]
      exact recorded_idle
  | @step p p' t act os hprev _ hs ih =>
      obtain ⟨hstep, hnext⟩ := Machine.withHistory_step.mp hs
      have hstage := stage_of_run hprev.of_withHistory
      rw [hnext, Trace.outs_append, Trace.outs_singleton]
      cases act with
      | resolve domain hasHandler dnsc mem hint port launch =>
          obtain ⟨hcalled, hsys⟩ := Option.ite_none_left_eq_some.mp hstep
          have hfresh := ih.fresh (Bool.eq_false_iff.mpr hcalled)
          obtain ⟨hidle, houts⟩ := hstage.idle_of_fresh (Bool.eq_false_iff.mpr hcalled)
          have hresolve := recorded_resolve domain hasHandler dnsc mem hint port launch
          rw [hfresh, hidle, houts, List.nil_append, List.nil_append]
          rwa [Option.some.inj hsys] at hresolve
      | answer q ans launch =>
          obtain ⟨hq, hsys⟩ := Option.ite_none_right_eq_some.mp hstep
          have hanswer := ih.answer hstage hq ans launch
          rwa [Option.some.inj hsys] at hanswer

/-- **Published targets come first in the list handed over exactly if every published one outranks the
fallbacks that arrived with it**: behind a fallback it needs priority 0 and a weight, ahead of one priority 0. -/
theorem published_first_iff {p : DnsSys × List Arrival} {t : Trace DnsAct DnsOut}
    (hrun : recordedDns.Run Machine.Always p t) {res : DnsResult} (hdone : .done res ∈ t.outs) :
    res.targets = (handedOver p.2).map Arrival.target ∧
      (PublishedFirst (handedOver p.2) ↔ (p.2.take maxTargets).Pairwise Outranks) := by
  have hrecorded := recorded_of_run hrun
  refine ⟨?_, publishedFirst_handedOver_iff hrecorded.bare⟩
  rw [map_handedOver]
  exact hrecorded.handed res hdone

/-- The call, and an NAPTR answer that leads to an SRV query for UDP and one for TCP; then nothing for UDP and a
server of the given priority for TCP. -/
def udpEmpty (priority : Nat) : List DnsAct :=
  [.resolve (some "example.org".toList) true true true .udp 0 .launched,
    .answer .naptr
      { err := false
        ansl := some [.naptr (some "s".toList) (some "SIP+D2U".toList) "_sip._udp.example.org".toList,
          .naptr (some "s".toList) (some "SIP+D2T".toList) "_sip._tcp.example.org".toList] }
      fun _ => .launched,
    .answer (.srv 0 .udp) { err := false, ansl := some [] } fun _ => .refused,
    .answer (.srv 1 .tcp)
      { err := false, ansl := some [.srv "sip.example.org".toList 5060 priority 5] } fun _ => .refused]

theorem exists_udpEmpty (priority : Nat) (P : DnsSys × List Arrival → Trace DnsAct DnsOut → Bool)
    (h : (recordedDns.exec (fun _ _ => true) (idle, []) (udpEmpty priority)).any (fun r => P r.1 r.2) = true) :
    ∃ p t, recordedDns.Run Machine.Always p t ∧ P p t = true := by
  obtain ⟨p, t, hrun, hend⟩ := Machine.exists_run_of_exec (M := recordedDns) (fun _ _ => true)
    (show recordedDns.init (idle, []) from ⟨rfl, rfl⟩) (udpEmpty priority) P h
  exact ⟨p, t, hrun.always, hend⟩

/-- The server has priority 0 and a weight. -/
theorem published_first_udpEmpty :
    ∃ (p : DnsSys × List Arrival) (res : DnsResult),
      res.targets = (handedOver p.2).map Arrival.target ∧
        (PublishedFirst (handedOver p.2) ↔ (p.2.take maxTargets).Pairwise Outranks) := by
  obtain ⟨p, t, hrun, hend⟩ := exists_udpEmpty 0 (fun _ t => t.outs.any DnsOut.isDone) (by decide +kernel)
  obtain ⟨o, hmem, hisDone⟩ := List.any_eq_true.mp hend
  cases o with
  | done res => exact ⟨p, res, published_first_iff hrun hmem⟩
  | query => cases hisDone
  | returned => cases hisDone
  | useAfterFree => cases hisDone

/-- The server has priority 10: the domain comes first. -/
theorem fallback_first :
    ¬∀ (p : DnsSys × List Arrival) (t : Trace DnsAct DnsOut), recordedDns.Run Machine.Always p t →
      ∀ res, .done res ∈ t.outs → PublishedFirst (handedOver p.2) := by
  intro h
  obtain ⟨p, t, hrun, hend⟩ := exists_udpEmpty 10
    (fun p t => t.outs.any DnsOut.isDone && !decide (PublishedFirst (handedOver p.2))) (by decide +kernel)
  rw [Bool.and_eq_true, Bool.not_eq_true', decide_eq_false_iff_not] at hend
  obtain ⟨o, hmem, hisDone⟩ := List.any_eq_true.mp hend.1
  cases o with
  | done res => exact hend.2 (h p t hrun res hmem)
  | query => cases hisDone
  | returned => cases hisDone
  | useAfterFree => cases hisDone

end DnsSys

end VoxSdk
