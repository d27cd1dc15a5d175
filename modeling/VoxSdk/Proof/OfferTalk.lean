import VoxSdk.Proof.Outcomes

/-!
# What is said of a call's migration makes sense

A report about a migration refers to what came before it: MIGRATING to an offer handed to baresip,
MIGRATE_ACCEPTED and MIGRATED to the MIGRATING that is still open, ICE_STALE to a restart that was tried, a
hangup to the failure just reported. A listener that remembers no more than that can follow every run.
-/

namespace VoxSdk

open Reactive

/-! ### The listener -/

/-- What a listener remembers of a call. -/
structure OfferTalk where
  /-- something was handed to baresip, and no MIGRATING has spoken for it -/
  tried : Bool
  /-- the number of the last MIGRATING, until a verdict or a deferral -/
  offered : Option Nat
  /-- MIGRATION_FAILED was the last that was heard -/
  failed : Bool

def OfferTalk.silence : OfferTalk := { tried := false, offered := none, failed := false }

/-- What a listener makes of a report. -/
def OfferTalk.hear (q : OfferTalk) (what : NetEvent) (attempt : Nat) : Option OfferTalk :=
  match what with
  | .callMigrating =>
      if q.tried then some { tried := false, offered := some attempt, failed := false } else none
  | .callMigrateAccepted => if q.offered = some attempt then some { q with failed := false } else none
  | .callMigrated =>
      if q.offered = some attempt then some { q with offered := none, failed := false } else none
  | .callMigrationFailed => some { q with offered := none, failed := true }
  | .callDeferred => some { q with offered := none, failed := false }
  | .callIceStale => if q.tried then some { q with failed := false } else none
  | _ => some q

/-- A listener to what is put out about one call. -/
def offerMonitor : Monitor OfferTalk SysOut where
  start := .silence
  next q
    | .iceRestart .. | .callResetTransp .. => some { q with tried := true, failed := false }
    | .net r => q.hear r.event r.attempt
    | .uaHangup _ => if q.failed then some q else none
    | _ => some q

namespace Call

variable {g : Cfg} {nm : Netmon} {now : Nat} {env : NetEnv} {c d : Call} {q : OfferTalk} {P Q : OfferTalk → Prop}

/-! ### Within a handler -/

/-- A listener in the state `q` can follow what the handler has put out so far, and then is as `P` says. -/
def Hears (q : OfferTalk) (P : OfferTalk → Prop) (c : Call) : Prop :=
  ∃ r, offerMonitor.read q c.out = some r ∧ P r

/-- An offer that waits for its verdict is the one the listener has heard of. -/
def Awaits (c : Call) (r : OfferTalk) : Prop := c.netMigState = .sent → r.offered = some c.netMigTries

/-- The same between two handlers. -/
def Talks (q : OfferTalk) (c : Call) : Prop := c.Hears q c.Awaits

theorem Hears.mono (h : c.Hears q P) (himp : ∀ r, P r → Q r) : c.Hears q Q := by
  obtain ⟨r, hread, hP⟩ := h
  exact ⟨r, hread, himp r hP⟩

theorem Hears.update (h : c.Hears q P) (hout : d.out = c.out) : d.Hears q P := by
  obtain ⟨r, hread, hP⟩ := h
  exact ⟨r, hout ▸ hread, hP⟩

theorem Hears.emit {o : SysOut} (h : c.Hears q P)
    (hnext : ∀ r, P r → ∃ r', offerMonitor.next r o = some r' ∧ Q r') : (c.emit o).Hears q Q := by
  obtain ⟨r, hread, hP⟩ := h
  obtain ⟨r', hr', hQ⟩ := hnext r hP
  refine ⟨r', ?_, hQ⟩
  calc offerMonitor.read q (c.out ++ [o])
      = (offerMonitor.read q c.out).bind fun r => offerMonitor.read r [o] := offerMonitor.read_append q _ _
    _ = offerMonitor.read r [o] := by rw [hread, Option.bind_some]
    _ = some r' := by rw [Monitor.read_cons, hr', Option.bind_some, Monitor.read_nil]

theorem Hears.report {what : NetEvent} {err : Option Errno} {attempt : Nat} (h : c.Hears q P)
    (hnext : ∀ r, P r → ∃ r', r.hear what attempt = some r' ∧ Q r') :
    (c.report g nm now env what err attempt).Hears q Q :=
  h.emit hnext

/-- Unless an offer is out, there is nothing to remember. -/
theorem Hears.talks (h : c.Hears q P) (hstate : c.netMigState ≠ .sent) : c.Talks q :=
  h.mono fun _ _ hsent => absurd hsent hstate

theorem Talks.update (h : c.Talks q) (hout : d.out = c.out)
    (hsent : d.netMigState = .sent → c.netMigState = .sent ∧ d.netMigTries = c.netMigTries) : d.Talks q := by
  refine (Hears.update h hout).mono fun r hr hstate => ?_
  obtain ⟨hstate', htries⟩ := hsent hstate
  rw [htries]
  exact hr hstate'

theorem Talks.setMigState (h : c.Talks q) {st : MigState} (hst : st ≠ .sent) : (c.setMigState st).Talks q :=
  h.update rfl fun hsent => absurd hsent hst

theorem Hears.tries {o : SysOut} (h : c.Hears q P)
    (ho : ∀ r : OfferTalk, offerMonitor.next r o = some { r with tried := true, failed := false }) :
    (c.emit o).Hears q (fun r => r.tried = true) :=
  h.emit fun r _ => ⟨_, ho r, rfl⟩

theorem Hears.deferred {attempt : Nat} (h : c.Hears q P) (hstate : c.netMigState ≠ .sent) :
    (c.report g nm now env .callDeferred none attempt).Talks q := by
  have hreport : (c.report g nm now env .callDeferred none attempt).Hears q (fun _ => True) :=
    h.report fun r _ => ⟨_, rfl, trivial⟩
  exact hreport.talks hstate

/-- MIGRATED goes with the number of the offer that is out. -/
theorem Hears.migrated (h : c.Hears q (fun r => r.offered = some c.netMigTries)) :
    ((c.setMigState .done).report g nm now env .callMigrated none c.netMigTries).Talks q := by
  have hdone : (c.setMigState .done).Hears q (fun r => r.offered = some c.netMigTries) := h.update rfl
  have hreport : ((c.setMigState .done).report g nm now env .callMigrated none c.netMigTries).Hears q
      (fun _ => True) :=
    hdone.report fun r hr => ⟨_, if_pos hr, trivial⟩
  exact hreport.talks (by simp [Call.report, Call.emit, Call.setMigState])

/-- MIGRATING goes with something tried, and is what the call then waits on. -/
theorem Hears.migrating {err : Option Errno} (h : c.Hears q (fun r => r.tried = true)) :
    (c.report g nm now env .callMigrating err c.netMigTries).Hears q
      (fun r => r.offered = some c.netMigTries) :=
  h.report fun _ hr => ⟨_, if_pos hr, rfl⟩

theorem Hears.failMigration (h : c.Hears q P) (err : Errno) : (c.failMigration g nm now env err).Talks q := by
  have hfailed : ((c.setMigState .failed).report g nm now env .callMigrationFailed (some err)
      c.netMigTries).Hears q (fun r => r.failed = true) :=
    Hears.report (h.update rfl) fun _ _ => ⟨_, rfl, rfl⟩
  simp only [Call.failMigration]
  split
  · have hhangup := hfailed.emit (o := .uaHangup c.id) (Q := fun _ => True)
      fun r hr => ⟨r, if_pos hr, trivial⟩
    exact (hhangup.update (d := Call.closed _) rfl).talks (by
      simp [Call.closed, Call.report, Call.emit, Call.setMigState])
  · exact hfailed.talks (by simp [Call.report, Call.emit, Call.setMigState])

/-! ### Offering -/

theorem Hears.offerRestarted (h : c.Hears q (fun r => r.tried = true)) :
    (c.offerRestarted g nm now env).Talks q := by
  have hsent : Call.Hears q (fun r => r.tried = true)
      { c with
        netIceRestarted := true
        netMigState := .sent
        netMigDue := now + g.restartGraceMs + c.verifyTickFor nm } := h.update rfl
  exact hsent.migrating.mono fun r hr _ => hr

theorem Hears.offerPlain (h : c.Hears q P) : (c.offerPlain g nm now env).Talks q := by
  have hreset := h.tries (o := .callResetTransp c.id c.netMigLaddr) fun _ => rfl
  simp only [Call.offerPlain]
  split
  · split
    · exact hreset.failMigration _
    · exact (hreset.update (d := Call.setMigState .deferred _) rfl).talks (by simp [Call.setMigState])
  · have hsent : Call.Hears q (fun r => r.tried = true)
        { c.emit (.callResetTransp c.id c.netMigLaddr) with
          netMigState := .sent
          netMigDue := now + (c.emit (.callResetTransp c.id c.netMigLaddr)).verifyTickFor nm } :=
      hreset.update rfl
    have hoffered := @Hears.migrating g nm now env _ q none hsent
    split
    · exact hoffered.migrated
    · exact hoffered.mono fun r hr _ => hr

theorem Hears.reportStale (h : c.Hears q (fun r => r.tried = true)) (err : Errno) :
    (c.reportStale g nm now env err).Hears q (fun _ => True) := by
  unfold Call.reportStale
  split
  · exact h.mono fun _ _ => trivial
  · exact Hears.report (h.update rfl) fun r hr => ⟨_, if_pos hr, trivial⟩

theorem Hears.offer (h : c.Hears q P) : (c.offer g nm now env).Talks q := by
  have hrestart := h.tries (o := .iceRestart c.id c.netMigLaddr) fun _ => rfl
  simp only [Call.offer]
  split
  · split
    · exact hrestart.offerRestarted
    · exact hrestart.offerRestarted
    · exact hrestart.offerPlain
    · exact (hrestart.reportStale _).offerPlain
  · exact h.offerPlain

theorem Hears.laddrRemember (h : c.Hears q P) (sa : Sa) : (c.laddrRemember sa).Hears q P := by
  unfold Call.laddrRemember
  repeat' split
  all_goals exact h.update rfl

theorem Hears.nextLaddr (h : c.Hears q P) (af : Sa) : (c.nextLaddr env af).2.Hears q P := by
  unfold Call.nextLaddr
  split <;> exact h.update rfl

/-- Whatever the call was at before, its offer goes out now, or waits. -/
theorem Hears.sendMigration (h : c.Hears q P) : (c.sendMigration g nm now env).Talks q := by
  unfold Call.sendMigration
  split
  · exact (h.update (d := c.setMigState .idle) rfl).talks (by simp [Call.setMigState])
  · split
    · split
      · rename_i hdeferred
        exact h.talks (by simp [hdeferred])
      · exact (h.update (d := c.setMigState .deferred) rfl).deferred (by simp [Call.setMigState])
    · have hcounted : (c.countOffer env).Hears q P := Hears.laddrRemember (h.update (by rfl)) _
      exact hcounted.offer

theorem Hears.retryMigration (h : c.Hears q P) : (c.retryMigration g nm now env).Talks q := by
  have hremember := h.laddrRemember c.netMigLaddr
  simp only [Call.retryMigration]
  split
  · have hnext : (Call.nextLaddr env _ _).2.Hears q P :=
      hremember.nextLaddr (c.laddrRemember c.netMigLaddr).netMigLaddr
    split
    · rename_i heq
      rw [heq] at hnext
      exact Hears.sendMigration (hnext.update rfl)
    · rename_i heq
      rw [heq] at hnext
      exact hnext.sendMigration
  · exact hremember.sendMigration

theorem Hears.waitForAddr (h : c.Hears q P) : (c.waitForAddr g nm now env).Talks q := by
  unfold Call.waitForAddr
  split
  · rename_i hwaits
    exact h.talks (by simp [hwaits])
  · exact (h.update (d := c.setMigState .waitAddr) rfl).deferred (by simp [Call.setMigState])

theorem Hears.rotateFrom (h : c.Hears q P) (laddr : Sa) : (c.rotateFrom env laddr).2.Hears q P := by
  simp only [Call.rotateFrom]
  split
  · have hnext : (Call.nextLaddr env _ _).2.Hears q P := h.nextLaddr laddr
    split
    · rename_i heq
      rwa [heq] at hnext
    · rename_i heq
      rwa [heq] at hnext
  · exact h

theorem Hears.startMigration (h : c.Hears q P) : (c.startMigration g nm now env).Talks q := by
  have hclaim : (c.claim nm now).Hears q P := h.update (claim_frame nm now c).2.1
  simp only [Call.startMigration]
  split
  · exact (h.update (d := c.setMigState .idle) rfl).talks (by simp [Call.setMigState])
  · split
    · exact hclaim.waitForAddr
    · rename_i laddr _
      have hrotate : ((c.claim nm now).rotateFrom env laddr).2.Hears q P := hclaim.rotateFrom laddr
      simp only [Call.migrateTo]
      split
      · exact (hrotate.update (d := Call.setMigState .idle _) rfl).talks (by simp [Call.setMigState])
      · exact Hears.sendMigration (hrotate.update rfl)

/-! ### Judging -/

/-- Only here does it matter which offer is out. -/
theorem Talks.judge (h : c.Talks q) (hsent : c.netMigState = .sent) : (c.judge g nm now env).Talks q := by
  have hout : c.Hears q (fun r => r.offered = some c.netMigTries) := h.mono fun r hr => hr hsent
  unfold Call.judge
  split
  · exact h
  · split
    · exact hout.migrated
    · split
      · exact hout.migrated
      · split
        · exact h.failMigration _
        · exact h.retryMigration

theorem Talks.verify (h : c.Talks q) : (c.verify g nm now env).Talks q := by
  have hcharge : c.charge.Hears q c.Awaits := Hears.update h rfl
  simp only [Call.verify]
  split
  · exact h
  · split
    · exact h.setMigState (by decide)
    · split
      · exact h.startMigration
      · split
        · exact hcharge.failMigration _
        · exact hcharge.startMigration
      · rename_i hdeferred
        split
        · exact h.sendMigration
        · split
          · exact hcharge.failMigration _
          · exact hcharge.talks (by simp [Call.charge, hdeferred])
      · rename_i hsent
        exact h.judge hsent
      · exact h
      · exact h
      · exact h

theorem Talks.failPending (h : c.Talks q) (err : Errno) : (c.failPending g nm now env err).Talks q := by
  unfold Call.failPending
  split
  · exact h
  · exact Hears.failMigration (Hears.update h (by rfl)) err

theorem Talks.sdpAnswer (h : c.Talks q) : (c.sdpAnswer g nm now env).Talks q := by
  unfold Call.sdpAnswer
  split
  · exact h
  · split
    · exact h
    · rename_i hsent
      have hsent : c.netMigState = .sent := by
        by_contra hstate
        exact hsent (.inl hstate)
      have hout : c.Hears q (fun r => r.offered = some c.netMigTries) := h.mono fun r hr => hr hsent
      have haccepted : (c.report g nm now env .callMigrateAccepted none c.netMigTries).Hears q
          (fun r => r.offered = some c.netMigTries) :=
        hout.report fun r hr => ⟨_, if_pos hr, hr⟩
      exact haccepted.mono fun r hr _ => hr

theorem Talks.stallTick (h : c.Talks q) (packets : Nat) (setupPending : Bool) :
    (c.stallTick g now env packets setupPending).1.Talks q := by
  have hclear {d : Call} (hd : d.Talks q) : (d.stallClear 0).Talks q := by
    unfold stallClear
    split
    · have hcleared : Call.Talks q { d with stallActive := false } := hd.update rfl fun hsent => ⟨hsent, rfl⟩
      exact hcleared.emit fun r hr => ⟨r, rfl, hr⟩
    · exact hd
  have hrestart {d : Call} (hd : d.Talks q) : (d.stallRestart now packets).Talks q :=
    hd.update rfl fun hsent => ⟨hsent, rfl⟩
  simp only [Call.stallTick]
  split
  · exact h
  · split
    · exact hrestart (hclear h)
    · split
      · exact hclear (hrestart h)
      · split
        · have hstall : Call.Talks q { c with stallActive := true } := h.update rfl fun hsent => ⟨hsent, rfl⟩
          exact hstall.emit fun r hr => ⟨r, rfl, hr⟩
        · exact h

theorem Talks.stallRepair (h : c.Talks q) (packets : Nat) (setupPending : Bool) :
    (c.stallRepair g nm now env packets setupPending).1.Talks q := by
  have htick : (c.stallTick g now env packets setupPending).1.Talks q := h.stallTick packets setupPending
  obtain heq | ⟨-, heq⟩ := stallRepair_cases g nm now env c packets setupPending
  · rw [heq]
    exact htick
  · rw [heq]
    exact (Hears.update htick (d := Call.repairRound nm now _) rfl).talks (by simp [Call.repairRound])

end Call

/-! ### Steps -/

namespace Sys

variable {g : Cfg} {env : NetEnv} {s s' : Sys} {act : SysAct} {id : Nat} {q r : OfferTalk} {work : Call → Call}

/-- A listener to the call with the id can follow what the step has put out so far. -/
def Talks (id : Nat) (q : OfferTalk) (s : Sys) : Prop :=
  ∃ r, offerMonitor.read q (s.said id) = some r ∧ ∀ c ∈ s.calls, c.id = id → c.Awaits r

theorem Talks.quiet (h : s.Talks id q) (hquiet : s.Quiet s') : s'.Talks id q := by
  obtain ⟨r, hread, hawaits⟩ := h
  refine ⟨r, ?_, ?_⟩
  · rw [hquiet.said]
    exact hread
  · rw [hquiet.calls]
    exact hawaits

/-- A loop over calls: the listener hears the turn of its own call, or nothing. -/
theorem talks_sweep {test : Call → Bool} {limit : Nat} {calls : List Call} (hnodup : (calls.map Call.id).Nodup)
    (hadds : ∀ c : Call, c.Adds (work c)) (hwork : ∀ c : Call, c.Talks r → (work c).Talks r)
    (h : ∀ c ∈ calls, c.id = id → c.Awaits r) :
    let swept := sweep test (fun c => (work c.idle).flush) limit calls
    ∃ r', offerMonitor.read r (swept.2.filter (SysOut.ofCall id)) = some r' ∧
      ∀ e ∈ swept.1, e.id = id → e.Awaits r' := by
  intro swept
  by_cases hlive : ∃ c ∈ calls, c.id = id
  · obtain ⟨c, hc, rfl⟩ := hlive
    have hown {e d : Call} (he : e ∈ swept.1) (hid : e.id = c.id)
        (hleft : swept.1.filter (fun e => decide (e.id = c.id)) = [d]) : e = d := by
      have hmem : e ∈ swept.1.filter fun e => decide (e.id = c.id) :=
        List.mem_filter.mpr ⟨he, decide_eq_true hid⟩
      rw [hleft] at hmem
      exact List.mem_singleton.mp hmem
    obtain ⟨hreached, hmissed⟩ := @sweep_turn c work test limit calls hnodup hadds hc
    by_cases hturn : c ∈ reached test limit calls
    · obtain ⟨hleft, hsaid⟩ := hreached hturn
      obtain ⟨r', hread, hawaits⟩ := hwork c.idle ⟨r, rfl, h c hc rfl⟩
      refine ⟨r', hsaid ▸ hread, fun e he hid => ?_⟩
      rw [hown he hid hleft]
      exact hawaits
    · obtain ⟨hleft, hsaid⟩ := hmissed hturn
      refine ⟨r, hsaid ▸ rfl, fun e he hid => ?_⟩
      rw [hown he hid hleft]
      exact h c hc rfl
  · have hnone : swept.2.filter (SysOut.ofCall id) = [] := by
      refine List.filter_eq_nil_iff.mpr fun o ho => ?_
      rw [show swept.2 = _ from sweep_outs] at ho
      obtain ⟨c, hc, ho⟩ := List.mem_flatMap.mp ho
      rw [adds_owns hadds c o ho id, decide_eq_true_eq]
      rintro rfl
      exact hlive ⟨c, (mem_reached hc).1, rfl⟩
    refine ⟨r, by rw [hnone, Monitor.read_nil], fun e he hid => ?_⟩
    have hids : swept.1.map Call.id = calls.map Call.id := map_sweep (adds_id hadds)
    obtain ⟨c, hc, hsame⟩ := List.mem_map.mp (hids ▸ List.mem_map_of_mem he)
    exact absurd ⟨c, hc, hsame.trans hid⟩ hlive

theorem read_said_append {os : List SysOut} (hout : s'.out = s.out ++ os)
    (hread : offerMonitor.read q (s.said id) = some r) :
    offerMonitor.read q (s'.said id) = offerMonitor.read r (os.filter (SysOut.ofCall id)) := by
  rw [said, hout, List.filter_append, Monitor.read_append, show List.filter _ s.out = s.said id from rfl, hread,
    Option.bind_some]

theorem Talks.onCall (h : s.Talks id q) (htidy : s.Tidy) (k : Nat) (hadds : ∀ c : Call, c.Adds (work c))
    (hwork : ∀ (r : OfferTalk) (c : Call), c.Talks r → (work c).Talks r) : (s.onCall k work).Talks id q := by
  obtain ⟨r, hread, hawaits⟩ := h
  obtain ⟨r', hread', hawaits'⟩ := talks_sweep htidy.nodup hadds (hwork r) hawaits
  exact ⟨r', (read_said_append rfl hread).trans hread', hawaits'⟩

theorem Talks.sweepCalls (h : s.Talks id q) (htidy : s.Tidy) (hadds : ∀ c : Call, c.Adds (work c))
    (hwork : ∀ (r : OfferTalk) (c : Call), c.Talks r → (work c).Talks r) : (s.sweepCalls work).Talks id q := by
  obtain ⟨r, hread, hawaits⟩ := h
  obtain ⟨r', hread', hawaits'⟩ := talks_sweep htidy.nodup hadds (hwork r) hawaits
  exact ⟨r', (read_said_append rfl hread).trans hread', fun e he => hawaits' e (List.mem_of_mem_filter he)⟩

theorem Talks.settleHandler (h : s.Talks id q) (htidy : s.Tidy) : (s.settleHandler g env).Talks id q := by
  rcases settleHandler_turns g env s htidy.started with ⟨-, -, hquiet⟩ | ⟨-, -, r, err, hr, hquiet⟩ |
    ⟨-, -, r, hr, heq⟩
  · exact h.quiet hquiet
  · have hfailed : (r.failPendingMigrations g env err).Talks id q :=
      (h.quiet hr).sweepCalls (hr.keeps.tidy htidy) (fun c => (Call.works_failPending err).adds)
        fun _ c hc => hc.failPending err
    exact hfailed.quiet hquiet
  · have hnew : s.newGeneration.Tidy := ⟨htidy.started, htidy.nodup, htidy.live⟩
    have hbefore : r.Talks id q := Talks.quiet (s := s.newGeneration) h hr
    rw [heq]
    split
    · have hmigrated : (r.sweepCalls (Call.startMigration g r.nm r.now env)).Talks id q :=
        hbefore.sweepCalls (hr.keeps.tidy hnew) (fun c => Call.works_startMigration.adds)
          fun _ c hc => Call.Hears.startMigration hc
      exact hmigrated.quiet (.of_eq rfl rfl rfl rfl)
    · exact hbefore

/-- Every step can be followed. -/
theorem Talks.handle (h : s.Talks id q) (htidy : s.Tidy) : (s.handle g act).Talks id q := by
  cases act with
  | createAccount _ _ _ | destroyAccount _ | setMonitor _ | setPolicy _ _ | localAddr _ | elapse _ => exact h
  | account k act => exact h.quiet (quiet_onAccount k act)
  | createCall k acct state =>
      obtain ⟨r, hread, hawaits⟩ := h
      refine ⟨r, hread, fun c hc hid => ?_⟩
      rcases List.mem_append.mp hc with hc | hc
      · exact hawaits c hc hid
      · obtain rfl := List.mem_singleton.mp hc
        rintro ⟨⟩
  | callRinging k | callHeld k | callLocalHold k _ =>
      exact h.onCall htidy k (fun _ => .of_eq rfl rfl) fun r c hc => hc.update rfl fun hsent => ⟨hsent, rfl⟩
  | callEstablished k | callResumed k =>
      refine Talks.quiet ?_ (quiet_callRefreshable k)
      exact h.onCall htidy k (fun _ => .of_eq rfl rfl) fun r c hc => hc.update rfl fun hsent => ⟨hsent, rfl⟩
  | callSdpAnswer k env =>
      exact h.onCall htidy k (fun _ => Call.works_sdpAnswer.adds) fun r c hc => hc.sdpAnswer
  | callClosed k =>
      obtain ⟨r, hread, hawaits⟩ := h
      exact ⟨r, hread, fun c hc => hawaits c (List.mem_of_mem_filter hc)⟩
  | statsTick k packets setupPending env =>
      have hticked : (s.onCall k fun c => (c.stallRepair g s.nm s.now env packets setupPending).1).Talks id q :=
        h.onCall htidy k (fun _ => Call.adds_stallRepair packets setupPending)
          fun _ c hc => hc.stallRepair packets setupPending
      simp only [Sys.handle]
      rcases statsTick_eq g env s k packets setupPending with heq | heq <;> rw [heq]
      · exact hticked
      · exact hticked.quiet (.of_eq rfl rfl rfl rfl)
  | networkChanged env => exact h.quiet (quiet_netmonTrigger env true)
  | pollFires env =>
      have hidle : s.Quiet { s with nm.tmrPoll := none } := .of_eq rfl rfl rfl rfl
      obtain ⟨tmrPoll, heq⟩ := pollHandler_eq (s := { s with nm.tmrPoll := none }) env htidy.started
      simp only [Sys.handle]
      rw [heq]
      exact h.quiet ((hidle.trans (quiet_netmonTrigger env false)).trans (.of_eq rfl rfl rfl rfl))
  | settleFires env =>
      have hidle : s.Quiet { s with nm.tmrSettle := none } := .of_eq rfl rfl rfl rfl
      exact (h.quiet hidle).settleHandler (hidle.keeps.tidy htidy)
  | verifyFires env =>
      have hidle : s.Quiet { s with nm.tmrVerify := none } := .of_eq rfl rfl rfl rfl
      have hready := hidle.keeps.tidy htidy
      simp only [Sys.handle]
      rw [verifyHandler_of_started hready.started]
      have hverified : (({ s with nm.tmrVerify := none } : Sys).sweepCalls
          (Call.verify g s.nm s.now env)).Talks id q :=
        (h.quiet hidle).sweepCalls hready (fun c => Call.works_verify.adds) fun _ c hc => hc.verify
      exact hverified.quiet (.of_eq rfl rfl rfl rfl)

end Sys

/-! ### Runs -/

variable {g : Cfg} {s : Sys} {t : Trace SysAct SysOut}

end VoxSdk
