import VoxSdk.Proof.CallLemmas
import VoxSdk.Proof.HandoverLemmas

/-!
# Handover rounds

A round is announced, tried, and ends with a transport reset or after `max_attempts` failures. The
fields `RoundPart` keeps are all the state machine has; here is what each handler makes of them, and
the monitor that reads the rounds off a run's NETWORK events.
-/

namespace VoxSdk

open Reactive

/-- The events a round is made of. -/
inductive RoundEvent where
  | detected
  | failed (attempt : Nat)
  | reset
  deriving DecidableEq

def SysOut.round : SysOut → Option RoundEvent
  | .net r =>
      match r.event with
      | .changeDetected => some .detected
      | .handoverFailed => some (.failed r.attempt)
      | .transportReset => some .reset
      | _ => none
  | _ => none

def rounds (os : List SysOut) : List RoundEvent := os.filterMap SysOut.round

@[simp]
theorem rounds_nil : rounds [] = [] := rfl

@[simp]
theorem rounds_append (os os' : List SysOut) : rounds (os ++ os') = rounds os ++ rounds os' :=
  List.filterMap_append

theorem rounds_eq_nil {os : List SysOut} (h : ∀ o ∈ os, o.round = none) : rounds os = [] :=
  List.filterMap_eq_nil_iff.mpr h

theorem SysOut.round_of_ofCall {o : SysOut} {id : Nat} (h : o.ofCall id = true) : o.round = none := by
  cases o with
  | net r =>
      obtain ⟨-, hcall⟩ := Bool.and_eq_true_iff.mp h
      revert hcall
      simp only [SysOut.round]
      cases r.event <;> simp [NetEvent.isCall]
  | _ => rfl

@[simp]
theorem rounds_acct (id : Nat) (os : List AcctOut) : rounds (os.map (SysOut.acct id)) = [] :=
  rounds_eq_nil (by simp [SysOut.round])

theorem Call.Adds.rounds {c d : Call} (h : c.Adds d) (hout : c.out = []) : rounds d.out = [] := by
  obtain ⟨-, os, hos, hall⟩ := h
  rw [hos, hout, List.nil_append]
  exact rounds_eq_nil fun o ho => SysOut.round_of_ofCall (hall o ho)

theorem rounds_sweep {α : Type*} {test : α → Bool} {work : α → α × List SysOut} {limit : Nat}
    {xs : List α} (h : ∀ x, rounds (work x).2 = []) : rounds (sweep test work limit xs).2 = [] := by
  rw [sweep_outs]
  refine rounds_eq_nil fun o ho => ?_
  obtain ⟨x, -, hox⟩ := List.mem_flatMap.mp ho
  exact List.filterMap_eq_nil_iff.mp (h x) o hox

namespace RoundPart

/-- A failed attempt. -/
def fail (now : Nat) (p : RoundPart) : RoundPart :=
  if p.attempt + 1 < p.maxAttempts then
    { p with
      attempt := p.attempt + 1
      tmrSettle := Timer.start now (backoffMs (p.attempt + 1)) }
  else { p with attempt := 0, announced := false }

/-- A transport reset. -/
def complete (p : RoundPart) : RoundPart :=
  { p with attempt := 0, resetPending := false, force := false, announced := false }

/-- An attempt to reset the transports, and what is put out about it. -/
def attemptReset (now : Nat) (result : Option Errno) (p : RoundPart) :
    RoundPart × List RoundEvent :=
  match result with
  | some _ => (p.fail now, [.failed (p.attempt + 1)])
  | none => (p.complete, [.reset])

/-- A handover is owed. -/
def owed (p : RoundPart) : Bool := p.resetPending || p.force

/-- What `netmon_trigger` notes. -/
def note (env : NetEnv) (forced : Bool) (p : RoundPart) : RoundPart :=
  { p with
    resetPending := p.resetPending || decide (env.scanned ≠ 0)
    force := p.force || forced }

/-- `settle_handler` on the state machine. -/
def settle (now : Nat) (env : NetEnv) (backoff : Nat) (p : RoundPart) :
    RoundPart × List RoundEvent :=
  if env.scanned ≠ 0 then
    ({ p with resetPending := true, tmrSettle := Timer.start now p.settleMs }, [])
  else if !p.owed then (p, [])
  else if !env.routable && !env.linklocal then
    ({ p with tmrSettle := Timer.start now backoff }, [])
  else p.attemptReset now env.resetTransp

/-- `netmon_trigger` on the state machine. -/
def trigger (now : Nat) (env : NetEnv) (forced : Bool) (p : RoundPart) :
    RoundPart × List RoundEvent :=
  let p := p.note env forced
  if !p.owed then (p, [])
  else
    ({ p with announced := true, tmrSettle := Timer.start now p.settleMs },
      if p.announced then [] else [.detected])

end RoundPart

namespace Sys

variable {g : Cfg} {env : NetEnv} {s : Sys}

/-- What of the SDK the rounds are about. -/
def roundView (s : Sys) : RoundPart × List RoundEvent := (s.nm.roundPart, rounds s.out)

theorem sweepCalls_view {work : Call → Call} (h : ∀ c : Call, c.Adds (work c)) :
    (s.sweepCalls work).roundView = s.roundView := by
  have hwork : ∀ c : Call, rounds ((work c.idle).flush).2 = [] := fun c => (h c.idle).rounds rfl
  simp only [roundView, sweepCalls, rounds_append, rounds_sweep hwork, List.append_nil]

theorem onCall_view {id : Nat} {work : Call → Call} (h : ∀ c : Call, c.Adds (work c)) :
    (s.onCall id work).roundView = s.roundView := by
  have hwork : ∀ c : Call, rounds ((work c.idle).flush).2 = [] := fun c => (h c.idle).rounds rfl
  simp only [roundView, onCall, rounds_append, rounds_sweep hwork, List.append_nil]

theorem sweepAccounts_view {work : Account → Account × List SysOut}
    (h : ∀ a, rounds (work a).2 = []) : (s.sweepAccounts work).roundView = s.roundView := by
  simp only [roundView, sweepAccounts, rounds_append, rounds_sweep h, List.append_nil]

theorem onAccount_view {id : Nat} {act : AcctAct} :
    (s.onAccount g id act).roundView = s.roundView := by
  have hwork : ∀ a : Account, rounds ((a.idle.handle g s.now act).flush).2 = [] :=
    fun _ => rounds_acct _ _
  simp only [roundView, onAccount, rounds_append, rounds_sweep hwork, List.append_nil]

theorem markAccountsReconnecting_view : s.markAccountsReconnecting.roundView = s.roundView :=
  sweepAccounts_view fun _ => rounds_acct _ _

theorem handoverAccountsToRetry_view : (s.handoverAccountsToRetry g env).roundView = s.roundView :=
  sweepAccounts_view fun _ => rounds_acct _ _

theorem reregisterAccounts_view : (s.reregisterAccounts env).roundView = s.roundView := by
  refine sweepAccounts_view fun a => ?_
  have hacct := rounds_acct (a.idle.reregister s.now (env.reporting a.id)).id
    (a.idle.reregister s.now (env.reporting a.id)).out
  simp only [Account.flush_snd]
  split
  · exact hacct
  · simp [rounds, SysOut.round, netReport]

theorem migrateCalls_view : (s.migrateCalls g env).roundView = s.roundView :=
  sweepCalls_view fun _ => Call.works_startMigration.adds

theorem failPendingMigrations_view (err : Errno) :
    (s.failPendingMigrations g env err).roundView = s.roundView :=
  sweepCalls_view fun _ => (Call.works_failPending err).adds

theorem emitNet_view (what : NetEvent) (err : Option Errno) (attempt : Nat) :
    (s.emitNet what err attempt).roundView =
      (s.nm.roundPart, rounds s.out ++ rounds [.net (s.netReport what none err attempt)]) := by
  simp only [roundView, emitNet_frame, rounds_append]

theorem linkDown_view (curLaddr : CStr) : (s.linkDown curLaddr).roundView = s.roundView := by
  unfold linkDown
  split
  · rfl
  · refine markAccountsReconnecting_view.trans ((emitNet_view _ _ _).trans ?_)
    simp [rounds, SysOut.round, netReport, roundView, Netmon.roundPart]

theorem linkUp_view : (s.linkUp env).roundView = s.roundView := by
  unfold linkUp
  split
  · refine (emitNet_view _ _ _).trans ?_
    simp [rounds, SysOut.round, netReport, roundView, Netmon.roundPart]
  · rfl

theorem noteLink_view : (s.noteLink env).roundView = s.roundView := by
  unfold noteLink
  split
  · exact linkDown_view _
  · exact linkUp_view

theorem giveUp_view (err : Errno) :
    (s.giveUp g env err).roundView =
      ({ s.nm.roundPart with attempt := 0, announced := false }, rounds s.out) := by
  let s₁ := { s with nm.attempt := 0 }
  have hview : ((s₁.handoverAccountsToRetry g env).failPendingMigrations g env err).roundView =
      s₁.roundView := (failPendingMigrations_view err).trans handoverAccountsToRetry_view
  have hrounds := congrArg Prod.snd hview
  simp only [roundView] at hrounds ⊢
  exact Prod.ext rfl hrounds

theorem resetFailed_view (err : Errno) :
    (s.resetFailed g env err).roundView =
      (s.nm.roundPart.fail s.now, rounds s.out ++ [.failed (s.nm.attempt + 1)]) := by
  by_cases hleft : s.nm.attempt + 1 < s.nm.maxAttempts
  · simp [resetFailed, hleft, roundView, Netmon.roundPart, RoundPart.fail, rounds, SysOut.round,
      netReport]
  · simp only [resetFailed, emitNet_frame, hleft, if_false]
    rw [giveUp_view]
    simp [hleft, Netmon.roundPart, RoundPart.fail, rounds, SysOut.round, netReport]

theorem resetDone_view :
    (s.resetDone g env).roundView = (s.nm.roundPart.complete, rounds s.out ++ [.reset]) := by
  have hreset : ((s.newGeneration.updateCurLaddr env).emitNet .transportReset none 0).roundView =
      (s.nm.roundPart.complete, rounds s.out ++ [.reset]) := emitNet_view _ _ _
  simp only [resetDone]
  split
  · exact migrateCalls_view.trans (reregisterAccounts_view.trans hreset)
  · exact reregisterAccounts_view.trans hreset

theorem emit_view {os : List SysOut} (h : rounds os = []) : (s.emit os).roundView = s.roundView := by
  simp [roundView, h]

/-- What an attempt makes of the view of a state. -/
def afterAttempt (env : NetEnv) (now : Nat) (v : RoundPart × List RoundEvent) :
    RoundPart × List RoundEvent :=
  ((v.1.attemptReset now env.resetTransp).1, v.2 ++ (v.1.attemptReset now env.resetTransp).2)

theorem resetOutcome_view :
    (s.resetOutcome g env).roundView = afterAttempt env s.now s.roundView := by
  unfold resetOutcome
  cases hresult : env.resetTransp with
  | none =>
      refine resetDone_view.trans ?_
      simp only [afterAttempt, RoundPart.attemptReset, hresult, roundView]
  | some err =>
      refine (resetFailed_view err).trans ?_
      simp only [afterAttempt, RoundPart.attemptReset, hresult, roundView]
      rfl

theorem resetTransports_view :
    (s.resetTransports g env).roundView = afterAttempt env s.now s.roundView := by
  refine resetOutcome_view.trans ?_
  rw [emit_view rfl]
  split
  · rfl
  · rw [emit_view rfl]
    rfl

theorem applyHandover_view :
    (s.applyHandover g env).roundView =
      if !env.routable && !env.linklocal then
        ({ s.nm.roundPart with tmrSettle := Timer.start s.now (backoffMs s.nm.waitTicks) },
          rounds s.out)
      else afterAttempt env s.now s.roundView := by
  unfold applyHandover
  split
  · obtain ⟨hpart, hrounds⟩ := Prod.ext_iff.mp (linkDown_view (s := s) [])
    simp only [roundView] at hpart hrounds
    refine Prod.ext ?_ hrounds
    have hwait : ((s.linkDown []).waitForAddress).nm.roundPart =
        { (s.linkDown []).nm.roundPart with
          tmrSettle := Timer.start (s.linkDown []).now (backoffMs (s.linkDown []).nm.waitTicks) } :=
      rfl
    rw [roundView, hwait, hpart, (linkDown_frame []).1, (linkDown_frame []).2.2]
  · refine resetTransports_view.trans ?_
    rw [noteLink_view, noteLink_frame.1]
    rfl

/-- `settle_handler` is `RoundPart.settle`. -/
theorem settleHandler_view (hstarted : s.nm.started = true) :
    (s.settleHandler g env).roundView =
      ((s.nm.roundPart.settle s.now env (backoffMs s.nm.waitTicks)).1,
        rounds s.out ++ (s.nm.roundPart.settle s.now env (backoffMs s.nm.waitTicks)).2) := by
  have howed : s.nm.roundPart.owed = s.isOwed := rfl
  unfold settleHandler RoundPart.settle
  rw [if_neg (by simp [hstarted]), howed]
  split
  · rw [List.append_nil]
    rfl
  · split
    · rw [List.append_nil]
      rfl
    · refine applyHandover_view.trans ?_
      split
      · rw [List.append_nil]
      · rfl

theorem settleHandler_no_address (hstarted : s.nm.started = true) (howed : s.isOwed = true)
    (hscan : env.scanned = 0) (hroutable : env.routable = false)
    (hlinklocal : env.linklocal = false) :
    (s.settleHandler g env).roundView =
      ({ s.nm.roundPart with tmrSettle := Timer.start s.now (backoffMs s.nm.waitTicks) },
        rounds s.out) := by
  rw [settleHandler_view hstarted]
  have hpart : s.nm.roundPart.owed = true := howed
  simp [RoundPart.settle, hpart, hscan, hroutable, hlinklocal]

variable (env s) in
theorem announce_view :
    (s.announce env).roundView =
      ({ s.nm.roundPart with announced := true },
        rounds s.out ++ if s.nm.announced then [] else [.detected]) := by
  refine Prod.ext announce_roundPart ?_
  cases h : s.nm.announced with
  | true => simp [announce_of_announced h, roundView]
  | false =>
      have hmark := congrArg Prod.snd (markAccountsReconnecting_view
        (s := ({ s with nm.announced := true, nm.handoverStart := s.now }.updateCurLaddr
          env).emitNet .changeDetected none 0))
      simp only [roundView] at hmark ⊢
      rw [announce, if_neg (by simp [h]), hmark]
      simp [rounds, SysOut.round, netReport]

/-- `netmon_trigger` is `RoundPart.trigger`. -/
theorem netmonTrigger_view (forced : Bool) (hstarted : s.nm.started = true) :
    (s.netmonTrigger env forced).roundView =
      ((s.nm.roundPart.trigger s.now env forced).1,
        rounds s.out ++ (s.nm.roundPart.trigger s.now env forced).2) := by
  have htrigger : s.nm.roundPart.trigger s.now env forced =
      if !(s.noteChange env forced).isOwed then ((s.noteChange env forced).nm.roundPart, [])
      else
        ({ (s.noteChange env forced).nm.roundPart with
            announced := true
            tmrSettle := Timer.start s.now s.nm.settleMs },
          if s.nm.announced then [] else [.detected]) := rfl
  cases howed : (s.noteChange env forced).isOwed with
  | false =>
      rw [netmonTrigger_of_not_owed hstarted howed, htrigger, howed,
        noteChange_of_not_owed howed]
      simp [roundView]
  | true =>
      obtain ⟨hpart, hrounds⟩ := Prod.ext_iff.mp (announce_view env (s.noteChange env forced))
      obtain ⟨hnow, -, hsettle⟩ := announce_frame env (s.noteChange env forced)
      rw [netmonTrigger_of_owed hstarted howed, htrigger, howed]
      simp only [roundView] at hpart hrounds
      refine Prod.ext ?_ hrounds
      rw [roundView, restartSettle_roundPart, hpart, hnow, hsettle]
      rfl

theorem pollHandler_view (hstarted : s.nm.started = true) :
    (s.pollHandler env).roundView = (s.netmonTrigger env false).roundView := by
  obtain ⟨tmrPoll, heq⟩ := pollHandler_eq env hstarted
  rw [heq]
  rfl

theorem handle_view {act : SysAct} (h : disturbs act = false) :
    (s.handle g act).roundView = s.roundView := by
  cases act with
  | networkChanged _ | pollFires _ | settleFires _ => cases h
  | account id act => exact onAccount_view
  | callRinging id | callHeld id | callLocalHold id hold =>
      exact onCall_view fun _ => .of_eq rfl rfl
  | callEstablished id | callResumed id =>
      have hcall {work : Call → Call} (h : ∀ c : Call, c.Adds (work c)) :
          ((s.onCall id work).callRefreshable id).roundView = s.roundView := by
        rcases callRefreshable_eq (s := s.onCall id work) id with heq | heq <;> rw [heq] <;>
          exact onCall_view h
      exact hcall fun _ => .of_eq rfl rfl
  | callSdpAnswer id env => exact onCall_view fun _ => Call.works_sdpAnswer.adds
  | statsTick id packets setupPending env =>
      simp only [handle]
      rcases statsTick_eq g env s id packets setupPending with heq | heq <;> rw [heq] <;>
        exact onCall_view fun _ => Call.adds_stallRepair _ _
  | verifyFires env =>
      simp only [handle, verifyHandler]
      split
      · rfl
      · exact (sweepCalls_view (s := { s with nm.tmrVerify := none })
          fun _ => Call.works_verify.adds :)
  | _ => rfl

end Sys

/-! ### The monitor -/

/-- Where a run stands between two events of its rounds. -/
inductive RoundState where
  | quiet
  | exhausted
  | waiting (failed : Nat)

/-- The rounds a handover may go through with `max` attempts. -/
def roundMonitor (max : Nat) : Monitor RoundState RoundEvent where
  start := .quiet
  next
    | .quiet, .detected | .exhausted, .detected => some (.waiting 0)
    | .waiting k, .failed n =>
        if n = k + 1 then some (if n < max then .waiting n else .exhausted) else none
    | .waiting _, .reset => some .quiet
    | _, _ => none

namespace RoundPart

/-- What the fields say in each of the states. -/
def In (p : RoundPart) : RoundState → Prop
  | .quiet => p.announced = false ∧ p.tmrSettle = none ∧ p.attempt = 0 ∧ p.owed = false
  | .exhausted => p.announced = false ∧ p.tmrSettle = none ∧ p.attempt = 0 ∧ p.owed = true
  | .waiting k =>
      p.announced = true ∧ p.tmrSettle.isRunning = true ∧ p.attempt = k ∧ p.owed = true ∧
        k < p.maxAttempts

variable (now : Nat) (env : NetEnv) {p : RoundPart} {q : RoundState} {k : Nat}

theorem note_of_not_owed {forced : Bool} (h : (p.note env forced).owed = false) :
    p.note env forced = p := by
  simp only [owed, note, Bool.or_eq_false_iff] at h
  obtain ⟨⟨hpending, hscan⟩, hforce, hforced⟩ := h
  simp [note, hscan, hforced]

theorem in_trigger (hmax : 0 < p.maxAttempts) (hin : p.In q) (forced : Bool) :
    ∃ q', (roundMonitor p.maxAttempts).read q (p.trigger now env forced).2 = some q' ∧
      (p.trigger now env forced).1.In q' := by
  cases howed : (p.note env forced).owed with
  | false =>
      have hsame := note_of_not_owed env howed
      rw [hsame] at howed
      have hnothing : p.trigger now env forced = (p, []) := by simp [trigger, hsame, howed]
      rw [hnothing]
      exact ⟨q, rfl, hin⟩
  | true =>
      have harmed : p.trigger now env forced =
          ({ p.note env forced with
              announced := true
              tmrSettle := Timer.start now p.settleMs },
            if p.announced then [] else [.detected]) := by
        simp only [trigger, howed]
        rfl
      rw [harmed]
      cases q with
      | quiet | exhausted =>
          obtain ⟨hann, -, hattempt, -⟩ := hin
          exact ⟨.waiting 0, by rw [hann]; rfl, rfl, rfl, hattempt, howed, hmax⟩
      | waiting k =>
          obtain ⟨hann, -, hattempt, -, hlt⟩ := hin
          exact ⟨.waiting k, by rw [hann]; rfl, rfl, rfl, hattempt, howed, hlt⟩

theorem in_attemptReset (hin : ({ p with tmrSettle := some now }).In (.waiting k))
    (hidle : p.tmrSettle = none) (result : Option Errno) :
    ∃ q', (roundMonitor p.maxAttempts).read (.waiting k) (p.attemptReset now result).2 = some q' ∧
      (p.attemptReset now result).1.In q' := by
  obtain ⟨hann, -, hattempt, howed, hlt⟩ := hin
  replace hattempt : p.attempt = k := hattempt
  cases result with
  | none => exact ⟨.quiet, rfl, rfl, hidle, rfl, rfl⟩
  | some err =>
      by_cases hleft : k + 1 < p.maxAttempts
      · refine ⟨.waiting (k + 1), ?_, ?_⟩
        · simp [attemptReset, hattempt, roundMonitor, hleft]
        · simp only [attemptReset, fail, hattempt, hleft, if_true]
          exact ⟨hann, rfl, rfl, howed, hleft⟩
      · refine ⟨.exhausted, ?_, ?_⟩
        · simp [attemptReset, hattempt, roundMonitor, hleft]
        · simp only [attemptReset, fail, hattempt, hleft, if_false]
          exact ⟨rfl, hidle, rfl, howed⟩

/-- The settle timer fires in a round only, and the round goes on or ends. -/
theorem in_settle (hin : p.In (.waiting k)) (backoff : Nat) :
    ∃ q', (roundMonitor p.maxAttempts).read (.waiting k)
        (({ p with tmrSettle := none }).settle now env backoff).2 = some q' ∧
      (({ p with tmrSettle := none }).settle now env backoff).1.In q' := by
  obtain ⟨hann, -, hattempt, howed, hlt⟩ := hin
  unfold settle
  split
  · exact ⟨.waiting k, rfl, hann, rfl, hattempt, rfl, hlt⟩
  · split
    · rename_i hidle
      rw [show ({ p with tmrSettle := none } : RoundPart).owed = true from howed] at hidle
      cases hidle
    · split
      · exact ⟨.waiting k, rfl, hann, rfl, hattempt, howed, hlt⟩
      · exact in_attemptReset now (p := { p with tmrSettle := none })
          ⟨hann, rfl, hattempt, howed, hlt⟩ rfl env.resetTransp

/-- The fields a round never changes. -/
theorem trigger_fixed (forced : Bool) :
    (p.trigger now env forced).1.started = p.started ∧
      (p.trigger now env forced).1.maxAttempts = p.maxAttempts := by
  simp only [trigger]
  split <;> exact ⟨rfl, rfl⟩

theorem settle_fixed (backoff : Nat) :
    (p.settle now env backoff).1.started = p.started ∧
      (p.settle now env backoff).1.maxAttempts = p.maxAttempts := by
  unfold settle attemptReset fail
  repeat' split
  all_goals exact ⟨rfl, rfl⟩

/-- How the fields and the monitor correspond. -/
structure Follows (max : Nat) (p : RoundPart) (q : RoundState) : Prop where
  started : p.started = true
  max_eq : p.maxAttempts = max
  pos : 0 < max
  at_state : p.In q

variable {max : Nat}

omit now env in
/-- The settle timer is armed for a handover that is owed. -/
theorem Follows.owed (h : p.Follows max q) (harmed : p.tmrSettle.isRunning = true) :
    p.owed = true := by
  obtain ⟨-, -, -, hin⟩ := h
  cases q with
  | quiet | exhausted =>
      rw [hin.2.1] at harmed
      cases harmed
  | waiting k => exact hin.2.2.2.1

theorem follows_trigger (h : p.Follows max q) (forced : Bool) :
    ∃ q', (roundMonitor max).read q (p.trigger now env forced).2 = some q' ∧
      (p.trigger now env forced).1.Follows max q' := by
  obtain ⟨hstarted, rfl, hpos, hin⟩ := h
  obtain ⟨q', hread, hin'⟩ := in_trigger now env hpos hin forced
  obtain ⟨hstarted', hmax⟩ := trigger_fixed now env (p := p) forced
  exact ⟨q', hread, hstarted'.trans hstarted, hmax, hpos, hin'⟩

theorem follows_settle (h : p.Follows max q) (harmed : p.tmrSettle.isRunning = true)
    (backoff : Nat) :
    ∃ q', (roundMonitor max).read q
        (({ p with tmrSettle := none }).settle now env backoff).2 = some q' ∧
      (({ p with tmrSettle := none }).settle now env backoff).1.Follows max q' := by
  obtain ⟨hstarted, rfl, hpos, hin⟩ := h
  cases q with
  | quiet | exhausted =>
      obtain ⟨-, hidle, -⟩ := hin
      rw [hidle] at harmed
      cases harmed
  | waiting k =>
      obtain ⟨q', hread, hin'⟩ := in_settle now env hin backoff
      obtain ⟨hstarted', hmax⟩ :=
        settle_fixed now env (p := { p with tmrSettle := none }) backoff
      exact ⟨q', hread, hstarted'.trans hstarted, hmax, hpos, hin'⟩

end RoundPart

/-! ### The rounds of a run -/

variable {g : Cfg} {s s' : Sys} {t : Trace SysAct SysOut} {act : SysAct} {os : List SysOut}

/-- A step of the SDK is a step of the monitor on the round events it puts out. -/
theorem follows_step {max : Nat} {q : RoundState} (h : s.nm.roundPart.Follows max q)
    (hstep : (system g).step s act = some (s', os)) :
    ∃ q', (roundMonitor max).read q (rounds os) = some q' ∧ s'.nm.roundPart.Follows max q' := by
  obtain ⟨hen, hs', rfl⟩ := system_step hstep
  have hview {v : RoundPart × List RoundEvent} (hv : s'.roundView = (v.1, rounds [] ++ v.2))
      (hmonitor : ∃ q', (roundMonitor max).read q v.2 = some q' ∧ v.1.Follows max q') :
      ∃ q', (roundMonitor max).read q (rounds s'.out) = some q' ∧
        s'.nm.roundPart.Follows max q' := by
    obtain ⟨hpart, hrounds⟩ := Prod.ext_iff.mp hv
    simp only [Sys.roundView] at hpart hrounds
    rw [hpart, hrounds]
    exact hmonitor
  rw [hs'] at hview ⊢
  by_cases hdisturbs : Sys.disturbs act = false
  · exact hview (v := (s.nm.roundPart, [])) (Sys.handle_view hdisturbs) ⟨q, rfl, h⟩
  · cases act with
    | networkChanged env =>
        exact hview (Sys.netmonTrigger_view (s := s.idle) true h.started)
          (RoundPart.follows_trigger _ env h true)
    | pollFires env =>
        exact hview ((Sys.pollHandler_view (s := { s.idle with nm.tmrPoll := none })
          h.started).trans (Sys.netmonTrigger_view false h.started))
          (RoundPart.follows_trigger _ env h false)
    | settleFires env =>
        exact hview (Sys.settleHandler_view (s := { s.idle with nm.tmrSettle := none }) h.started)
          (RoundPart.follows_settle _ env h (Timer.isRunning_of_isDue hen) _)
    | _ => exact absurd rfl hdisturbs

theorem follows_init (h : (system g).init s) : s.nm.roundPart.Follows g.maxAttempts .quiet := by
  obtain ⟨now, up, curLaddr, rfl⟩ := h
  exact ⟨rfl, rfl, g.maxAttempts_pos, rfl, rfl, rfl, rfl⟩

theorem follows_run (hrun : (system g).Run Machine.Always s t) :
    ∃ q, (roundMonitor g.maxAttempts).read .quiet (rounds t.outs) = some q ∧
      s.nm.roundPart.Follows g.maxAttempts q :=
  Machine.Run.accepted (N := roundMonitor g.maxAttempts)
    (R := fun (s : Sys) q => s.nm.roundPart.Follows g.maxAttempts q) rounds rounds_append
    (fun _ => follows_init) (fun _ _ _ _ _ h _ hstep => follows_step h hstep) hrun

/-! ### What a round looks like -/

/-- The failures numbered `j + 1` to `k`. -/
def failures (j k : Nat) : List RoundEvent := (List.range' (j + 1) (k - j)).map .failed

theorem failures_self (j : Nat) : failures j j = [] := by simp [failures]

theorem failures_succ {j k : Nat} (h : j < k) : failures j k = .failed (j + 1) :: failures (j + 1) k := by
  rw [failures, show k - j = k - (j + 1) + 1 by omega, List.range'_succ]
  rfl

/-- A round, of which `j` failures are known already, so far: under way, reset, or given up. -/
def RoundState.Explains (max j : Nat) (es : List RoundEvent) : RoundState → Prop
  | .waiting k => j ≤ k ∧ k < max ∧ es = failures j k
  | .quiet => ∃ k, j ≤ k ∧ k < max ∧ es = failures j k ++ [.reset]
  | .exhausted => es = failures j max

/-- Outside a round nothing is put out but the announcement of the next. -/
theorem read_outside {max : Nat} {q r : RoundState} {es : List RoundEvent}
    (houtside : q = .quiet ∨ q = .exhausted) (hread : (roundMonitor max).read q es = some r)
    (hno : .detected ∉ es) : es = [] ∧ r = q := by
  cases es with
  | nil => exact ⟨rfl, (Option.some.inj hread).symm⟩
  | cons e es =>
      rcases houtside with rfl | rfl <;> cases e with
      | detected => exact absurd List.mem_cons_self hno
      | failed n => cases hread
      | reset => cases hread

theorem read_explains {max j : Nat} {q : RoundState} {es : List RoundEvent} (hj : j < max)
    (hread : (roundMonitor max).read (.waiting j) es = some q) (hno : .detected ∉ es) :
    q.Explains max j es := by
  induction es generalizing j with
  | nil =>
      obtain rfl := Option.some.inj hread
      exact ⟨Nat.le_refl j, hj, (failures_self j).symm⟩
  | cons e es ih =>
      have hno' : .detected ∉ es := fun h => hno (List.mem_cons_of_mem _ h)
      cases e with
      | detected => exact absurd List.mem_cons_self hno
      | reset =>
          obtain ⟨rfl, rfl⟩ := read_outside (.inl rfl) hread hno'
          exact ⟨j, Nat.le_refl j, hj, by rw [failures_self]; rfl⟩
      | failed n =>
          by_cases hn : n = j + 1
          · subst hn
            by_cases hleft : j + 1 < max
            · rw [Monitor.read_cons] at hread
              simp only [roundMonitor, hleft, if_true, Option.bind_some] at hread
              have hrest := ih hleft hread hno'
              cases q with
              | waiting k =>
                  obtain ⟨hle, hlt, rfl⟩ := hrest
                  exact ⟨by omega, hlt, (failures_succ (by omega)).symm⟩
              | quiet =>
                  obtain ⟨k, hle, hlt, rfl⟩ := hrest
                  exact ⟨k, by omega, hlt, by rw [failures_succ (show j < k by omega)]; rfl⟩
              | exhausted =>
                  obtain rfl := hrest
                  exact (failures_succ (by omega)).symm
            · rw [Monitor.read_cons] at hread
              simp only [roundMonitor, hleft, if_true, if_false, Option.bind_some] at hread
              obtain ⟨rfl, rfl⟩ := read_outside (.inr rfl) hread hno'
              have hmax : max = j + 1 := by omega
              show _ = failures j max
              rw [hmax, failures_succ (Nat.lt_succ_self j), failures_self]
          · rw [Monitor.read_cons] at hread
            simp [roundMonitor, hn] at hread

/-- What the rounds of a run come to. `es` is what follows a CHANGE_DETECTED, up to the next one. -/
structure HandoverRounds (max : Nat) (s : Sys) (es : List RoundEvent) : Prop where
  /-- A round is announced exactly while the settle timer is armed. -/
  announced_iff : s.nm.announced = true ↔ s.nm.tmrSettle.isRunning = true
  /-- And its CHANGE_DETECTED has been put out, with the failures counted in `attempt` after it. -/
  announced : s.nm.announced = true →
    ∃ before, es = before ++ .detected :: failures 0 s.nm.attempt
  /-- A handover is owed without the timer only after a round that failed to the end. -/
  owed : s.isOwed = true → s.nm.tmrSettle.isRunning = false →
    ∃ before, es = before ++ .detected :: failures 0 max
  /-- The failures of a round are numbered 1, 2, …, and a reset ends it. -/
  numbered : ∀ before mid after, es = before ++ .detected :: mid ++ after → .detected ∉ mid →
    (∃ k ≤ max, mid = failures 0 k) ∨ ∃ k < max, mid = failures 0 k ++ [.reset]
  /-- Between two announcements there is one reset, or as many failures as there are attempts. -/
  complete : ∀ before mid after, es = before ++ .detected :: mid ++ .detected :: after →
    .detected ∉ mid → (∃ k < max, mid = failures 0 k ++ [.reset]) ∨ mid = failures 0 max

theorem read_round {max : Nat} {q : RoundState} {before mid : List RoundEvent} (hmax : 0 < max)
    (hread : (roundMonitor max).read .quiet (before ++ .detected :: mid) = some q)
    (hno : .detected ∉ mid) : q.Explains max 0 mid := by
  rw [Monitor.read_append, Option.bind_eq_some_iff] at hread
  obtain ⟨r, -, hread⟩ := hread
  rw [Monitor.read_cons, Option.bind_eq_some_iff] at hread
  obtain ⟨r', hnext, hread⟩ := hread
  cases r with
  | quiet | exhausted =>
      obtain rfl := Option.some.inj hnext
      exact read_explains hmax hread hno
  | waiting k => cases hnext

theorem exists_last_detected {es : List RoundEvent} (h : .detected ∈ es) :
    ∃ before mid, es = before ++ .detected :: mid ∧ .detected ∉ mid := by
  obtain ⟨mid, before, heq, hno⟩ := List.eq_append_cons_of_mem (List.mem_reverse.mpr h)
  refine ⟨before.reverse, mid.reverse, ?_, by simpa using hno⟩
  rw [← List.reverse_reverse es, heq]
  simp

/-- Where there is a round, it is the last one that explains the state. -/
theorem read_last_round {max : Nat} {q : RoundState} {es : List RoundEvent} (hmax : 0 < max)
    (hread : (roundMonitor max).read .quiet es = some q) (hq : q ≠ .quiet) :
    ∃ before mid, es = before ++ .detected :: mid ∧ q.Explains max 0 mid := by
  by_cases h : .detected ∈ es
  · obtain ⟨before, mid, rfl, hno⟩ := exists_last_detected h
    exact ⟨before, mid, rfl, read_round hmax hread hno⟩
  · exact absurd (read_outside (.inl rfl) hread h).2 hq

/-- The monitor's verdict, in terms of the fields. -/
theorem handoverRounds_of_read {max : Nat} {q : RoundState} {es : List RoundEvent}
    (hread : (roundMonitor max).read .quiet es = some q) (hq : s.nm.roundPart.Follows max q) :
    HandoverRounds max s es := by
  obtain ⟨-, -, hmax, hin⟩ := hq
  have hprefix {before after : List RoundEvent} (h : es = before ++ after) :
      ∃ r, (roundMonitor max).read .quiet before = some r ∧
        (roundMonitor max).read r after = some q := by
    rw [h, Monitor.read_append, Option.bind_eq_some_iff] at hread
    exact hread
  constructor
  case announced_iff =>
    cases q with
    | quiet | exhausted =>
        obtain ⟨hann, hidle, -⟩ := hin
        simp_all [Netmon.roundPart]
    | waiting k =>
        obtain ⟨hann, harmed, -⟩ := hin
        exact iff_of_true hann harmed
  case announced =>
    intro hann
    cases q with
    | quiet | exhausted => exact absurd (hin.1.symm.trans hann) (by decide)
    | waiting k =>
        obtain ⟨before, mid, rfl, -, -, rfl⟩ := read_last_round hmax hread (by simp)
        exact ⟨before, by rw [show s.nm.attempt = k from hin.2.2.1]⟩
  case owed =>
    intro howed hidle
    cases q with
    | quiet => exact absurd (hin.2.2.2.symm.trans howed) (by decide)
    | exhausted =>
        obtain ⟨before, mid, rfl, rfl⟩ := read_last_round hmax hread (by simp)
        exact ⟨before, rfl⟩
    | waiting k => exact absurd (hidle.symm.trans hin.2.1) (by decide)
  case numbered =>
    intro before mid after heq hno
    obtain ⟨r, hr, -⟩ := hprefix heq
    have hexplains := read_round hmax hr hno
    cases r with
    | quiet =>
        obtain ⟨k, -, hlt, hmid⟩ := hexplains
        exact .inr ⟨k, hlt, hmid⟩
    | exhausted => exact .inl ⟨max, Nat.le_refl max, hexplains⟩
    | waiting k =>
        obtain ⟨-, hlt, hmid⟩ := hexplains
        exact .inl ⟨k, Nat.le_of_lt hlt, hmid⟩
  case complete =>
    intro before mid after heq hno
    obtain ⟨r, hr, hrest⟩ := hprefix heq
    have hexplains := read_round hmax hr hno
    cases r with
    | quiet =>
        obtain ⟨k, -, hlt, hmid⟩ := hexplains
        exact .inl ⟨k, hlt, hmid⟩
    | exhausted => exact .inr hexplains
    | waiting k => cases hrest

/-- While there is no address to bind to, the settle timer goes on without using up the round's
attempts. -/
theorem attempt_of_no_address {env : NetEnv} (hrun : (system g).Run Machine.Always s t)
    (hstep : (system g).step s (.settleFires env) = some (s', os)) (hscan : env.scanned = 0)
    (hroutable : env.routable = false) (hlinklocal : env.linklocal = false) :
    s'.nm.attempt = s.nm.attempt ∧ s'.nm.tmrSettle.isRunning = true ∧ rounds os = [] := by
  obtain ⟨q, -, hfollows⟩ := follows_run hrun
  obtain ⟨hen, rfl, rfl⟩ := system_step hstep
  have howed : s.nm.roundPart.owed = true := hfollows.owed (Timer.isRunning_of_isDue hen)
  obtain ⟨hpart, hrounds⟩ := Prod.ext_iff.mp
    (Sys.settleHandler_no_address (g := g) (s := { s.idle with nm.tmrSettle := none })
      hfollows.started howed hscan hroutable hlinklocal)
  exact ⟨congrArg RoundPart.attempt hpart,
    congrArg (fun p => p.tmrSettle.isRunning) hpart, hrounds⟩

/-- **Rounds.** Every run of the SDK announces, tries and ends its handovers as `HandoverRounds` says,
and a wait for an address does not count as an attempt. -/
theorem handover_rounds (hrun : (system g).Run Machine.Always s t) :
    HandoverRounds g.maxAttempts s (rounds t.outs) ∧
      ∀ env s' os, (system g).step s (.settleFires env) = some (s', os) → env.scanned = 0 →
        env.routable = false → env.linklocal = false →
          s'.nm.attempt = s.nm.attempt ∧ s'.nm.tmrSettle.isRunning = true ∧ rounds os = [] := by
  obtain ⟨q, hread, hfollows⟩ := follows_run hrun
  exact ⟨handoverRounds_of_read hread hfollows,
    fun env s' os hstep => attempt_of_no_address hrun hstep⟩

/-- A round that loses its address, fails once and then succeeds. -/
theorem handover_rounds_recovery :
    ∃ s t, (system configInit).Run Machine.Always s t ∧
      HandoverRounds configInit.maxAttempts s (rounds t.outs) ∧
      rounds t.outs = [.detected, .failed 1, .reset] := by
  let lost := { NetEnv.calm with routable := false }
  let failing := { NetEnv.calm with resetTransp := some Errno.other }
  obtain ⟨s, t, hrun, hrounds⟩ := Machine.exists_run_of_exec (fun _ _ => true)
    (justStarted_init configInit)
    [.networkChanged .calm, .elapse 1500, .settleFires lost, .elapse 1000, .settleFires failing,
      .elapse 2000, .settleFires .calm]
    (fun _ t => decide (rounds t.outs = [.detected, .failed 1, .reset])) (by decide +kernel)
  exact ⟨s, t, hrun.always, (handover_rounds hrun.always).1, of_decide_eq_true hrounds⟩

end VoxSdk
