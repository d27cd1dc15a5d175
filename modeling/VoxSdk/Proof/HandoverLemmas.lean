import VoxSdk.System

/-!
# What a handover's functions leave alone

The loops touch the accounts or the calls, `arm_verify` the verify timer, and only
`netmon_trigger`, `settle_handler` and what they call touch the rest of `struct vox_netmon`.
-/

namespace VoxSdk

open Reactive

/-- The fields the handover state machine itself works with. -/
structure RoundPart where
  started : Bool
  tmrSettle : Timer
  resetPending : Bool
  force : Bool
  announced : Bool
  attempt : Nat
  maxAttempts : Nat
  settleMs : Nat

def Netmon.roundPart (nm : Netmon) : RoundPart :=
  { started := nm.started
    tmrSettle := nm.tmrSettle
    resetPending := nm.resetPending
    force := nm.force
    announced := nm.announced
    attempt := nm.attempt
    maxAttempts := nm.maxAttempts
    settleMs := nm.settleMs }

theorem Account.flush_snd (a : Account) : a.flush.2 = a.out.map (.acct a.id) := rfl

theorem Call.flush_snd (c : Call) : c.flush.2 = c.out := rfl

namespace Sys

variable {g : Cfg} {env : NetEnv} {s : Sys}

@[simp]
theorem emit_frame (os : List SysOut) :
    (s.emit os).now = s.now ∧ (s.emit os).accounts = s.accounts ∧ (s.emit os).calls = s.calls ∧
      (s.emit os).nm = s.nm ∧ (s.emit os).out = s.out ++ os := ⟨rfl, rfl, rfl, rfl, rfl⟩

@[simp]
theorem emitNet_frame (what : NetEvent) (err : Option Errno) (attempt : Nat) :
    (s.emitNet what err attempt).now = s.now ∧
      (s.emitNet what err attempt).accounts = s.accounts ∧
      (s.emitNet what err attempt).calls = s.calls ∧ (s.emitNet what err attempt).nm = s.nm ∧
      (s.emitNet what err attempt).out = s.out ++ [.net (s.netReport what none err attempt)] :=
  ⟨rfl, rfl, rfl, rfl, rfl⟩

@[simp]
theorem updateCurLaddr_frame :
    (s.updateCurLaddr env).now = s.now ∧ (s.updateCurLaddr env).accounts = s.accounts ∧
      (s.updateCurLaddr env).calls = s.calls ∧ (s.updateCurLaddr env).out = s.out ∧
      (s.updateCurLaddr env).nm = { s.nm with curLaddr := strNcpy 64 env.curLaddr } :=
  ⟨rfl, rfl, rfl, rfl, rfl⟩

@[simp]
theorem sweepAccounts_frame (work : Account → Account × List SysOut) :
    (s.sweepAccounts work).now = s.now ∧ (s.sweepAccounts work).calls = s.calls ∧
      (s.sweepAccounts work).nm = s.nm ∧
      (s.sweepAccounts work).accounts = (sweep Account.inSnapshot work netMaxSnap s.accounts).1 ∧
      (s.sweepAccounts work).out =
        s.out ++ (sweep Account.inSnapshot work netMaxSnap s.accounts).2 :=
  ⟨rfl, rfl, rfl, rfl, rfl⟩

@[simp]
theorem markAccountsReconnecting_frame :
    s.markAccountsReconnecting.now = s.now ∧ s.markAccountsReconnecting.calls = s.calls ∧
      s.markAccountsReconnecting.nm = s.nm :=
  ⟨rfl, rfl, rfl⟩

@[simp]
theorem handoverAccountsToRetry_frame :
    (s.handoverAccountsToRetry g env).now = s.now ∧
      (s.handoverAccountsToRetry g env).calls = s.calls ∧
      (s.handoverAccountsToRetry g env).nm = s.nm :=
  ⟨rfl, rfl, rfl⟩

@[simp]
theorem failPendingMigrations_frame (err : Errno) :
    (s.failPendingMigrations g env err).now = s.now ∧
      (s.failPendingMigrations g env err).accounts = s.accounts ∧
      (s.failPendingMigrations g env err).nm = s.nm :=
  ⟨rfl, rfl, rfl⟩

@[simp]
theorem migrateCalls_frame :
    (s.migrateCalls g env).now = s.now ∧ (s.migrateCalls g env).accounts = s.accounts ∧
      (s.migrateCalls g env).nm =
        { s.nm with
          tmrVerify := (s.sweepCalls (Call.startMigration g s.nm s.now env)).nextVerify } :=
  ⟨rfl, rfl, rfl⟩

@[simp]
theorem linkDown_frame (curLaddr : CStr) :
    (s.linkDown curLaddr).now = s.now ∧ (s.linkDown curLaddr).calls = s.calls ∧
      (s.linkDown curLaddr).nm.waitTicks = s.nm.waitTicks := by
  unfold linkDown
  split <;> exact ⟨rfl, rfl, rfl⟩

@[simp]
theorem linkUp_frame :
    (s.linkUp env).now = s.now ∧ (s.linkUp env).calls = s.calls ∧
      (s.linkUp env).accounts = s.accounts := by
  unfold linkUp
  split <;> exact ⟨rfl, rfl, rfl⟩

@[simp]
theorem noteLink_frame :
    (s.noteLink env).now = s.now ∧ (s.noteLink env).calls = s.calls := by
  unfold noteLink
  split
  · exact ⟨(linkDown_frame _).1, (linkDown_frame _).2.1⟩
  · exact ⟨linkUp_frame.1, linkUp_frame.2.1⟩

/-! ### The calls of the snapshot -/

theorem sweepCalls_calls (work : Call → Call) :
    (s.sweepCalls work).calls =
      ((s.calls.take netMaxSnap).map fun c => (work c.idle).idle).filter Call.bc ++
        (s.calls.drop netMaxSnap).filter Call.bc := by
  rw [← List.filter_append]
  exact congrArg _ sweep_all

theorem mem_take_sweepCalls {work : Call → Call} {c : Call} (hc : c ∈ s.calls.take netMaxSnap)
    (hbc : (work c.idle).bc = true) :
    (work c.idle).idle ∈ (s.sweepCalls work).calls.take netMaxSnap := by
  have hlen : (((s.calls.take netMaxSnap).map fun c => (work c.idle).idle).filter
      Call.bc).length ≤ netMaxSnap := by
    refine (List.length_filter_le _ _).trans ?_
    rw [List.length_map]
    exact List.length_take_le _ _
  rw [sweepCalls_calls, List.take_append, List.take_of_length_le hlen]
  exact List.mem_append_left _ (List.mem_filter.mpr ⟨List.mem_map_of_mem hc, hbc⟩)

/-- A call after a loop over the snapshot: worked on, or past it. -/
theorem mem_sweepCalls {work : Call → Call} {d : Call} (h : d ∈ (s.sweepCalls work).calls) :
    d.bc = true ∧
      ((∃ c ∈ s.calls.take netMaxSnap, d = (work c.idle).idle) ∨ d ∈ s.calls.drop netMaxSnap) := by
  rw [sweepCalls_calls] at h
  rcases List.mem_append.mp h with hfirst | hrest
  · obtain ⟨hmem, hbc⟩ := List.mem_filter.mp hfirst
    obtain ⟨c, hc, rfl⟩ := List.mem_map.mp hmem
    exact ⟨hbc, .inl ⟨c, hc, rfl⟩⟩
  · obtain ⟨hmem, hbc⟩ := List.mem_filter.mp hrest
    exact ⟨hbc, .inr hmem⟩

theorem mem_out_sweepCalls {work : Call → Call} {c : Call} (hc : c ∈ s.calls.take netMaxSnap)
    {o : SysOut} (ho : o ∈ (work c.idle).out) : o ∈ (s.sweepCalls work).out := by
  refine List.mem_append_right _ ?_
  rw [sweep_outs]
  exact List.mem_flatMap.mpr ⟨c, by simpa [reached] using hc, ho⟩

/-- `arm_verify` arms the timer for a pending call of the snapshot. -/
theorem isRunning_nextVerify {c : Call} (hc : c ∈ s.calls.take netMaxSnap)
    (howed : c.isOwed s.nm = true) : s.nextVerify.isRunning = true := by
  have hmem : c ∈ s.pendingCalls := List.mem_filter.mpr ⟨hc, howed⟩
  unfold nextVerify
  rw [if_neg (by simpa using List.ne_nil_of_mem hmem)]
  rfl

/-! ### A handover -/

theorem noteLink_policy :
    (s.noteLink env).nm.gen = s.nm.gen ∧
      (s.noteLink env).nm.reinviteCalls = s.nm.reinviteCalls := by
  unfold noteLink linkDown linkUp
  repeat' split
  all_goals exact ⟨rfl, rfl⟩

/-- Unless the link goes down just then, the accounts are not marked again. -/
theorem noteLink_accounts (h : (!env.routable && !s.nm.down) = false) :
    (s.noteLink env).accounts = s.accounts := by
  cases hroutable : env.routable with
  | true => simp [noteLink, hroutable]
  | false =>
      have hdown : s.nm.down = true := by simpa [hroutable] using h
      simp [noteLink, linkDown, hroutable, hdown]

theorem noteLink_marks (h : (!env.routable && !s.nm.down) = true) :
    (s.noteLink env).accounts =
      (sweep Account.inSnapshot (fun a => a.idle.regReconnecting.flush) netMaxSnap
        s.accounts).1 := by
  simp only [Bool.and_eq_true, Bool.not_eq_true'] at h
  simp only [noteLink, linkDown, h.1, h.2]
  rfl

variable (g env s) in
/-- The resolvers are refreshed and the transports reset, and the rest follows from the answer. -/
theorem resetTransports_eq :
    ∃ os, s.resetTransports g env = (s.emit os).resetOutcome g env ∧ ∀ o ∈ os, o = .dnsRefresh ∨
      o = .uagResetTransp := by
  unfold resetTransports
  split
  · exact ⟨[.uagResetTransp], rfl, by simp⟩
  · exact ⟨[.dnsRefresh, .uagResetTransp], by simp [emit], by simp⟩

theorem restartSettle_roundPart :
    s.restartSettle.nm.roundPart =
      { s.nm.roundPart with tmrSettle := Timer.start s.now s.nm.settleMs } := rfl

variable (g env s) in
theorem resetDone_eq :
    let r := ((s.newGeneration.updateCurLaddr env).emitNet .transportReset none 0).reregisterAccounts
      env
    s.resetDone g env = if s.nm.reinviteCalls then r.migrateCalls g env else r := rfl

/-- A reset re-registers the accounts, and does no more with them. -/
theorem resetDone_accounts :
    (s.resetDone g env).accounts =
      (((s.newGeneration.updateCurLaddr env).emitNet .transportReset none 0).reregisterAccounts
        env).accounts := by
  simp only [resetDone]
  split <;> simp

/-- Settling starts a new generation: nothing is moving, a handover is owed, there is an address to
bind and the transports are reset. -/
def startsGeneration (env : NetEnv) (s : Sys) : Bool :=
  decide (env.scanned = 0) && s.isOwed && (env.routable || env.linklocal) && env.resetTransp.isNone

theorem settleHandler_of_startsGeneration (hstarted : s.nm.started = true)
    (hstarts : s.startsGeneration env = true) :
    ∃ os, s.settleHandler g env =
      ((({ s with nm.waitTicks := 0 }).noteLink env).emit os).resetDone g env := by
  simp only [startsGeneration, Bool.and_eq_true, decide_eq_true_eq, Option.isNone_iff_eq_none]
    at hstarts
  obtain ⟨⟨⟨hscan, howed⟩, hbind⟩, htransp⟩ := hstarts
  obtain ⟨os, heq, -⟩ := resetTransports_eq g env (({ s with nm.waitTicks := 0 }).noteLink env)
  have hbound : ¬(!env.routable && !env.linklocal) = true := by
    rw [← Bool.not_or, hbind]
    decide
  refine ⟨os, ?_⟩
  rw [settleHandler, if_neg (by simp [hstarted]), if_neg (by simp [hscan]), if_neg (by simp [howed]),
    applyHandover, if_neg hbound, heq, resetOutcome, htransp]

/-- Giving up hands the accounts to their retry, and does no more with them. -/
theorem giveUp_accounts (err : Errno) :
    (s.giveUp g env err).accounts =
      (({ s with nm.attempt := 0 }).handoverAccountsToRetry g env).accounts := by
  simp [giveUp]

theorem announce_of_announced (h : s.nm.announced = true) : s.announce env = s := by
  simp [announce, h]

theorem announce_roundPart :
    (s.announce env).nm.roundPart = { s.nm.roundPart with announced := true } := by
  cases h : s.nm.announced with
  | true => simp [announce_of_announced h, Netmon.roundPart, h]
  | false => simp [announce, h, Netmon.roundPart]

variable (env s) in
@[simp]
theorem announce_frame :
    (s.announce env).now = s.now ∧ (s.announce env).calls = s.calls ∧
      (s.announce env).nm.settleMs = s.nm.settleMs := by
  refine ⟨?_, ?_, congrArg RoundPart.settleMs announce_roundPart⟩ <;>
    · unfold announce
      split <;> rfl

theorem netmonTrigger_of_owed {forced : Bool} (hstarted : s.nm.started = true)
    (howed : (s.noteChange env forced).isOwed = true) :
    s.netmonTrigger env forced = ((s.noteChange env forced).announce env).restartSettle := by
  simp [netmonTrigger, hstarted, howed]

theorem noteChange_of_not_owed {forced : Bool} (howed : (s.noteChange env forced).isOwed = false) :
    s.noteChange env forced = s := by
  simp only [isOwed, noteChange, Bool.or_eq_false_iff] at howed
  obtain ⟨⟨hpending, hscan⟩, hforce, hforced⟩ := howed
  simp [noteChange, hscan, hforced]

theorem netmonTrigger_of_not_owed {forced : Bool} (hstarted : s.nm.started = true)
    (howed : (s.noteChange env forced).isOwed = false) : s.netmonTrigger env forced = s := by
  have hsame := noteChange_of_not_owed howed
  rw [hsame] at howed
  simp [netmonTrigger, hstarted, hsame, howed]

/-- `poll_handler` re-arms its own timer besides. -/
theorem pollHandler_eq (env : NetEnv) (hstarted : s.nm.started = true) :
    ∃ tmrPoll, s.pollHandler env =
      { s.netmonTrigger env false with
        nm := { (s.netmonTrigger env false).nm with tmrPoll := tmrPoll } } := by
  simp only [pollHandler, hstarted]
  split
  · contradiction
  · split
    · exact ⟨(s.netmonTrigger env false).nm.tmrPoll, rfl⟩
    · exact ⟨_, rfl⟩

theorem callRefreshable_eq (id : Nat) :
    s.callRefreshable id = s ∨ s.callRefreshable id = s.bounceVerify := by
  unfold callRefreshable
  split
  · exact .inl rfl
  · split
    · exact .inr rfl
    · exact .inl rfl

variable (g env s) in
theorem statsTick_eq (id packets : Nat) (setupPending : Bool) :
    let s' := s.onCall id fun c => (c.stallRepair g s.nm s.now env packets setupPending).1
    s.statsTick g env id packets setupPending = s' ∨
      s.statsTick g env id packets setupPending = s'.bounceVerify := by
  simp only [statsTick]
  split
  · exact .inr rfl
  · exact .inl rfl

/-- The events that do not concern the handover state machine do not touch its fields. -/
def disturbs : SysAct → Bool
  | .networkChanged _ | .pollFires _ | .settleFires _ => true
  | _ => false

theorem handle_roundPart {act : SysAct} (h : disturbs act = false) :
    (s.handle g act).nm.roundPart = s.nm.roundPart := by
  cases act with
  | networkChanged _ | pollFires _ | settleFires _ => cases h
  | callEstablished id | callResumed id =>
      simp only [handle]
      rcases callRefreshable_eq (s := s.onCall id _) id with heq | heq <;> rw [heq] <;> rfl
  | statsTick id packets setupPending env =>
      simp only [handle]
      rcases statsTick_eq g env s id packets setupPending with heq | heq <;>
        rw [heq] <;> rfl
  | verifyFires env =>
      simp only [handle, verifyHandler]
      split <;> rfl
  | _ => rfl

/-- The events that concern the accounts. -/
def touchesAccounts : SysAct → Bool
  | .createAccount .. | .destroyAccount _ | .account .. => true
  | act => disturbs act

theorem handle_accounts {act : SysAct} (h : touchesAccounts act = false) :
    (s.handle g act).accounts = s.accounts := by
  cases act with
  | createAccount _ _ _ | destroyAccount _ | account _ _ | networkChanged _ | pollFires _
  | settleFires _ => cases h
  | callEstablished id | callResumed id =>
      simp only [handle]
      rcases callRefreshable_eq (s := s.onCall id _) id with heq | heq <;> rw [heq] <;> rfl
  | statsTick id packets setupPending env =>
      simp only [handle]
      rcases statsTick_eq g env s id packets setupPending with heq | heq <;> rw [heq] <;> rfl
  | verifyFires env =>
      simp only [handle, verifyHandler]
      split <;> rfl
  | _ => rfl

end Sys

end VoxSdk
