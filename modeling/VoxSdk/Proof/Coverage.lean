import VoxSdk.Proof.CallLemmas
import VoxSdk.Proof.HandlerLemmas
import VoxSdk.Proof.HandoverLemmas

/-!
# Whom a handover reaches

Once the transports are reset, the first `netMaxSnap` accounts that are to be registered are registered
again, and the first `netMaxSnap` calls are stamped with the new generation and dealt with. A list that is
no longer than that is reached whole.
-/

namespace VoxSdk

open Reactive

namespace Call

variable {g : Cfg} {nm : Netmon} {now : Nat} {env : NetEnv} {c d : Call}

/-- What a handover makes of a call: the session already is on the path, or an offer is out, or the
call waits for its turn, or its migration is reported failed. A call is hung up only in the last
case. -/
inductive Outcome (env : NetEnv) (os : List SysOut) (c : Call) : Prop where
  | samePath (laddr : Sa) : c.bc = true → c.netMigState = .idle →
      (env.call c.id).laddr = some laddr → Outcome env os c
  | offered (sa : Sa) : c.bc = true → c.netMigState = .sent ∨ c.netMigState = .done →
      .iceRestart c.id sa ∈ os ∨ .callResetTransp c.id sa ∈ os → Outcome env os c
  | waits : c.bc = true → c.netMigState = .waitAddr ∨ c.netMigState = .deferred → Outcome env os c
  | failed (r : NetReport) : c.bc = true ∨ .uaHangup c.id ∈ os → c.netMigState = .failed →
      .net r ∈ os → r.event = .callMigrationFailed → r.call = some c.id → Outcome env os c

theorem Outcome.mono {os os' : List SysOut} (h : c.Outcome env os) (hle : ∀ o ∈ os, o ∈ os') :
    c.Outcome env os' := by
  cases h with
  | samePath laddr hbc hstate hladdr => exact .samePath laddr hbc hstate hladdr
  | offered sa hbc hstate hout => exact .offered sa hbc hstate (hout.imp (hle _) (hle _))
  | waits hbc hstate => exact .waits hbc hstate
  | failed r hbc hstate hr hevent hcall =>
      exact .failed r (hbc.imp_right (hle _)) hstate (hle _ hr) hevent hcall

theorem Outcome.idle {os : List SysOut} (h : c.Outcome env os) : c.idle.Outcome env os := by
  cases h with
  | samePath laddr hbc hstate hladdr => exact .samePath laddr hbc hstate hladdr
  | offered sa hbc hstate hout => exact .offered sa hbc hstate hout
  | waits hbc hstate => exact .waits hbc hstate
  | failed r hbc hstate hr hevent hcall => exact .failed r hbc hstate hr hevent hcall

theorem Outcome.live {os : List SysOut} (h : c.Outcome env os) :
    c.bc = true ∨ (.uaHangup c.id ∈ os ∧ c.netMigState.isPending = false) := by
  cases h with
  | samePath _ hbc _ _ | offered _ hbc _ _ | waits hbc _ => exact .inl hbc
  | failed _ hbc hstate _ _ _ => exact hbc.imp_right fun hout => ⟨hout, hstate ▸ rfl⟩

theorem outcome_failMigration (hbc : c.bc = true) (err : Errno) :
    (c.failMigration g nm now env err).Outcome env (c.failMigration g nm now env err).out := by
  simp only [failMigration]
  split
  · exact .failed _ (.inr (by simp [closed, emit, report])) rfl
      (List.mem_append_left _ (List.mem_append_right _ List.mem_cons_self)) rfl rfl
  · exact .failed _ (.inl hbc) rfl (List.mem_append_right _ List.mem_cons_self) rfl rfl

theorem outcome_offerPlain (hbc : c.bc = true) :
    (c.offerPlain g nm now env).Outcome env (c.offerPlain g nm now env).out := by
  simp only [offerPlain]
  split
  · split
    · exact outcome_failMigration (c := c.emit _) hbc _
    · exact .waits hbc (.inr rfl)
  · split
    · exact .offered c.netMigLaddr hbc (.inr rfl) (.inr (by simp [emit, report, setMigState]))
    · exact .offered c.netMigLaddr hbc (.inl rfl) (.inr (by simp [emit, report]))

theorem outcome_offer (hbc : c.bc = true) :
    (c.offer g nm now env).Outcome env (c.offer g nm now env).out := by
  simp only [offer]
  split
  · split
    · exact .offered c.netMigLaddr hbc (.inl rfl) (.inl (by simp [offerRestarted, emit, report]))
    · exact .offered c.netMigLaddr hbc (.inl rfl) (.inl (by simp [offerRestarted, emit, report]))
    · exact outcome_offerPlain hbc
    · refine outcome_offerPlain ?_
      unfold reportStale
      split <;> exact hbc
  · exact outcome_offerPlain hbc

theorem laddrRemember_bc (sa : Sa) : (c.laddrRemember sa).bc = c.bc := by
  unfold laddrRemember
  repeat' split
  all_goals rfl

theorem outcome_sendMigration (hbc : c.bc = true) :
    (c.sendMigration g nm now env).Outcome env (c.sendMigration g nm now env).out := by
  unfold sendMigration
  rw [if_neg (by simp [hbc])]
  split
  · split
    · exact .waits hbc (.inr ‹_›)
    · exact .waits hbc (.inr rfl)
  · exact outcome_offer ((laddrRemember_bc _).trans hbc)

theorem rotateFrom_bc (laddr : Sa) : (c.rotateFrom env laddr).2.bc = c.bc := by
  have hnext : (c.nextLaddr env laddr).2.bc = c.bc := by
    unfold nextLaddr
    split <;> rfl
  simp only [rotateFrom]
  split
  · split
    · rename_i heq
      exact (congrArg (fun r => r.2.bc) heq).symm.trans hnext
    · rename_i heq
      exact (congrArg (fun r => r.2.bc) heq).symm.trans hnext
  · rfl

/-- A migration that starts ends in one of the outcomes. -/
theorem outcome_startMigration (hbc : c.bc = true) :
    (c.startMigration g nm now env).Outcome env (c.startMigration g nm now env).out := by
  have hclaim : (c.claim nm now).bc = true := (claim_frame nm now c).2.2.1.trans hbc
  simp only [startMigration]
  rw [if_neg (by simp [hbc])]
  split
  · unfold waitForAddr
    split
    · exact .waits hclaim (.inl ‹_›)
    · exact .waits hclaim (.inl rfl)
  · rename_i laddr _
    have hrotate : ((c.claim nm now).rotateFrom env laddr).2.bc = true :=
      (rotateFrom_bc laddr).trans hclaim
    unfold migrateTo
    simp only
    split
    · rename_i hsame
      simp only [Bool.and_eq_true, decide_eq_true_eq] at hsame
      exact .samePath _ hrotate rfl hsame.1.1
    · exact outcome_sendMigration hrotate

end Call

namespace Account

variable {now : Nat} {a : Account}

/-- Posting keeps whose account it is and what has been put out before. -/
theorem postCopied_appends (ev : RegEvent) (reason : ErrStr) :
    (a.postCopied ev reason).id = a.id ∧ ∃ os, (a.postCopied ev reason).out = a.out ++ os := by
  unfold postCopied regEvPrepare
  by_cases hst : ev.state ≠ .reconnecting
  · simp [hst, reconnectReset, emit]
  · by_cases hsame : a.sameReport ev.error = true
    · simp [hst, hsame, emit]
    · simp [hst, hsame, remember, emit]

/-- The mark of an account that is not terminally refused does not make it so. -/
theorem regReconnecting_keeps (halive : a.Alive) (hauth : a.authFailed = false) :
    a.regReconnecting.id = a.id ∧ a.regReconnecting.authFailed = false := by
  constructor
  · unfold regReconnecting
    repeat' split
    · rfl
    · rfl
    · simp only [postPrepared_eq_postCopied]
      exact (postCopied_appends (a := (Account.setRegState .reconnecting _).keepaliveCancel) _ _).1
  · obtain ⟨-, -, -, -, -, -, hcases⟩ := regReconnecting_spec halive rfl
    split at hcases
    · simp [authFailed, hcases.1]
    · rwa [hcases]

theorem beventRegistering_appends :
    a.beventRegistering.id = a.id ∧ ∃ os, a.beventRegistering.out = a.out ++ os := by
  simp only [beventRegistering]
  split
  · obtain ⟨hid, os, hout⟩ := postCopied_appends (a := a.setRegState .reconnecting)
      (.of .reconnecting a.regError .null)
      (if a.regErrorStr = [] then .null else .buf (strNcpy 4096 a.regErrorStr))
    exact ⟨hid, .regState .reconnecting :: os, by simpa using hout⟩
  · exact ⟨rfl, [.regState .registering, .post (.of .registering .ok .null)], by simp⟩

/-- `ua_register` leaves the request behind, and after it what baresip reports. -/
theorem uaRegister_appends (reporting : Bool) :
    (a.uaRegister reporting).id = a.id ∧
      .uaRegister a.regWanted ∈ (a.uaRegister reporting).out := by
  simp only [uaRegister]
  split
  · obtain ⟨hid, os, hout⟩ := beventRegistering_appends (a := a.emit (.uaRegister a.regWanted))
    exact ⟨hid, by simp [hout]⟩
  · exact ⟨rfl, by simp⟩

theorem watchRegistration_keeps :
    (a.watchRegistration now).id = a.id ∧ (a.watchRegistration now).out = a.out := by
  unfold watchRegistration
  split <;> exact ⟨rfl, rfl⟩

/-- Re-registered from scratch. -/
structure Fresh (a b : Account) : Prop where
  id : b.id = a.id
  retryTmr : b.retryTmr = none
  retryAttempt : b.retryAttempt = 0
  reconnecting : b.reconnecting = true

theorem reregister_fresh (reporting : Bool) (hsnap : a.inSnapshot = true)
    (hauth : a.authFailed = false) :
    a.Fresh (a.reregister now reporting) ∧ .uaRegister true ∈ (a.reregister now reporting).out := by
  obtain ⟨halive, hwanted⟩ := alive_of_inSnapshot hsnap
  obtain ⟨-, -, -, -, -, hcases⟩ := reregister_spec now reporting halive rfl
  rw [hauth] at hcases
  obtain ⟨-, hrec, hretry, -, hattempt⟩ := hcases
  have heq : a.reregister now reporting =
      (uaRegister reporting { a with retryTmr := none, retryAttempt := 0, reconnecting := true
        }).watchRegistration now := by
    simp [reregister, hauth]
  obtain ⟨hid, hout⟩ := uaRegister_appends
    (a := { a with retryTmr := none, retryAttempt := 0, reconnecting := true }) reporting
  refine ⟨⟨?_, hretry, hattempt, hrec⟩, ?_⟩
  · rw [heq, watchRegistration_keeps.1, hid]
  · rw [heq, watchRegistration_keeps.2]
    exact hwanted ▸ hout

end Account

namespace Sys

variable {g : Cfg} {env : NetEnv} {s : Sys}

/-- An account of the snapshot still is one after the mark, and has not become a refused one. -/
theorem mem_reached_noteLink {a : Account}
    (ha : a ∈ reached Account.inSnapshot netMaxSnap s.accounts) (hauth : a.authFailed = false) :
    ∃ b ∈ reached Account.inSnapshot netMaxSnap (s.noteLink env).accounts,
      b.id = a.id ∧ b.authFailed = false := by
  cases hdown : !env.routable && !s.nm.down with
  | false =>
      rw [noteLink_accounts hdown]
      exact ⟨a, ha, rfl, hauth⟩
  | true =>
      rw [noteLink_marks hdown,
        reached_sweep fun a ha => Account.inSnapshot_regReconnecting (a := a.idle) ha]
      refine ⟨_, List.mem_map_of_mem ha, ?_⟩
      exact Account.regReconnecting_keeps (a := a.idle)
        (Account.alive_of_inSnapshot (mem_reached ha).2).1 hauth

theorem reregisterAccounts_reaches {a : Account}
    (ha : a ∈ reached Account.inSnapshot netMaxSnap s.accounts) (hauth : a.authFailed = false) :
    .acct a.id (.uaRegister true) ∈ (s.reregisterAccounts env).out ∧
      ∃ b ∈ (s.reregisterAccounts env).accounts, a.Fresh b := by
  obtain ⟨hfresh, hout⟩ := @Account.reregister_fresh s.now a.idle
    (env.reporting a.id) (mem_reached ha).2 hauth
  constructor
  · refine List.mem_append_right _ ?_
    rw [sweep_outs]
    refine List.mem_flatMap.mpr ⟨a, ha, ?_⟩
    simp only [hauth]
    exact List.mem_cons_of_mem _
      (List.mem_map.mpr ⟨_, hout, congrArg (SysOut.acct · _) hfresh.id⟩)
  · exact ⟨_, work_mem_sweep ha, ⟨hfresh.id, hfresh.retryTmr, hfresh.retryAttempt,
      hfresh.reconnecting⟩⟩

/-- What `migrate_calls` makes of a live call of the snapshot. -/
theorem migrateCalls_reaches {c : Call} (hc : c ∈ s.calls.take netMaxSnap) (hbc : c.bc = true) :
    ∃ d : Call, d.id = c.id ∧ d.netMigGen = s.nm.gen ∧
      d.Outcome env (s.migrateCalls g env).out ∧
      (d ∈ (s.migrateCalls g env).calls ∨ .uaHangup c.id ∈ (s.migrateCalls g env).out) ∧
      (d.netMigState.isPending = true →
        (s.migrateCalls g env).nm.tmrVerify.isRunning = true) := by
  have hidle : c.idle.bc = true := hbc
  have hstart : (c.idle.claim s.nm s.now).Continues (c.idle.startMigration g s.nm s.now env) :=
    (Call.claim_migrates hidle).continues
  obtain ⟨hid, -, -, hgen⟩ := Call.claim_frame s.nm s.now c.idle
  have hstarted : (c.idle.startMigration g s.nm s.now env).Outcome env
      (c.idle.startMigration g s.nm s.now env).out := Call.outcome_startMigration hidle
  have hout := hstarted.mono fun o => mem_out_sweepCalls hc
  have hsame := hstart.id_eq.trans hid
  refine ⟨(c.idle.startMigration g s.nm s.now env).idle, hsame, hstart.gen_eq.trans hgen, hout.idle,
    ?_, fun hp => ?_⟩
  · rcases hout.live with hlive | ⟨hhangup, -⟩
    · exact .inl (List.mem_of_mem_take (mem_take_sweepCalls hc hlive))
    · exact .inr (hsame ▸ hhangup)
  · rcases hout.live with hlive | ⟨-, hsettled⟩
    · refine isRunning_nextVerify (mem_take_sweepCalls hc hlive) ?_
      exact Bool.and_eq_true_iff.mpr ⟨decide_eq_true (hstart.gen_eq.trans hgen), hp⟩
    · exact absurd (hsettled.symm.trans hp) (by decide)

theorem resetDone_gen : (s.resetDone g env).nm.gen = u32 (s.nm.gen + 1) := by
  rw [resetDone_eq]
  split <;> rfl

theorem resetDone_reaches_account {a : Account}
    (ha : a ∈ reached Account.inSnapshot netMaxSnap s.accounts) (hauth : a.authFailed = false) :
    .acct a.id (.uaRegister true) ∈ (s.resetDone g env).out ∧
      ∃ b ∈ (s.resetDone g env).accounts, a.Fresh b := by
  obtain ⟨hout, hfresh⟩ := @reregisterAccounts_reaches env
    ((s.newGeneration.updateCurLaddr env).emitNet .transportReset none 0) a ha hauth
  rw [resetDone_eq]
  split
  -- the accounts come before the calls, whose outputs follow theirs
  · exact ⟨List.mem_append_left _ hout, hfresh⟩
  · exact ⟨hout, hfresh⟩

theorem resetDone_reaches_call (hreinvite : s.nm.reinviteCalls = true) {c : Call}
    (hc : c ∈ s.calls.take netMaxSnap) (hbc : c.bc = true) :
    ∃ d : Call, d.id = c.id ∧ d.netMigGen = (s.resetDone g env).nm.gen ∧
      d.Outcome env (s.resetDone g env).out ∧
      (d ∈ (s.resetDone g env).calls ∨ .uaHangup c.id ∈ (s.resetDone g env).out) ∧
      (d.netMigState.isPending = true → (s.resetDone g env).nm.tmrVerify.isRunning = true) := by
  rw [resetDone_gen, resetDone_eq, if_pos hreinvite]
  exact migrateCalls_reaches
    (s := ((s.newGeneration.updateCurLaddr env).emitNet .transportReset none 0).reregisterAccounts env)
    hc hbc

end Sys

/-- **Whom a handover reaches.** When the transports are reset, each of the first `netMaxSnap` accounts
that are to be registered, unless its credentials were refused, is registered again from scratch, and
with re-INVITEs on, each of the first `netMaxSnap` calls is of the new generation and has an outcome. What
is still pending is left to the verify timer. -/
theorem handover_coverage {g : Cfg} {s s' : Sys} {env : NetEnv} {os : List SysOut}
    (hstarted : s.nm.started = true) (hstarts : s.startsGeneration env = true)
    (hstep : (system g).step s (.settleFires env) = some (s', os)) :
    s'.nm.gen = u32 (s.nm.gen + 1) ∧
    (∀ a ∈ reached Account.inSnapshot netMaxSnap s.accounts, a.authFailed = false →
      .acct a.id (.uaRegister true) ∈ os ∧ ∃ b ∈ s'.accounts, a.Fresh b) ∧
    (s.nm.reinviteCalls = true → ∀ c ∈ s.calls.take netMaxSnap, c.bc = true →
      ∃ d : Call, d.id = c.id ∧ d.netMigGen = s'.nm.gen ∧ d.Outcome env os ∧
        (d ∈ s'.calls ∨ .uaHangup c.id ∈ os) ∧
        (d.netMigState.isPending = true → s'.nm.tmrVerify.isRunning = true)) := by
  obtain ⟨-, rfl, rfl⟩ := system_step hstep
  obtain ⟨os, heq⟩ := Sys.settleHandler_of_startsGeneration (g := g)
    (s := { s.idle with nm.tmrSettle := none }) hstarted hstarts
  have hpolicy := @Sys.noteLink_policy env { s.idle with nm.tmrSettle := none, nm.waitTicks := 0 }
  simp only [Sys.handle]
  rw [heq]
  refine ⟨?_, fun a ha hauth => ?_, fun hreinvite c hc hbc => ?_⟩
  · exact Sys.resetDone_gen.trans (congrArg (fun n => u32 (n + 1)) hpolicy.1)
  · obtain ⟨b, hb, hid, hauth'⟩ := @Sys.mem_reached_noteLink env
      { s.idle with nm.tmrSettle := none, nm.waitTicks := 0 } a ha hauth
    obtain ⟨hout, d, hd, hfresh⟩ := @Sys.resetDone_reaches_account g env (Sys.emit os _) b hb hauth'
    exact ⟨hid ▸ hout, d, hd, ⟨hfresh.id.trans hid, hfresh.retryTmr, hfresh.retryAttempt,
      hfresh.reconnecting⟩⟩
  · refine Sys.resetDone_reaches_call (s := Sys.emit os _) (hpolicy.2.trans hreinvite) ?_ hbc
    exact (congrArg (List.take netMaxSnap) Sys.noteLink_frame.2).symm ▸ hc

/-- The first forced request reaches the only account and the only call. -/
theorem handover_coverage_forced :
    ∃ (s' : Sys) (os : List SysOut), s'.nm.gen = 1 ∧ .acct 1 (.uaRegister true) ∈ os ∧
      ∃ d : Call, d.id = 2 ∧ d.netMigGen = 1 ∧ d.Outcome .calm os := by
  obtain ⟨s, t, -, hend⟩ := Machine.exists_run_of_exec (fun _ _ => true)
    (justStarted_init configInit)
    [.createAccount 1 (.plain "sip.example.org".toList) none, .account 1 (.register false true),
      .createCall 2 none .calling, .callEstablished 2, .networkChanged .calm, .elapse 1500]
    (fun s _ => s.nm.started && s.startsGeneration .calm && s.enabled (.settleFires .calm) &&
      s.nm.reinviteCalls && decide (s.nm.gen = 0) &&
      (reached Account.inSnapshot netMaxSnap s.accounts).any
        (fun a => decide (a.id = 1) && !a.authFailed) &&
      (s.calls.take netMaxSnap).any fun c => decide (c.id = 2) && c.bc)
    (by decide +kernel)
  simp only [Bool.and_eq_true, decide_eq_true_eq, List.any_eq_true, Bool.not_eq_true'] at hend
  obtain ⟨⟨⟨⟨⟨⟨hstarted, hstarts⟩, hen⟩, hreinvite⟩, hzero⟩, a, ha, hid, hauth⟩, c, hc, hcid,
    hbc⟩ := hend
  obtain ⟨hgen, haccounts, hcalls⟩ :=
    handover_coverage (g := configInit) hstarted hstarts (if_pos hen)
  have hone := hgen.trans (by rw [hzero])
  obtain ⟨d, hdid, hdgen, houtcome, -⟩ := hcalls hreinvite c hc hbc
  exact ⟨_, _, hone, hid ▸ (haccounts a ha hauth).1, d, hdid.trans hcid, hdgen.trans hone, houtcome⟩

/-- The sixty-fifth account is not registered again, and a call whose only attempt fails to send its
offer is left neither migrated nor pending. -/
theorem handover_skips :
    (¬ ∀ (g : Cfg) (s s' : Sys) (t : Trace SysAct SysOut) (env : NetEnv) (os : List SysOut),
      (system g).Run Machine.Always s t → s.startsGeneration env = true →
        (system g).step s (.settleFires env) = some (s', os) →
          ∀ a ∈ s.accounts, a.inSnapshot = true → a.authFailed = false →
            .acct a.id (.uaRegister true) ∈ os) ∧
    ¬ ∀ (g : Cfg) (s s' : Sys) (t : Trace SysAct SysOut) (env : NetEnv) (os : List SysOut),
      (system g).Run Machine.Always s t → s.startsGeneration env = true →
        (system g).step s (.settleFires env) = some (s', os) →
          ∀ c ∈ s'.calls, c.netMigState ≠ .failed := by
  constructor
  · intro h
    obtain ⟨s, t, hrun, hend⟩ := Machine.exists_run_of_exec (fun _ _ => true)
      (justStarted_init configInit)
      ((List.range 65).flatMap (fun id =>
          [.createAccount id (.plain "sip.example.org".toList) none,
            .account id (.register false true)]) ++
        [.networkChanged .calm, .elapse 1500])
      (fun s _ => s.startsGeneration .calm && s.enabled (.settleFires .calm) &&
        s.accounts.any fun a => a.inSnapshot && !a.authFailed && decide
          (.acct a.id (.uaRegister true) ∉ (s.idle.handle configInit (.settleFires .calm)).out))
      (by decide +kernel)
    simp only [Bool.and_eq_true, decide_eq_true_eq, List.any_eq_true, Bool.not_eq_true'] at hend
    obtain ⟨⟨hstarts, hen⟩, a, ha, ⟨hsnap, hauth⟩, hmissing⟩ := hend
    exact hmissing (h _ s _ t .calm _ hrun.always hstarts (if_pos hen) a ha hsnap hauth)
  · intro h
    let g := { configInit with netMaxAttempts := 1 }
    let env := { NetEnv.calm with
      call := fun id =>
        { NetEnv.calm.call id with laddr := some (.v4 0xc0000208), resetTransp := some .timedout } }
    obtain ⟨s, t, hrun, hend⟩ := Machine.exists_run_of_exec (fun _ _ => true) (justStarted_init g)
      [.createCall 1 none .calling, .callEstablished 1, .networkChanged .calm, .elapse 1500]
      (fun s _ => s.startsGeneration env && s.enabled (.settleFires env) &&
        (s.idle.handle g (.settleFires env)).calls.any fun c => decide (c.netMigState = .failed))
      (by decide +kernel)
    simp only [Bool.and_eq_true, decide_eq_true_eq, List.any_eq_true] at hend
    obtain ⟨⟨hstarts, hen⟩, c, hc, hfailed⟩ := hend
    exact h g s _ t env _ hrun.always hstarts (if_pos hen) c hc hfailed

end VoxSdk
