import VoxSdk.Proof.HandlerLemmas

/-!
# A recovery does not flicker

While the account reports RECONNECTING it holds `reconnecting`, so a REGISTER that goes out on its behalf
is reported as RECONNECTING again and not as REGISTERING. The flag is set and cleared in many handlers;
whichever of them runs, an account that is left in RECONNECTING is left with the flag. Only the app's own
call can take the flag away and leave the state, which is why the runs here are free of those.
-/

namespace VoxSdk

open Reactive

/-- The states of a recovery and its two ends. -/
def RegState.ofRecovery : RegState → Bool
  | .reconnecting | .registered | .failed => true
  | _ => false

/-- Neither a state written nor an event posted leaves the recovery. -/
def AcctOut.ofRecovery : AcctOut → Bool
  | .regState st => st.ofRecovery
  | .post ev => ev.state.ofRecovery
  | _ => true

/-- A call of the public API. -/
def AcctAct.byApp : AcctAct → Bool
  | .register .. | .unregister _ | .retryNow _ | .cancelRetry | .setRetryPolicy .. |
    .setPushToken .. | .keepaliveNow .. => true
  | _ => false

namespace Account

variable (g : Cfg) (now : Nat) {a b : Account}

/-- A REGISTER sent now would be reported as part of the recovery. -/
def Flagged (a : Account) : Prop := a.regState = .reconnecting → a.reconnecting = true

/-- In the step under way the account has been in no state, and has posted none, that is not of a
recovery. -/
structure Steady (a : Account) : Prop where
  state : a.regState.ofRecovery = true
  said : ∀ o ∈ a.out, o.ofRecovery = true

/-! ### What a handler says -/

theorem Steady.after (h : a.Steady) (os : List AcctOut) (hos : os.all AcctOut.ofRecovery = true)
    (hout : b.out = a.out ++ os) (hstate : b.regState.ofRecovery = true) : b.Steady := by
  refine ⟨hstate, fun o ho => ?_⟩
  rcases List.mem_append.mp (hout ▸ ho) with hold | hnew
  · exact h.said o hold
  · exact List.all_eq_true.mp hos o hnew

theorem Steady.congr (h : a.Steady) (hout : b.out = a.out) (hstate : b.regState = a.regState) :
    b.Steady :=
  h.after [] rfl (by simp [hout]) (hstate ▸ h.state)

theorem Steady.postCopied (h : a.Steady) {ev : RegEvent} (hev : ev.state.ofRecovery = true)
    (reason : ErrStr) : (a.postCopied ev reason).Steady := by
  unfold Account.postCopied regEvPrepare
  by_cases hst : ev.state ≠ .reconnecting
  · simp only [hst, ne_eq, not_false_eq_true, if_true]
    exact h.after [_] (by simp [AcctOut.ofRecovery, stamp, hev]) rfl h.state
  · simp only [hst, if_false]
    by_cases hsame : a.sameReport ev.error = true
    · simp only [hsame, if_true]
      exact h.after [.suppressed _] rfl rfl h.state
    · simp only [hsame, Bool.false_eq_true, if_false]
      exact h.after [_] (by simp [AcctOut.ofRecovery, stamp, hev]) rfl h.state

theorem Steady.postPrepared (h : a.Steady) {ev : RegEvent} (hev : ev.state.ofRecovery = true) :
    (a.postPrepared ev).Steady := by
  rw [postPrepared_eq_postCopied]
  exact h.postCopied hev _

theorem Steady.keepaliveArm (h : a.Steady) : (a.keepaliveArm g now).Steady := by
  apply h.congr
  · simp
  · simp

theorem Steady.scheduleRetry (h : a.Steady) (rand : Nat) : (a.scheduleRetry g now rand).Steady := by
  unfold Account.scheduleRetry
  split
  · exact h
  · split
    · by_cases hst : a.regState ≠ .reconnecting
      · exact h.congr (by simp [hst]) (by simp [hst])
      · simp only [hst, if_false]
        apply Steady.postPrepared _ rfl
        exact h.after [.regState .failed] rfl rfl rfl
    · refine Steady.congr (Steady.postPrepared (h.after [.regState .reconnecting] ?_ ?_ ?_) ?_) rfl rfl
      all_goals rfl

/-- With the flag set, a REGISTER is reported as RECONNECTING. -/
theorem Steady.uaRegister (h : a.Steady) (hflag : a.reconnecting = true) (reporting : Bool) :
    (a.uaRegister reporting).Steady := by
  unfold Account.uaRegister
  cases reporting with
  | false => exact h.after [.uaRegister a.regWanted] rfl rfl h.state
  | true =>
      have hrec : (a.emit (.uaRegister a.regWanted)).reconnecting = true := by simpa using hflag
      simp only [if_true, beventRegistering, hrec]
      apply Steady.postCopied _ rfl
      exact h.after [.uaRegister a.regWanted, .regState .reconnecting] rfl
        (by simp [Account.setRegState]) rfl

theorem Steady.watchRegistration (h : a.Steady) : (a.watchRegistration now).Steady := by
  unfold Account.watchRegistration
  split
  · exact h
  · exact h.congr rfl rfl

theorem Steady.srvAdvance (h : a.Steady) : a.srvAdvance.Steady := by
  unfold Account.srvAdvance
  split
  · exact h
  · exact h.after [.setOutbound _] rfl rfl h.state

/-- A failure is reported as RECONNECTING or as FAILED. -/
theorem regFailState_ofRecovery (err : VoxError) : (a.regFailState g err).1.ofRecovery = true := by
  unfold regFailState
  cases a.willRetry g err <;> rfl

theorem Steady.beventRegisterFail (h : a.Steady) (reason : Option CStr) (rand : Nat) :
    (a.beventRegisterFail g now reason rand).Steady := by
  have hstate := a.regFailState_ofRecovery g (registerFailError reason)
  have hsaid : [AcctOut.regState (a.regFailState g (registerFailError reason)).1].all
      AcctOut.ofRecovery = true := by
    simpa [AcctOut.ofRecovery] using hstate
  unfold Account.beventRegisterFail
  refine Steady.postCopied ?_ hstate _
  split
  · apply Steady.scheduleRetry
    exact h.after _ hsaid rfl hstate
  · exact h.after _ hsaid rfl hstate

theorem Steady.regWatchHandler (h : a.Steady) (registered : Bool) (rand : Nat) :
    (a.regWatchHandler g now registered rand).Steady := by
  simp only [Account.regWatchHandler]
  split
  · exact h
  · split
    · exact h
    · split
      · exact h
      · split
        · refine Steady.postPrepared (Steady.keepaliveArm g now ?_) rfl
          exact h.after [.registrarWarning, .regState .registered] rfl
            (by simp [Account.setRegState, Account.emit]) rfl
        · split
          · have hstate (b : Account) := b.regFailState_ofRecovery g .timeout
            apply Steady.scheduleRetry
            refine Steady.postPrepared ?_ (hstate _)
            exact h.after [.regState _] (by simpa [AcctOut.ofRecovery] using hstate _) rfl (hstate _)
          · exact h.congr rfl rfl

theorem Steady.keepaliveHandler (h : a.Steady) (inCall sendErr : Bool) :
    (a.keepaliveHandler g now inCall sendErr).Steady := by
  unfold Account.keepaliveHandler
  split
  · exact h
  · split
    · exact h
    · split
      · exact h.keepaliveArm g now
      · split
        · exact h
        · split
          · apply Steady.keepaliveArm
            exact h.congr rfl rfl
          · exact h.after [.uaOptionsSend _] rfl rfl h.state

theorem Steady.keepaliveRespHandler (h : a.Steady) (answered registered : Bool) (rand : Nat) :
    (a.keepaliveRespHandler g now answered registered rand).Steady := by
  simp only [Account.keepaliveRespHandler]
  split
  · exact h
  · split
    · apply Steady.keepaliveArm
      split
      · refine Steady.postPrepared ?_ rfl
        exact h.after [.regState .registered] rfl rfl rfl
      · exact h.congr rfl rfl
    · cases hre : (g.keepaliveReregister && a.regWanted) with
      | true =>
          simp only [emit_frame, hre, if_true]
          generalize hfail : Account.regFailState g .timeout _ = r
          have hstate : r.1.ofRecovery = true := hfail ▸ regFailState_ofRecovery g .timeout
          have hout : r.2.out = a.out ++ [.registrarWarning] := by
            rw [← hfail]
            rfl
          apply Steady.scheduleRetry
          refine Steady.postPrepared ?_ hstate
          exact h.after [.registrarWarning, .regState r.1] (by simpa [AcctOut.ofRecovery] using hstate)
            (by simp [Account.setRegState, hout]) hstate
      | false =>
          simp only [emit_frame, hre, Bool.false_eq_true, if_false]
          have hstate : (if a.regWanted = true then RegState.reconnecting else .failed).ofRecovery =
              true := by
            split <;> rfl
          apply Steady.keepaliveArm
          refine Steady.postPrepared ?_ hstate
          exact h.after [.registrarWarning, .regState _]
            (by simpa [AcctOut.ofRecovery] using hstate) (by simp [Account.setRegState]) hstate

theorem Steady.regReconnecting (h : a.Steady) : a.regReconnecting.Steady := by
  unfold Account.regReconnecting
  split
  · exact h
  · split
    · exact h
    · refine Steady.postPrepared ?_ rfl
      exact h.after [.regState .reconnecting] rfl rfl rfl

theorem Steady.reregister (h : a.Steady) (reporting : Bool) :
    (a.reregister now reporting).Steady := by
  unfold Account.reregister
  split
  · exact h
  · apply Steady.watchRegistration
    refine Steady.uaRegister ?_ rfl reporting
    exact h.congr rfl rfl

/-- Whatever happens to an account that holds the flag, other than a call of the app, what is said is of
the recovery. -/
theorem Steady.handle (h : a.Steady) {act : AcctAct} (happ : act.byApp = false)
    (hflag : a.reconnecting = true) : (a.handle g now act).Steady := by
  cases act with
  | register dnsErr reporting => cases happ
  | unregister reporting => cases happ
  | retryNow reporting => cases happ
  | cancelRetry => cases happ
  | setRetryPolicy initialMs maxMs backoff maxAttempts => cases happ
  | setPushToken token dupOk reporting => cases happ
  | keepaliveNow inCall sendErr => cases happ
  | registerOk =>
      change (a.beventRegisterOk g now).Steady
      unfold Account.beventRegisterOk
      refine Steady.postPrepared (Steady.keepaliveArm g now ?_) rfl
      exact h.after [.regState .registered] rfl rfl rfl
  | registerFail reason rand => exact h.beventRegisterFail g now reason rand
  | srvDone targets =>
      obtain ⟨srv, hb⟩ := srvDoneHandler_spec (a := a) targets rfl
      change (a.srvDoneHandler targets).Steady
      rw [hb]
      exact h.congr rfl rfl
  | retryFires reporting =>
      simp only [Account.handle, retryTimerHandler]
      split
      · exact h.congr rfl rfl
      · apply Steady.watchRegistration
        refine Steady.uaRegister ?_ (by simpa using hflag) reporting
        exact Steady.srvAdvance (h.congr rfl rfl)
  | watchFires registered rand =>
      exact (h.congr (b := { a with regWatchTmr := none }) rfl rfl).regWatchHandler g now registered rand
  | keepaliveFires inCall sendErr =>
      exact (h.congr (b := { a with kaTmr := none }) rfl rfl).keepaliveHandler g now inCall sendErr
  | optionsAnswered answered registered rand =>
      exact h.keepaliveRespHandler g now answered registered rand
  | handoverMark => exact h.regReconnecting
  | handoverToRetry rand =>
      simp only [Account.handle, Account.handoverToRetry]
      split
      · exact h.scheduleRetry g now rand
      · exact h
  | handoverReregister reporting => exact h.reregister now reporting
  | elapse ms => exact h

/-! ### The flag and the state -/

/-- The flag goes up with the state. -/
theorem flagged_of_retry {b : Account} {retries : Bool}
    (hstate : b.regState = if retries then .reconnecting else .failed) (hflag : b.reconnecting = retries) :
    b.Flagged := by
  intro hrec
  cases retries with
  | true => exact hflag
  | false => exact absurd (hstate.symm.trans hrec) (by decide)

theorem Flagged.congr {b : Account} (h : a.Flagged) (hstate : b.regState = a.regState)
    (hflag : b.reconnecting = a.reconnecting) : b.Flagged :=
  fun hrec => hflag.trans (h (hstate.symm.trans hrec))

/-- An account left in RECONNECTING is left with the flag, unless the app's call found it there. -/
theorem flagged_handle {act : AcctAct} (halive : a.Alive)
    (hcall : act.byApp = true → a.regState ≠ .reconnecting) (hflagged : a.Flagged) :
    (a.handle g now act).Flagged := by
  generalize hb : a.handle g now act = b
  cases act with
  | register dnsErr reporting =>
      obtain ⟨-, -, -, hstate, -⟩ := registerFn_spec g now dnsErr reporting halive hb
      have hnot := hcall rfl
      intro hrec
      cases reporting <;> simp_all
  | unregister reporting =>
      obtain ⟨-, -, -, hstate, -⟩ := unregisterFn_spec reporting halive hb
      intro hrec
      simp [hstate] at hrec
  | retryNow reporting =>
      obtain ⟨-, -, -, hstate, hflag, -⟩ := retryNowFn_spec now reporting halive hb
      intro hrec
      rw [hflag]
      cases reporting <;> simp_all [Flagged]
  | cancelRetry =>
      obtain ⟨-, -, -, hstate, -⟩ := cancelRetryFn_spec halive hb
      have hnot := hcall rfl
      intro hrec
      simp_all
  | setRetryPolicy initialMs maxMs backoff maxAttempts => exact hb ▸ hflagged
  | setPushToken token dupOk reporting =>
      obtain ⟨-, -, -, hstate, hflag, -⟩ := setPushTokenFn_spec token dupOk reporting halive hb
      intro hrec
      rw [hflag]
      rw [hstate] at hrec
      split at hrec
      · by_contra hunset
        simp [hunset] at hrec
      · exact hflagged hrec
  | keepaliveNow inCall sendErr =>
      obtain ⟨-, -, -, hstate, hflag, -⟩ := keepaliveHandler_cases g now inCall sendErr
        (a := { a with kaTmr := none }) halive hb
      exact hflagged.congr hstate hflag
  | registerOk =>
      obtain ⟨-, -, -, hstate, -⟩ := beventRegisterOk_spec g now halive hb
      intro hrec
      simp [hstate] at hrec
  | registerFail reason rand =>
      obtain ⟨-, -, -, hstate, hflag, -⟩ := beventRegisterFail_spec g now reason rand halive hb
      intro hrec
      rw [hstate] at hrec
      rw [hflag]
      split at hrec
      · cases hrec
      · rename_i hauth
        rw [if_neg hauth]
        cases hrun : a.retryTmr.isRunning <;> simp_all
  | srvDone targets =>
      obtain ⟨srv, rfl⟩ := srvDoneHandler_spec targets hb
      exact hflagged
  | retryFires reporting =>
      obtain ⟨-, -, -, hstate, hflag, -⟩ := retryTimerHandler_spec now reporting
        (a := { a with retryTmr := none }) halive hb
      intro hrec
      rw [hflag]
      cases reporting <;> simp_all [Flagged]
  | watchFires registered rand =>
      obtain ⟨-, rfl⟩ | ⟨-, -, -, -, -, -, -, -, hcases⟩ :=
        regWatchHandler_cases g now registered rand (a := { a with regWatchTmr := none }) halive hb
      · exact hflagged
      · rcases hcases with ⟨-, hstate, -⟩ | ⟨-, hstate, hflag, -⟩ | ⟨-, hstate, hflag, -⟩
        · intro hrec
          simp [hstate] at hrec
        · exact hflagged.congr hstate hflag
        · exact flagged_of_retry hstate hflag
  | keepaliveFires inCall sendErr =>
      obtain ⟨-, -, -, hstate, hflag, -⟩ := keepaliveHandler_cases g now inCall sendErr
        (a := { a with kaTmr := none }) halive hb
      exact hflagged.congr hstate hflag
  | optionsAnswered answered registered rand =>
      cases answered with
      | true =>
          obtain ⟨-, -, -, hstate, hflag, -⟩ :=
            keepaliveRespHandler_answered g now registered rand halive hb
          intro hrec
          rw [hstate] at hrec
          rw [hflag]
          split at hrec
          · cases hrec
          · rename_i hnot
            rw [if_neg hnot]
            exact hflagged hrec
      | false =>
          obtain ⟨-, -, -, -, -, hcases⟩ :=
            keepaliveRespHandler_unanswered g now registered rand halive hb
          split at hcases
          · obtain ⟨hstate, hflag, -⟩ := hcases
            exact flagged_of_retry hstate hflag
          · obtain ⟨hstate, hflag, -⟩ := hcases
            exact flagged_of_retry hstate hflag
  | handoverMark =>
      obtain ⟨-, -, -, -, -, -, hcases⟩ := regReconnecting_spec halive hb
      split at hcases
      · exact fun _ => hcases.2.1
      · exact hcases ▸ hflagged
  | handoverToRetry rand =>
      obtain ⟨-, -, -, -, -, -, hcases⟩ := handoverToRetry_spec g now rand halive hb
      split at hcases
      · obtain ⟨hstate, hflag, -⟩ := hcases
        exact flagged_of_retry hstate hflag
      · exact hcases ▸ hflagged
  | handoverReregister reporting =>
      obtain ⟨-, -, -, -, -, hcases⟩ := reregister_spec now reporting halive hb
      split at hcases
      · exact hcases ▸ hflagged
      · exact fun _ => hcases.2.1
  | elapse ms => exact hb ▸ hflagged

end Account

variable {g : Cfg} {s s₀ s₁ : OneAccount} {t u : Trace AcctAct AcctOut}

theorem alive_of_run {C : OneAccount → AcctAct → Prop} (hrun : (oneAccount g).Run C s t) :
    s.acct.Alive := by
  refine hrun.stateInvariant (I := fun s => s.acct.Alive) ?_ ?_
  · rintro s ⟨id, cfg, pushToken, hacct⟩
    rw [hacct]
    exact Account.alive_create id cfg pushToken
  · intro s act s' os halive _ hstep
    obtain ⟨-, hacct, -⟩ := oneAccount_step hstep
    rw [hacct]
    exact (Account.handle_alive g s.now (a := s.acct.idle) act halive).1

/-- **No flicker.** Once a step has taken the account into RECONNECTING, and for as long as the app makes
no call, RECONNECTING implies `reconnecting`, and a step taken in RECONNECTING leads to RECONNECTING,
REGISTERED or FAILED, writes no other state on the way and posts no other. -/
theorem no_flicker {act : AcctAct} {os : List AcctOut} (hrun : (oneAccount g).Run Machine.Always s₀ t)
    (hstep : (oneAccount g).step s₀ act = some (s₁, os)) (hbefore : s₀.acct.regState ≠ .reconnecting)
    (_hafter : s₁.acct.regState = .reconnecting)
    (hsteps : (oneAccount g).Steps (fun _ act => act.byApp = false) s₁ u s) :
    (s.acct.regState = .reconnecting → s.acct.reconnecting = true) ∧
    ∀ act s' os, act.byApp = false → (oneAccount g).step s act = some (s', os) →
      s.acct.regState = .reconnecting →
      (s'.acct.regState = .reconnecting ∨ s'.acct.regState = .registered ∨
        s'.acct.regState = .failed) ∧
      (∀ st, .regState st ∈ os → st = .reconnecting ∨ st = .registered ∨ st = .failed) ∧
      (∀ ev, .post ev ∈ os →
        ev.state = .reconnecting ∨ ev.state = .registered ∨ ev.state = .failed) := by
  have hflagged : s.acct.Alive ∧ s.acct.Flagged := by
    induction hsteps with
    | refl =>
        obtain ⟨-, hacct, -⟩ := oneAccount_step hstep
        have halive := alive_of_run hrun
        rw [hacct]
        exact ⟨(Account.handle_alive g s₀.now (a := s₀.acct.idle) act halive).1,
          Account.flagged_handle g s₀.now (a := s₀.acct.idle) halive (fun _ => hbefore)
            fun h => absurd h hbefore⟩
    | @step r _ _ act _ _ happ hnext ih =>
        obtain ⟨halive, hflagged⟩ := ih
        obtain ⟨-, hacct, -⟩ := oneAccount_step hnext
        rw [hacct]
        exact ⟨(Account.handle_alive g r.now (a := r.acct.idle) act halive).1,
          Account.flagged_handle g r.now (a := r.acct.idle) halive
            (fun h => absurd (happ.symm.trans h) (by decide)) hflagged⟩
  have hends (st : RegState) (h : st.ofRecovery = true) :
      st = .reconnecting ∨ st = .registered ∨ st = .failed := by
    cases st <;> simp_all [RegState.ofRecovery]
  refine ⟨hflagged.2, fun act s' os happ hnext hstate => ?_⟩
  obtain ⟨-, hacct, -, rfl⟩ := oneAccount_step hnext
  have hidle : s.acct.idle.Steady := ⟨congrArg RegState.ofRecovery hstate, by simp [Account.idle]⟩
  have hsteady := hidle.handle g s.now happ (hflagged.2 hstate)
  rw [← hacct] at hsteady
  exact ⟨hends _ hsteady.state, fun st hst => hends st (hsteady.said _ hst),
    fun ev hev => hends ev.state (hsteady.said _ hev)⟩

/-- A REGISTER that is refused, and the retry that goes out two seconds later. -/
theorem no_flicker_retried :
    ∃ s : OneAccount, s.acct.regState = .reconnecting ∧ s.acct.reconnecting = true := by
  obtain ⟨s₀, t, hrun, hend⟩ := Machine.exists_run_of_exec (M := oneAccount configInit)
    (fun _ _ => true) (justCreated_init configInit) [.register false true]
    (fun s _ => decide (s.acct.regState ≠ .reconnecting) &&
      ((oneAccount configInit).step s (.registerFail (some "503 Service Unavailable".toList) 0)).any
        fun (r : OneAccount × List AcctOut) => decide (r.1.acct.regState = .reconnecting) &&
          ((oneAccount configInit).exec (fun _ act => !act.byApp) r.1
            [.elapse 2400, .retryFires true]).any
              fun (q : OneAccount × Trace AcctAct AcctOut) =>
                decide (q.1.acct.regState = .reconnecting))
    (by decide +kernel)
  simp only [Bool.and_eq_true, decide_eq_true_eq, Option.any_eq_true] at hend
  obtain ⟨hbefore, ⟨s₁, os⟩, hstep, hafter, ⟨s, u⟩, hexec, hstate⟩ := hend
  have hsteps := (Machine.steps_of_exec hexec).mono (D := fun _ act => act.byApp = false)
    fun _ _ h => Bool.not_eq_true' _ ▸ h
  exact ⟨s, hstate, (no_flicker hrun.always hstep hbefore hafter hsteps).1 hstate⟩

end VoxSdk
