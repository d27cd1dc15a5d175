import VoxSdk.Proof.Release

/-!
# The app's hold on the retry

`cancel_retry` hands the recovery to the app, until it calls `register` or `retry_now`. The SDK does
not know that it did: only the two timers are stopped, so a refusal that was on its way, a lost probe
or a handover starts a recovery of its own. `retry_now` is meant for an account in a retry loop and
does not ask whether it is in one. `leavesToApp` and `inRetryLoop` are what the code would have to
check.
-/

namespace VoxSdk

open Reactive

/-- Whether the app holds the recovery, after the event: `cancel_retry` takes it, `register` and
`retry_now` give it back. -/
def AcctAct.takesOver (act : AcctAct) (held : Bool) : Bool :=
  match act with
  | .cancelRetry => true
  | .register .. | .retryNow _ => false
  | _ => held

/-- One account, and whether the app holds its recovery. -/
def heldAccount (g : Cfg) : Machine (OneAccount × Bool) AcctAct AcctOut :=
  (oneAccount g).withHistory false fun _ act _ held => act.takesOver held

/-- While the app holds the recovery, no `ua_register` is called and RECONNECTING is neither written
nor left behind. -/
def LeftToApp (g : Cfg) (p : OneAccount × Bool) (act : AcctAct) : Prop :=
  ∀ p' os, (heldAccount g).step p act = some (p', os) → p'.2 = true →
    registersOf os = [] ∧ .regState .reconnecting ∉ os ∧ p'.1.acct.regState ≠ .reconnecting

/-- The account is in a retry loop. -/
def Account.inRetryLoop (a : Account) : Bool :=
  a.retryTmr.isRunning || decide (a.regState = .reconnecting)

/-- Outside a retry loop `retry_now` changes nothing and calls no `ua_register`. -/
def NoOpOutsideLoop (g : Cfg) (p : OneAccount × Bool) (act : AcctAct) : Prop :=
  ∀ p' os, (heldAccount g).step p act = some (p', os) → ∀ reporting, act = .retryNow reporting →
    p.1.acct.inRetryLoop = false → p'.1.acct.idle = p.1.acct.idle ∧ registersOf os = []

namespace Account

/-- The steps that leave a recovery to the app that holds it. A new push token may not register
again, a refusal may not arm a retry, a lost probe may not be reported, and a handover may touch
neither the state nor the registration. -/
def leavesToApp (g : Cfg) (a : Account) : AcctAct → Bool
  | .setPushToken token dupOk _ => !a.reRegisters token dupOk
  | .registerFail reason _ =>
      decide (registerFailError reason = .auth) || !a.retryBudgetLeft g
  | .optionsAnswered answered _ _ =>
      answered || !a.regWanted || (g.keepaliveReregister && !a.retryBudgetLeft g)
  | .handoverMark => decide (a.regState ≠ .registered) && decide (a.regState ≠ .registering)
  | .handoverReregister _ => a.authFailed
  | _ => true

/-- What `retry_now` would have to check. -/
def asksInLoop (a : Account) : AcctAct → Bool
  | .retryNow _ => a.inRetryLoop
  | _ => true

/-- The SDK has let go: neither of its two timers is armed, and it announces no recovery. -/
structure Held (a : Account) : Prop where
  retryTmr : a.retryTmr = none
  regWatchTmr : a.regWatchTmr = none
  regState : a.regState ≠ .reconnecting

variable (g : Cfg) (now : Nat) {a : Account}

theorem Held.idle (hheld : a.Held) : a.idle.Held :=
  ⟨hheld.retryTmr, hheld.regWatchTmr, hheld.regState⟩

@[simp]
theorem regState_mem_postCopied (st : RegState) (ev : RegEvent) (reason : ErrStr) :
    .regState st ∈ (a.postCopied ev reason).out ↔ .regState st ∈ a.out := by
  unfold postCopied regEvPrepare
  by_cases hst : ev.state ≠ .reconnecting
  · simp [hst, reconnectReset]
  · by_cases hsame : a.sameReport ev.error = true
    · simp [hst, hsame]
    · simp [hst, hsame, remember]

@[simp]
theorem regState_mem_postPrepared (st : RegState) (ev : RegEvent) :
    .regState st ∈ (a.postPrepared ev).out ↔ .regState st ∈ a.out := by
  rw [postPrepared_eq_postCopied, regState_mem_postCopied]

/-- `cancel_retry` hands the recovery over. -/
theorem held_cancelRetryFn (halive : a.Alive) (hout : a.out = []) :
    registersOf a.cancelRetryFn.out = [] ∧ .regState .reconnecting ∉ a.cancelRetryFn.out ∧
      a.cancelRetryFn.Held := by
  obtain ⟨-, -, -, hstate, -, hretry, hwatch, -⟩ := cancelRetryFn_spec halive rfl
  refine ⟨?_, ?_, hretry, hwatch, ?_⟩
  · by_cases hst : a.regState = .reconnecting <;>
      simp [cancelRetryFn, hst, hout, AcctOut.registering]
  · by_cases hst : a.regState = .reconnecting <;> simp [cancelRetryFn, hst, hout]
  · rw [hstate]
    split
    · simp
    · assumption

/-- A retry that cannot be armed writes nothing, unless the app was waiting for one. -/
theorem regState_mem_scheduleRetry (st : RegState) (rand : Nat) (hbudget : a.retryBudgetLeft g = false)
    (hstate : a.regState ≠ .reconnecting) :
    .regState st ∈ (a.scheduleRetry g now rand).out ↔ .regState st ∈ a.out := by
  unfold scheduleRetry
  split_ifs <;> simp_all

/-- While the app holds the recovery, the steps that leave it to the app do so. -/
theorem held_handle (act : AcctAct) (halive : a.Alive) (hen : a.enabled now act = true)
    (hout : a.out = []) (hheld : a.Held) (htakes : act.takesOver true = true)
    (hleaves : a.leavesToApp g act = true) :
    registersOf (a.handle g now act).out = [] ∧
      .regState .reconnecting ∉ (a.handle g now act).out ∧ (a.handle g now act).Held := by
  obtain ⟨hua, hdes⟩ := halive
  obtain ⟨hretry, hwatch, hstate⟩ := hheld
  cases act with
  | register dnsErr reporting => cases htakes
  | retryNow reporting => cases htakes
  | unregister reporting =>
      have hspec := unregisterFn_spec reporting (a := a) ⟨hua, hdes⟩ rfl
      refine ⟨?_, ?_, ?_⟩
      · simp [handle, unregisterFn, hua, hout]
      · cases reporting <;> simp [handle, unregisterFn, hua, hout, uaUnregister, beventUnregistering]
      · exact ⟨by simp [handle, hspec, hretry], by simp [handle, hspec], by simp [handle, hspec]⟩
  | cancelRetry => exact held_cancelRetryFn ⟨hua, hdes⟩ hout
  | setRetryPolicy initialMs maxMs backoff maxAttempts =>
      exact ⟨by simp [handle, setRetryPolicyFn, hout], by simp [handle, setRetryPolicyFn, hout],
        hretry, hwatch, hstate⟩
  | setPushToken token dupOk reporting =>
      obtain ⟨err, heq⟩ := setPushTokenFn_eq token dupOk reporting (a := a) ⟨hua, hdes⟩
      have hre : a.reRegisters token dupOk = false := by simpa [leavesToApp] using hleaves
      simp only [handle, heq, hre]
      exact ⟨by simp [hout, AcctOut.registering], by simp [hout], by simpa using hretry,
        by simpa using hwatch, by simpa using hstate⟩
  | keepaliveNow inCall sendErr =>
      obtain ⟨-, -, -, hst, -, htmr, hwtmr, -⟩ :=
        keepaliveHandler_cases g now inCall sendErr (a := { a with kaTmr := none }) ⟨hua, hdes⟩ rfl
      refine ⟨?_, ?_, ?_⟩
      · simp [handle, keepaliveNowFn, registersOf_keepaliveHandler, hout]
      · simp only [handle, keepaliveNowFn, keepaliveHandler]
        split_ifs <;> simp [hout]
      · exact ⟨htmr.trans hretry, hwtmr.trans hwatch, by rw [handle, keepaliveNowFn, hst]; exact hstate⟩
  | registerOk =>
      have hspec := beventRegisterOk_spec g now (a := a) ⟨hua, hdes⟩ rfl
      refine ⟨?_, ?_, ?_⟩
      · simp [handle, beventRegisterOk, hout, AcctOut.registering]
      · simp [handle, beventRegisterOk, hout]
      · exact ⟨by simp [handle, hspec, hretry], by simp [handle, hspec, hwatch], by simp [handle, hspec]⟩
  | registerFail reason rand =>
      have hspec := beventRegisterFail_spec g now reason rand (a := a) ⟨hua, hdes⟩ rfl
      have hcases : registerFailError reason = .auth ∨ a.retryBudgetLeft g = false := by
        simpa [leavesToApp] using hleaves
      have hwritten : .regState .reconnecting ∉ (a.handle g now (.registerFail reason rand)).out := by
        rcases hcases with hauth | hbudget
        · simp [handle, beventRegisterFail, regFailState, willRetry, hauth, hout]
        · by_cases hauth : registerFailError reason = .auth <;>
            simp [handle, beventRegisterFail, regFailState, willRetry, hauth, hretry, hbudget, hout,
              regState_mem_scheduleRetry, retryBudgetLeft_of_eq g hbudget]
      refine ⟨?_, hwritten, ?_⟩
      · by_cases hauth : registerFailError reason = .auth <;>
          simp [handle, beventRegisterFail, regFailState, hauth, hout, AcctOut.registering]
      · refine ⟨?_, by simp [handle, hspec, hwatch], ?_⟩
        · have hidle : (a.handle g now (.registerFail reason rand)).retryTmr.isRunning = false := by
            rcases hcases with h | h <;> simp [handle, hspec, hretry, h]
          exact Option.not_isSome_iff_eq_none.mp (by simpa [Timer.isRunning] using hidle)
        · rcases hcases with h | h <;> simp [handle, hspec, hretry, h]
  | srvDone targets =>
      obtain ⟨srv, h⟩ := srvDoneHandler_spec (a := a) targets rfl
      rw [handle, h]
      exact ⟨by simp [hout], by simp [hout], hretry, hwatch, hstate⟩
  | retryFires reporting => simp [enabled, hretry, Timer.isDue] at hen
  | watchFires registered rand => simp [enabled, hwatch, Timer.isDue] at hen
  | keepaliveFires inCall sendErr =>
      obtain ⟨-, -, -, hst, -, htmr, hwtmr, -⟩ :=
        keepaliveHandler_cases g now inCall sendErr (a := { a with kaTmr := none }) ⟨hua, hdes⟩ rfl
      refine ⟨?_, ?_, ?_⟩
      · simp [handle, registersOf_keepaliveHandler, hout]
      · simp only [handle, keepaliveHandler]
        split_ifs <;> simp [hout]
      · exact ⟨htmr.trans hretry, hwtmr.trans hwatch, by rw [handle, hst]; exact hstate⟩
  | optionsAnswered answered registered rand =>
      have hsent : registersOf (a.handle g now (.optionsAnswered answered registered rand)).out = [] := by
        simp [handle, registersOf_keepaliveRespHandler, hout]
      cases answered with
      | true =>
          have hspec := keepaliveRespHandler_answered g now registered rand (a := a) ⟨hua, hdes⟩ rfl
          refine ⟨hsent, ?_, ?_⟩
          · simp [handle, keepaliveRespHandler, hdes, hstate, hout]
          · exact ⟨by simp [handle, hspec, hretry], by simp [handle, hspec, hwatch],
              by simp [handle, hspec, hstate]⟩
      | false =>
          have hspec := keepaliveRespHandler_unanswered g now registered rand (a := a) ⟨hua, hdes⟩ rfl
          have hcases : a.regWanted = false ∨
              (g.keepaliveReregister && a.regWanted) = true ∧ a.retryBudgetLeft g = false := by
            cases hwanted : a.regWanted with
            | false => exact .inl rfl
            | true => exact .inr (by simpa [leavesToApp, hwanted] using hleaves)
          rcases hcases with hwanted | ⟨hre, hbudget⟩
          · simp only [hwanted, Bool.and_false, Bool.false_eq_true, if_false] at hspec
            refine ⟨hsent, ?_, ?_⟩
            · simp [handle, keepaliveRespHandler, hdes, hwanted, hout]
            · exact ⟨by simp [handle, hspec, hretry], by simp [handle, hspec, hwatch],
                by simp [handle, hspec]⟩
          · obtain ⟨hreregister, hwanted⟩ := Bool.and_eq_true_iff.mp hre
            simp only [hre, if_true, hretry, Timer.isRunning_none, hbudget, Bool.or_false,
              Bool.false_eq_true, if_false] at hspec
            have hidle := hspec.2.2.2.2.2.2.2.1
            refine ⟨hsent, ?_, ?_⟩
            · simp [handle, keepaliveRespHandler, hdes, hreregister, hwanted, hout, regFailState,
                willRetry, hretry, regState_mem_scheduleRetry, retryBudgetLeft_of_eq g hbudget]
            · refine ⟨?_, by simp [handle, hspec, hwatch], by simp [handle, hspec]⟩
              exact Option.not_isSome_iff_eq_none.mp (by simpa [handle, Timer.isRunning] using hidle)
  | handoverMark =>
      have hsame : a.handle g now .handoverMark = a := by
        obtain ⟨-, -, -, -, -, -, hcases⟩ := regReconnecting_spec (a := a) ⟨hua, hdes⟩ rfl
        rw [if_neg (by simp_all [leavesToApp])] at hcases
        exact hcases
      rw [hsame]
      exact ⟨by simp [hout], by simp [hout], hretry, hwatch, hstate⟩
  | handoverToRetry rand =>
      have hsame : a.handle g now (.handoverToRetry rand) = a := by
        simp [handle, handoverToRetry, hstate]
      rw [hsame]
      exact ⟨by simp [hout], by simp [hout], hretry, hwatch, hstate⟩
  | handoverReregister reporting =>
      have hauth : a.authFailed = true := hleaves
      have hsame : a.handle g now (.handoverReregister reporting) = a := by
        simp [handle, reregister, hauth]
      rw [hsame]
      exact ⟨by simp [hout], by simp [hout], hretry, hwatch, hstate⟩
  | elapse ms => exact ⟨by simp [handle, hout], by simp [handle, hout], hretry, hwatch, hstate⟩

theorem leavesToApp_of_left (act : AcctAct) (halive : a.Alive) (hen : a.enabled now act = true)
    (hheld : a.Held) (hsent : registersOf (a.handle g now act).out = [])
    (hstate : (a.handle g now act).regState ≠ .reconnecting) : a.leavesToApp g act = true := by
  by_contra hleaves
  cases act with
  | setPushToken token dupOk reporting =>
      obtain ⟨err, heq⟩ := setPushTokenFn_eq token dupOk reporting halive
      have hre : a.reRegisters token dupOk = true := by simpa [leavesToApp] using hleaves
      simp [handle, heq, hre] at hsent
  | registerFail reason rand =>
      have hspec := beventRegisterFail_spec g now reason rand halive rfl
      simp only [leavesToApp, Bool.or_eq_true, decide_eq_true_eq, Bool.not_eq_true', not_or,
        Bool.not_eq_false] at hleaves
      obtain ⟨hauth, hbudget⟩ := hleaves
      apply hstate
      simp [handle, hspec, hauth, hbudget, hheld.retryTmr]
  | optionsAnswered answered registered rand =>
      cases answered with
      | true => exact hleaves rfl
      | false =>
          have hspec := keepaliveRespHandler_unanswered g now registered rand halive rfl
          apply hstate
          cases hre : (g.keepaliveReregister && a.regWanted) <;>
            cases hwanted : a.regWanted <;> simp_all [leavesToApp, handle]
  | handoverMark =>
      have hspec := regReconnecting_spec halive rfl
      apply hstate
      simp_all [leavesToApp, handle, enabled, inSnapshot]
  | handoverReregister reporting =>
      have hauth : a.authFailed = false := by simpa [leavesToApp] using hleaves
      simp [handle, reregister, hauth, halive.1, halive.2] at hsent
  | _ => exact hleaves rfl

end Account

/-- The condition: a step leaves the recovery to an app that holds it, and `retry_now` is called for
an account in a retry loop. -/
def respectsApp (g : Cfg) (p : OneAccount × Bool) (act : AcctAct) : Bool :=
  (!p.2 || p.1.acct.leavesToApp g act) && p.1.acct.asksInLoop act

/-- What the runs know: an app that holds the recovery finds the SDK without one. -/
def HeldByApp (p : OneAccount × Bool) : Prop :=
  p.1.acct.Alive ∧ (p.2 = true → p.1.acct.Held)

variable {g : Cfg} {p p' : OneAccount × Bool} {act : AcctAct} {os : List AcctOut}

theorem heldByApp_init (hinit : (heldAccount g).init p) : HeldByApp p := by
  obtain ⟨⟨id, cfg, pushToken, h⟩, hheld⟩ := hinit
  refine ⟨h ▸ Account.alive_create id cfg pushToken, fun htrue => ?_⟩
  rw [hheld] at htrue
  cases htrue

/-- `retry_now` is a REGISTER, whatever it was asked for. -/
theorem noOpOutsideLoop_iff (halive : p.1.acct.Alive)
    (hstep : (heldAccount g).step p act = some (p', os)) :
    NoOpOutsideLoop g p act ↔ p.1.acct.asksInLoop act = true := by
  constructor
  · intro hnoop
    cases act with
    | retryNow reporting =>
        by_contra hloop
        have hloop : p.1.acct.inRetryLoop = false := by simpa [Account.asksInLoop] using hloop
        obtain ⟨-, hsent⟩ := hnoop p' os hstep reporting rfl hloop
        obtain ⟨hacct, -⟩ := Machine.withHistory_step.mp hstep
        obtain ⟨-, hafter, -, rfl⟩ := oneAccount_step hacct
        rw [hafter] at hsent
        simp [Account.handle, Account.retryNowFn, Account.idle, halive.1, halive.2] at hsent
    | _ => rfl
  · rintro hasks q os' - reporting rfl hloop
    rw [Account.asksInLoop, hloop] at hasks
    cases hasks

/-- A step leaves the recovery to the app exactly if it meets the condition, and then the app goes on
holding it. -/
theorem leftToApp_iff (hheld : HeldByApp p) (hstep : (heldAccount g).step p act = some (p', os)) :
    (LeftToApp g p act ↔ (!p.2 || p.1.acct.leavesToApp g act) = true) ∧
      ((!p.2 || p.1.acct.leavesToApp g act) = true → HeldByApp p') := by
  obtain ⟨halive, hheld⟩ := hheld
  obtain ⟨hacct, hholds⟩ := Machine.withHistory_step.mp hstep
  obtain ⟨hen, hafter, -, rfl⟩ := oneAccount_step hacct
  have halive' : p'.1.acct.Alive := by
    rw [hafter]
    exact (Account.handle_alive g p.1.now (a := p.1.acct.idle) act halive).1
  have hkept : (!p.2 || p.1.acct.leavesToApp g act) = true → p'.2 = true →
      registersOf p'.1.acct.out = [] ∧ .regState .reconnecting ∉ p'.1.acct.out ∧
        p'.1.acct.Held := by
    intro hleaves hholds'
    rw [hholds] at hholds'
    rw [hafter]
    cases hwas : p.2 with
    | true =>
        rw [hwas] at hleaves hholds'
        exact Account.held_handle g p.1.now (a := p.1.acct.idle) act halive hen rfl (hheld hwas).idle
          hholds' hleaves
    | false =>
        -- only `cancel_retry` hands it over
        rw [hwas] at hholds'
        cases act with
        | cancelRetry => exact Account.held_cancelRetryFn (a := p.1.acct.idle) halive rfl
        | _ => cases hholds'
  refine ⟨⟨fun hleft => ?_, ?_⟩, fun hleaves => ⟨halive', fun h => (hkept hleaves h).2.2⟩⟩
  · cases hwas : p.2 with
    | false => rfl
    | true =>
        cases hgives : act.takesOver true with
        | false => cases act <;> first | rfl | cases hgives
        | true =>
            have hholds' : p'.2 = true := by rw [hholds, hwas, hgives]
            obtain ⟨hsent, -, hstate⟩ := hleft p' _ hstep hholds'
            rw [hafter] at hsent hstate
            exact Account.leavesToApp_of_left g p.1.now (a := p.1.acct.idle) act halive hen
              (hheld hwas).idle hsent hstate
  · intro hleaves q os hq hholds'
    rw [hstep] at hq
    obtain ⟨rfl, rfl⟩ := Prod.mk.inj (Option.some.inj hq)
    obtain ⟨hsent, hwritten, hafter'⟩ := hkept hleaves hholds'
    exact ⟨hsent, hwritten, hafter'.regState⟩

/-- What every step of a run is asked for. -/
def RetryControlled (g : Cfg) (p : OneAccount × Bool) (act : AcctAct) : Prop :=
  LeftToApp g p act ∧ NoOpOutsideLoop g p act

/-- One step: as the app was told exactly if it meets the condition. -/
theorem retryControlled_step (hheld : HeldByApp p)
    (hstep : (heldAccount g).step p act = some (p', os)) :
    (RetryControlled g p act ↔ respectsApp g p act = true) ∧
      (respectsApp g p act = true → HeldByApp p') := by
  obtain ⟨hleft, hkept⟩ := leftToApp_iff hheld hstep
  refine ⟨?_, fun h => hkept (Bool.and_eq_true_iff.mp h).1⟩
  calc RetryControlled g p act
      ↔ (!p.2 || p.1.acct.leavesToApp g act) = true ∧ p.1.acct.asksInLoop act = true :=
        and_congr hleft (noOpOutsideLoop_iff hheld.1 hstep)
    _ ↔ respectsApp g p act = true := (Bool.and_eq_true_iff).symm

/-- A run whose steps meet the condition keeps the recovery with whoever holds it. -/
theorem heldByApp_run {t : Trace AcctAct AcctOut}
    (hrun : (heldAccount g).Run (fun p act => respectsApp g p act) p t) : HeldByApp p := by
  refine hrun.stateInvariant (I := HeldByApp) (fun p => heldByApp_init) ?_
  intro p act p' os hheld hrespects hstep
  exact (retryControlled_step hheld hstep).2 hrespects

/-- **The retry is the app's to control.** The runs in which every step leaves a recovery the app
holds to the app, and takes `retry_now` for nothing outside a retry loop, are exactly the runs whose
steps meet the condition. -/
theorem retry_controlled (g : Cfg) (p : OneAccount × Bool) (t : Trace AcctAct AcctOut) :
    (heldAccount g).Run (RetryControlled g) p t ↔
      (heldAccount g).Run (fun p act => respectsApp g p act) p t := by
  constructor
  · intro hrun
    induction hrun with
    | start hinit => exact .start hinit
    | step _ hcontrolled hstep ih =>
        exact ih.step ((retryControlled_step (heldByApp_run ih) hstep).1.mp hcontrolled) hstep
  · intro hrun
    induction hrun with
    | start hinit => exact .start hinit
    | step hprev hrespects hstep ih =>
        exact ih.step ((retryControlled_step (heldByApp_run hprev) hstep).1.mpr hrespects) hstep

/-- Neither half holds of every run: a late refusal restarts a cancelled recovery, and `retry_now`
registers an account that is registered. -/
theorem retry_not_controlled :
    (¬ ∀ (g : Cfg) (p : OneAccount × Bool) (t : Trace AcctAct AcctOut) (act : AcctAct),
      (heldAccount g).Run Machine.Always p t → LeftToApp g p act) ∧
    ¬ ∀ (g : Cfg) (p : OneAccount × Bool) (t : Trace AcctAct AcctOut) (act : AcctAct),
      (heldAccount g).Run Machine.Always p t → NoOpOutsideLoop g p act := by
  have hinit : (heldAccount configInit).init (justCreated, false) := ⟨justCreated_init _, rfl⟩
  constructor
  · intro h
    obtain ⟨p, t, hrun, hend⟩ := Machine.exists_run_of_exec (fun _ _ => true) hinit
      [.register false true, .cancelRetry]
      (fun p _ => ((heldAccount configInit).step p
        (.registerFail (some "503 Service Unavailable".toList) 0)).any
          fun r : (OneAccount × Bool) × List AcctOut => r.1.2 && decide (r.1.1.acct.regState = .reconnecting))
      (by decide +kernel)
    obtain ⟨⟨p', os⟩, hstep, hlate⟩ := (Option.any_eq_true _ _).mp hend
    obtain ⟨hholds, hstate⟩ := Bool.and_eq_true_iff.mp hlate
    exact (h configInit p t _ hrun.always p' os hstep hholds).2.2 (of_decide_eq_true hstate)
  · intro h
    obtain ⟨p, t, hrun, hend⟩ := Machine.exists_run_of_exec (fun _ _ => true) hinit
      [.register false true, .registerOk]
      (fun p _ => !p.1.acct.inRetryLoop && ((heldAccount configInit).step p (.retryNow true)).any
        fun r : (OneAccount × Bool) × List AcctOut => !(registersOf r.2).isEmpty) (by decide +kernel)
    obtain ⟨hloop, hsent⟩ := Bool.and_eq_true_iff.mp hend
    obtain ⟨⟨p', os⟩, hstep, hsent⟩ := (Option.any_eq_true _ _).mp hsent
    have hnone := (h configInit p t _ hrun.always p' os hstep true rfl (by simpa using hloop)).2
    simp [hnone] at hsent

end VoxSdk
