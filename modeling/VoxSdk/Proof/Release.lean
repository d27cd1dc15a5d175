import VoxSdk.Proof.HandlerLemmas

/-!
# A released account

`unregister` takes the registration back from the SDK. From then until the app asks again, the SDK
has nothing to send and nothing to announce for the account. Four handlers do not ask whether the
account is still wanted; `respectsRelease` refuses the steps in which that matters.
-/

namespace VoxSdk

open Reactive

/-! ### What a step has done -/

def AcctOut.registering : AcctOut → Option Bool
  | .uaRegister wanted => some wanted
  | _ => none

def AcctOut.posted : AcctOut → Option RegState
  | .post ev => some ev.state
  | _ => none

/-- The `ua_register` calls, each with `reg_wanted` as it stood. -/
def registersOf (os : List AcctOut) : List Bool := os.filterMap AcctOut.registering

/-- The states of the REG_STATE events posted. -/
def postedStates (os : List AcctOut) : List RegState := os.filterMap AcctOut.posted

/-- `unregister` releases the account, `register` and `retry_now` ask for it again. -/
def AcctAct.releases (was : Bool) : AcctAct → Bool
  | .unregister _ => true
  | .register .. | .retryNow _ => false
  | _ => was

/-- Whether the app has released the account, after these events. -/
def released (acts : List AcctAct) : Bool := acts.foldl AcctAct.releases false

theorem released_append (acts : List AcctAct) (act : AcctAct) :
    released (acts ++ [act]) = act.releases (released acts) := by
  simp [released]

theorem AcctAct.releases_mono {act : AcctAct} {was was' : Bool} (h : was = true → was' = true)
    (hwas : act.releases was = true) : act.releases was' = true := by
  cases act <;> simp_all [AcctAct.releases]

/-- Whether the event is the registrar's refusal, which is reported and not decided. -/
def AcctAct.isRegisterFail : AcctAct → Bool
  | .registerFail .. => true
  | _ => false

/-- What a step of a released account may do: no `ua_register`, and no RECONNECTING, REGISTERING or
FAILED but the report of a refusal. No step at all calls `ua_register` for an unwanted account. -/
def ReleaseRespected (before : List AcctAct) (act : AcctAct) (os : List AcctOut) : Prop :=
  (released before = true → released (before ++ [act]) = true →
    registersOf os = [] ∧ .reconnecting ∉ postedStates os ∧ .registering ∉ postedStates os ∧
      (.failed ∈ postedStates os → act.isRegisterFail = true)) ∧
    ∀ wanted ∈ registersOf os, wanted = true

namespace Account

/-- The steps that leave a released account alone. A retry may not fire for it, a refusal may not arm
one, a lost probe may not be reported, and a new push token may not register it again. -/
def respectsRelease (g : Cfg) (a : Account) : AcctAct → Bool
  | .retryFires _ => a.regWanted
  | .registerFail reason _ =>
      a.regWanted || decide (registerFailError reason = .auth) || a.retryTmr.isRunning ||
        !a.retryBudgetLeft g
  | .optionsAnswered answered _ _ => answered || a.regWanted
  | .setPushToken token dupOk _ => a.regWanted || !a.reRegisters token dupOk
  | _ => true

/-- An account the app does not want registered is not recovering. -/
def Settled (a : Account) : Prop :=
  a.regWanted = false → a.reconnecting = false ∧ a.regState ≠ .reconnecting

variable (g : Cfg) (now : Nat) {a : Account}

/-! ### The requests a handler sends -/

@[simp]
theorem registersOf_nil : registersOf [] = [] := rfl

@[simp]
theorem registersOf_append (os os' : List AcctOut) :
    registersOf (os ++ os') = registersOf os ++ registersOf os' :=
  List.filterMap_append

@[simp]
theorem registersOf_cons (o : AcctOut) (os : List AcctOut) :
    registersOf (o :: os) = o.registering.toList ++ registersOf os := by
  cases h : o.registering <;> simp [registersOf, h]

@[simp]
theorem postedStates_nil : postedStates [] = [] := rfl

@[simp]
theorem postedStates_append (os os' : List AcctOut) :
    postedStates (os ++ os') = postedStates os ++ postedStates os' :=
  List.filterMap_append

@[simp]
theorem postedStates_cons (o : AcctOut) (os : List AcctOut) :
    postedStates (o :: os) = o.posted.toList ++ postedStates os := by
  cases h : o.posted <;> simp [postedStates, h]

@[simp]
theorem registersOf_postCopied (ev : RegEvent) (reason : ErrStr) :
    registersOf (a.postCopied ev reason).out = registersOf a.out := by
  unfold postCopied regEvPrepare
  by_cases hst : ev.state ≠ .reconnecting
  · simp [hst, reconnectReset, AcctOut.registering]
  · by_cases hsame : a.sameReport ev.error = true
    · simp [hst, hsame, AcctOut.registering]
    · simp [hst, hsame, remember, AcctOut.registering]

@[simp]
theorem registersOf_postPrepared (ev : RegEvent) :
    registersOf (a.postPrepared ev).out = registersOf a.out := by
  rw [postPrepared_eq_postCopied, registersOf_postCopied]

/-- Any state but RECONNECTING is posted. -/
theorem postedStates_postCopied (ev : RegEvent) (reason : ErrStr) (h : ev.state ≠ .reconnecting) :
    postedStates (a.postCopied ev reason).out = postedStates a.out ++ [ev.state] := by
  simp [postCopied, regEvPrepare, h, reconnectReset, stamp, AcctOut.posted]

theorem postedStates_postPrepared (ev : RegEvent) (h : ev.state ≠ .reconnecting) :
    postedStates (a.postPrepared ev).out = postedStates a.out ++ [ev.state] := by
  rw [postPrepared_eq_postCopied, postedStates_postCopied ev _ h]

@[simp]
theorem registersOf_scheduleRetry (rand : Nat) :
    registersOf (a.scheduleRetry g now rand).out = registersOf a.out := by
  unfold scheduleRetry
  by_cases hrun : a.retryTmr.isRunning = true
  · simp [hrun]
  · by_cases hbudget : a.retryBudgetLeft g = true
    · simp [hrun, hbudget, AcctOut.registering]
    · by_cases hstate : a.regState = .reconnecting <;> simp [hrun, hbudget, hstate, AcctOut.registering]

@[simp]
theorem registersOf_uaRegister (reporting : Bool) :
    registersOf (a.uaRegister reporting).out = registersOf a.out ++ [a.regWanted] := by
  unfold uaRegister
  cases reporting with
  | false => simp [AcctOut.registering]
  | true => by_cases hrec : a.reconnecting = true <;> simp [beventRegistering, hrec, AcctOut.registering]

@[simp]
theorem registersOf_uaUnregister (reporting : Bool) :
    registersOf (a.uaUnregister reporting).out = registersOf a.out := by
  unfold uaUnregister
  cases reporting <;> simp [beventUnregistering, AcctOut.registering]

theorem postedStates_uaUnregister (reporting : Bool) :
    postedStates (a.uaUnregister reporting).out =
      postedStates a.out ++ (if reporting then [.unregistering] else []) := by
  unfold uaUnregister
  cases reporting <;>
    simp [beventUnregistering, AcctOut.posted, postedStates_postPrepared, RegEvent.of]

@[simp]
theorem registersOf_srvResolve (dnsErr : Bool) :
    registersOf (a.srvResolve g dnsErr).out = registersOf a.out := by
  unfold srvResolve
  split
  · rfl
  · split
    · rfl
    · cases dnsErr <;> simp [AcctOut.registering]

@[simp]
theorem registersOf_srvAdvance : registersOf a.srvAdvance.out = registersOf a.out := by
  unfold srvAdvance
  split <;> simp [AcctOut.registering]

/-- The probe, its answer and the watchdog send no REGISTER of their own. -/
theorem registersOf_keepaliveHandler (inCall sendErr : Bool) :
    registersOf (a.keepaliveHandler g now inCall sendErr).out = registersOf a.out := by
  unfold keepaliveHandler
  split_ifs <;> simp [AcctOut.registering]

theorem registersOf_keepaliveRespHandler (answered registered : Bool) (rand : Nat) :
    registersOf (a.keepaliveRespHandler g now answered registered rand).out =
      registersOf a.out := by
  unfold keepaliveRespHandler regFailState
  cases answered with
  | true =>
      cases hrec : (a.kaFailed && decide (a.regState = .reconnecting) && registered) <;>
        cases hdes : a.destroyed <;> simp [hrec, AcctOut.registering]
  | false =>
      cases hre : (g.keepaliveReregister && a.regWanted) <;>
        cases hdes : a.destroyed <;> simp [hre, AcctOut.registering]

theorem registersOf_regWatchHandler (registered : Bool) (rand : Nat) :
    registersOf (a.regWatchHandler g now registered rand).out = registersOf a.out := by
  unfold regWatchHandler regFailState
  split_ifs
  · rfl
  · rfl
  · rfl
  · simp [AcctOut.registering]
  · by_cases htime : g.sipTimerFMs ≠ 0 ∧
        g.sipTimerFMs ≤ u32 (a.regWatchElapsedMs + regWatchIntervalMs)
    · simp [htime, AcctOut.registering]
    · simp [htime]

/-- No handler calls `ua_register` for an account the app does not want registered, but for the two
that `respectsRelease` stops. -/
theorem registersOf_handle (act : AcctAct) (halive : a.Alive) (hen : a.enabled now act = true)
    (hout : a.out = []) (hrespects : a.respectsRelease g act = true) :
    ∀ wanted ∈ registersOf (a.handle g now act).out, wanted = true := by
  obtain ⟨hua, hdes⟩ := halive
  cases act with
  | register dnsErr reporting => simp [handle, registerFn, hua, hdes, hout]
  | unregister reporting => simp [handle, unregisterFn, hua, hout]
  | retryNow reporting => simp [handle, retryNowFn, hua, hdes, hout]
  | cancelRetry =>
      by_cases hst : a.regState = .reconnecting <;>
        simp [handle, cancelRetryFn, hst, hout, AcctOut.registering]
  | setRetryPolicy initialMs maxMs backoff maxAttempts =>
      simp [handle, setRetryPolicyFn, hout]
  | setPushToken token dupOk reporting =>
      obtain ⟨err, heq⟩ := setPushTokenFn_eq (a := a) token dupOk reporting ⟨hua, hdes⟩
      have hrespects : a.regWanted = true ∨ a.reRegisters token dupOk = false := by
        simpa [respectsRelease] using hrespects
      cases hre : a.reRegisters token dupOk with
      | false => simp [handle, heq, hre, hout, AcctOut.registering]
      | true =>
          have hwanted : a.regWanted = true := by simpa [hre] using hrespects
          simp [handle, heq, hre, hout, hwanted, AcctOut.registering]
  | keepaliveNow inCall sendErr =>
      simp [handle, keepaliveNowFn, registersOf_keepaliveHandler, hout]
  | registerOk => simp [handle, beventRegisterOk, hout, AcctOut.registering]
  | registerFail reason rand =>
      by_cases hauth : registerFailError reason = .auth <;>
        simp [handle, beventRegisterFail, regFailState, hauth, hout, AcctOut.registering]
  | srvDone targets =>
      obtain ⟨srv, h⟩ := srvDoneHandler_spec (a := a) targets rfl
      simp [handle, h, hout]
  | retryFires reporting =>
      have hwanted : a.regWanted = true := hrespects
      simp [handle, retryTimerHandler, hua, hdes, hwanted, hout]
  | watchFires registered rand =>
      simp only [handle, registersOf_regWatchHandler]
      simp [hout]
  | keepaliveFires inCall sendErr => simp [handle, registersOf_keepaliveHandler, hout]
  | optionsAnswered answered registered rand =>
      simp [handle, registersOf_keepaliveRespHandler, hout]
  | handoverMark =>
      unfold handle regReconnecting
      split_ifs <;> simp [hout, AcctOut.registering]
  | handoverToRetry rand =>
      unfold handle handoverToRetry
      split_ifs <;> simp [hout]
  | handoverReregister reporting =>
      have hwanted : a.regWanted = true := by simp_all [enabled, inSnapshot]
      unfold handle reregister
      split_ifs <;> simp [hout, hua, hdes, hwanted]
  | elapse ms => simp [handle, hout]

/-- With the budget gone there is nothing to announce unless the app is waiting. -/
theorem postedStates_scheduleRetry (rand : Nat) (hbudget : a.retryBudgetLeft g = false)
    (hstate : a.regState ≠ .reconnecting) :
    postedStates (a.scheduleRetry g now rand).out = postedStates a.out := by
  unfold scheduleRetry
  split_ifs <;> simp_all

/-- Unless the app asks again, a step of an account it does not want registered sends no REGISTER
and announces nothing but a refusal. -/
theorem handle_of_not_wanted (act : AcctAct) (halive : a.Alive) (hen : a.enabled now act = true)
    (hout : a.out = []) (hwanted : a.regWanted = false) (hsettled : a.Settled)
    (hrespects : a.respectsRelease g act = true)
    (hregister : ∀ dnsErr reporting, act ≠ .register dnsErr reporting)
    (hretry : ∀ reporting, act ≠ .retryNow reporting) :
    registersOf (a.handle g now act).out = [] ∧
      .reconnecting ∉ postedStates (a.handle g now act).out ∧
      .registering ∉ postedStates (a.handle g now act).out ∧
      (.failed ∈ postedStates (a.handle g now act).out → act.isRegisterFail = true) := by
  have hua : a.ua = true := halive.1
  have hdes : a.destroyed = false := halive.2
  obtain ⟨hrec, hstate⟩ := hsettled hwanted
  cases act with
  | register dnsErr reporting => exact absurd rfl (hregister dnsErr reporting)
  | retryNow reporting => exact absurd rfl (hretry reporting)
  | unregister reporting =>
      cases reporting <;>
        simp [handle, unregisterFn, hua, hout, postedStates_uaUnregister]
  | cancelRetry => simp [handle, cancelRetryFn, hstate, hout]
  | setRetryPolicy initialMs maxMs backoff maxAttempts => simp [handle, setRetryPolicyFn, hout]
  | setPushToken token dupOk reporting =>
      obtain ⟨err, heq⟩ := setPushTokenFn_eq token dupOk reporting halive
      have hre : a.reRegisters token dupOk = false := by
        simpa [respectsRelease, hwanted] using hrespects
      simp [handle, heq, hre, hout, AcctOut.registering, AcctOut.posted]
  | registerOk =>
      simp [handle, beventRegisterOk, hout, AcctOut.registering, AcctOut.posted,
        postedStates_postPrepared, RegEvent.of]
  | registerFail reason rand =>
      -- the refusal is reported as FAILED, and there is nothing left to schedule
      simp only [respectsRelease, hwanted, Bool.false_or, Bool.or_eq_true, decide_eq_true_eq,
        Bool.not_eq_true', or_assoc] at hrespects
      rcases hrespects with hauth | hrun | hbudget
      · simp [handle, beventRegisterFail, regFailState, willRetry, hauth, hwanted, hout,
          AcctOut.registering, AcctOut.posted, postedStates_postCopied, RegEvent.of,
          AcctAct.isRegisterFail]
      · by_cases hauth : registerFailError reason = .auth <;>
          simp [handle, beventRegisterFail, regFailState, willRetry, hauth, hwanted, hout, hrun,
            scheduleRetry_of_running, AcctOut.registering, AcctOut.posted, postedStates_postCopied,
            RegEvent.of, AcctAct.isRegisterFail]
      · by_cases hauth : registerFailError reason = .auth <;>
          simp [handle, beventRegisterFail, regFailState, willRetry, hauth, hwanted, hout,
            postedStates_scheduleRetry, retryBudgetLeft_of_eq g hbudget, AcctOut.registering,
            AcctOut.posted, postedStates_postCopied, RegEvent.of, AcctAct.isRegisterFail]
  | srvDone targets =>
      obtain ⟨srv, h⟩ := srvDoneHandler_spec (a := a) targets rfl
      simp [handle, h, hout]
  | retryFires reporting => simp [respectsRelease, hwanted] at hrespects
  | watchFires registered rand => simp [handle, regWatchHandler, hwanted, hout]
  | keepaliveFires inCall sendErr => simp [handle, keepaliveHandler, hwanted, hout]
  | optionsAnswered answered registered rand =>
      have hans : answered = true := by simpa [respectsRelease, hwanted] using hrespects
      simp [handle, keepaliveRespHandler, hans, hdes, hstate, hout]
  | elapse ms => simp [handle, hout]
  | _ => simp [enabled, inSnapshot, hwanted] at hen

theorem settled_handle (act : AcctAct) (halive : a.Alive) (hen : a.enabled now act = true)
    (hsettled : a.Settled) (hrespects : a.respectsRelease g act = true) :
    (a.handle g now act).Settled := by
  generalize hb : a.handle g now act = b
  intro hwanted
  cases act with
  | register dnsErr reporting =>
      have hspec := registerFn_spec g now dnsErr reporting halive hb
      simp_all
  | unregister reporting =>
      have hspec := unregisterFn_spec reporting halive hb
      simp_all
  | retryNow reporting =>
      have hspec := retryNowFn_spec now reporting halive hb
      simp_all
  | cancelRetry =>
      have hspec := cancelRetryFn_spec halive hb
      simp_all [Settled]
  | setRetryPolicy initialMs maxMs backoff maxAttempts =>
      subst hb
      exact hsettled hwanted
  | setPushToken token dupOk reporting =>
      have hspec := setPushTokenFn_spec token dupOk reporting halive hb
      simp_all [Settled, respectsRelease]
  | registerOk =>
      have hspec := beventRegisterOk_spec g now halive hb
      simp_all
  | registerFail reason rand =>
      have hspec := beventRegisterFail_spec g now reason rand halive hb
      by_cases hauth : registerFailError reason = .auth
      · simp_all
      · cases hrun : a.retryTmr.isRunning <;> simp_all [respectsRelease]
  | srvDone targets =>
      obtain ⟨srv, rfl⟩ := srvDoneHandler_spec targets hb
      exact hsettled hwanted
  | retryFires reporting =>
      have hspec := retryTimerHandler_spec now reporting (a := { a with retryTmr := none })
        halive hb
      simp_all [respectsRelease]
  | watchFires registered rand =>
      obtain ⟨-, rfl⟩ | ⟨-, -, -, -, -, -, hwanted', -⟩ :=
        regWatchHandler_cases g now registered rand (a := { a with regWatchTmr := none }) halive hb
      · exact hsettled hwanted
      · simp_all
  | keepaliveFires inCall sendErr =>
      have hspec := keepaliveHandler_cases g now inCall sendErr (a := { a with kaTmr := none })
        halive hb
      simp_all [Settled]
  | optionsAnswered answered registered rand =>
      cases answered with
      | true =>
          have hspec := keepaliveRespHandler_answered g now registered rand halive hb
          simp_all [Settled]
      | false =>
          have hspec := keepaliveRespHandler_unanswered g now registered rand halive hb
          simp_all [respectsRelease]
  | keepaliveNow inCall sendErr =>
      have hspec := keepaliveHandler_cases g now inCall sendErr (a := { a with kaTmr := none })
        halive hb
      simp_all [enabled, inSnapshot]
  | handoverMark =>
      have hspec := regReconnecting_spec halive hb
      simp_all [enabled, inSnapshot]
  | handoverToRetry rand =>
      have hspec := handoverToRetry_spec g now rand halive hb
      simp_all [enabled, inSnapshot]
  | handoverReregister reporting =>
      have hspec := reregister_spec now reporting halive hb
      simp_all [enabled, inSnapshot]
  | elapse ms =>
      subst hb
      exact hsettled hwanted

/-- The app's three calls decide whether the account is wanted; nothing else does. -/
theorem handle_regWanted (act : AcctAct) (halive : a.Alive) :
    (a.handle g now act).regWanted = !act.releases (!a.regWanted) := by
  generalize hb : a.handle g now act = b
  cases act with
  | register dnsErr reporting =>
      simp [AcctAct.releases, registerFn_spec g now dnsErr reporting halive hb]
  | unregister reporting => simp [AcctAct.releases, unregisterFn_spec reporting halive hb]
  | retryNow reporting => simp [AcctAct.releases, retryNowFn_spec now reporting halive hb]
  | cancelRetry => simp [AcctAct.releases, cancelRetryFn_spec halive hb]
  | setRetryPolicy initialMs maxMs backoff maxAttempts =>
      simp [AcctAct.releases, ← hb, handle, setRetryPolicyFn]
  | setPushToken token dupOk reporting =>
      simp [AcctAct.releases, setPushTokenFn_spec token dupOk reporting halive hb]
  | keepaliveNow inCall sendErr =>
      simp [AcctAct.releases,
        keepaliveHandler_cases g now inCall sendErr (a := { a with kaTmr := none }) halive hb]
  | registerOk => simp [AcctAct.releases, beventRegisterOk_spec g now halive hb]
  | registerFail reason rand =>
      simp [AcctAct.releases, beventRegisterFail_spec g now reason rand halive hb]
  | srvDone targets =>
      obtain ⟨srv, rfl⟩ := srvDoneHandler_spec targets hb
      simp [AcctAct.releases]
  | retryFires reporting =>
      simp [AcctAct.releases,
        retryTimerHandler_spec now reporting (a := { a with retryTmr := none }) halive hb]
  | watchFires registered rand =>
      obtain ⟨-, rfl⟩ | ⟨hwanted, -, -, -, -, -, hwanted', -⟩ :=
        regWatchHandler_cases g now registered rand (a := { a with regWatchTmr := none }) halive hb
      · simp [AcctAct.releases]
      · simpa [AcctAct.releases, hwanted'] using hwanted
  | keepaliveFires inCall sendErr =>
      simp [AcctAct.releases,
        keepaliveHandler_cases g now inCall sendErr (a := { a with kaTmr := none }) halive hb]
  | optionsAnswered answered registered rand =>
      cases answered with
      | true =>
          simp [AcctAct.releases, keepaliveRespHandler_answered g now registered rand halive hb]
      | false =>
          simp [AcctAct.releases, keepaliveRespHandler_unanswered g now registered rand halive hb]
  | handoverMark => simp [AcctAct.releases, regReconnecting_spec halive hb]
  | handoverToRetry rand => simp [AcctAct.releases, handoverToRetry_spec g now rand halive hb]
  | handoverReregister reporting =>
      simp [AcctAct.releases, reregister_spec now reporting halive hb]
  | elapse ms => simp [AcctAct.releases, ← hb, handle]

end Account

variable {g : Cfg} {s : OneAccount} {t : Trace AcctAct AcctOut}

/-- What a run whose steps respect the release knows of the account it reaches. -/
theorem released_settled
    (hrun : (oneAccount g).Run (fun s act => s.acct.respectsRelease g act) s t) :
    s.acct.Alive ∧ s.acct.Settled ∧
      (released (t.map Prod.fst) = true → s.acct.regWanted = false) := by
  refine hrun.invariant (I := fun s t => s.acct.Alive ∧ s.acct.Settled ∧
    (released (t.map Prod.fst) = true → s.acct.regWanted = false)) ?_ ?_
  · rintro s ⟨id, cfg, pushToken, h⟩
    rw [h]
    exact ⟨Account.alive_create id cfg pushToken, fun _ => ⟨rfl, by simp [Account.create]⟩,
      fun _ => rfl⟩
  · rintro s t act s' os ⟨halive, hsettled, hreleased⟩ hrespects hstep
    obtain ⟨hen, hacct, -⟩ := oneAccount_step hstep
    have halive' : s.acct.idle.Alive := halive
    rw [hacct]
    refine ⟨(Account.handle_alive g s.now act halive').1,
      Account.settled_handle g s.now act halive' hen hsettled hrespects, fun h => ?_⟩
    rw [Account.handle_regWanted g s.now act halive']
    rw [List.map_append, List.map_singleton, released_append] at h
    simpa using AcctAct.releases_mono (fun hwas => by simp [Account.idle, hreleased hwas]) h

/-- **Unregister is final.** In a run whose steps respect the release, no step calls `ua_register`
for an unwanted account; and between an `unregister` and the next `register` or `retry_now`, no step
calls it at all or announces a state the SDK decided on. -/
theorem unregister_final {act : AcctAct} {os : List AcctOut}
    (hrun : (oneAccount g).Run (fun s act => s.acct.respectsRelease g act) s (t ++ [(act, os)])) :
    ReleaseRespected (t.map Prod.fst) act os := by
  obtain ⟨r, hprev, hrespects, hstep⟩ := hrun.last
  obtain ⟨halive, hsettled, hreleased⟩ := released_settled hprev
  obtain ⟨hen, hacct, -, rfl⟩ := oneAccount_step hstep
  rw [hacct]
  refine ⟨fun hbefore hafter => ?_,
    Account.registersOf_handle g r.now (a := r.acct.idle) act halive hen rfl hrespects⟩
  rw [released_append, hbefore] at hafter
  refine Account.handle_of_not_wanted g r.now (a := r.acct.idle) act halive hen rfl
    (hreleased hbefore) hsettled hrespects ?_ ?_
  · rintro dnsErr reporting rfl
    cases hafter
  · rintro reporting rfl
    cases hafter

/-- A released account that is refused late: the refusal is reported, and that is all. -/
theorem unregister_final_late_refusal :
    ∃ (t : Trace AcctAct AcctOut) (act : AcctAct) (os : List AcctOut),
      ReleaseRespected (t.map Prod.fst) act os ∧
      released ((t.map Prod.fst) ++ [act]) = true ∧ postedStates os = [.failed] := by
  obtain ⟨s, u, hrun, hlast⟩ := Machine.exists_run_of_exec
    (fun s act => s.acct.respectsRelease configInit act) (justCreated_init configInit)
    [.register false true, .unregister true,
      .registerFail (some "403 Forbidden".toList) 0]
    (fun _ u => u.getLast?.any fun p => decide (postedStates p.2 = [.failed]) &&
      released (u.dropLast.map Prod.fst ++ [p.1])) (by decide +kernel)
  cases hu : u.getLast? with
  | none => simp [hu] at hlast
  | some p =>
      rw [← List.dropLast_append_getLast? p hu] at hrun
      have hfinal := unregister_final hrun
      simp only [hu, Option.any_some, Bool.and_eq_true, decide_eq_true_eq] at hlast
      exact ⟨u.dropLast, p.1, p.2, hfinal, hlast.2, hlast.1⟩

/-- Without the condition a retry armed before `unregister` still fires after it. -/
theorem register_after_unregister :
    ¬ ∀ (g : Cfg) (s : OneAccount) (t : Trace AcctAct AcctOut) (act : AcctAct) (os : List AcctOut),
      (oneAccount g).Run Machine.Always s (t ++ [(act, os)]) →
        ReleaseRespected (t.map Prod.fst) act os := by
  intro h
  obtain ⟨s, u, hrun, hlast⟩ := Machine.exists_run_of_exec (fun _ _ => true)
    (justCreated_init configInit)
    [.register false true, .registerFail (some "503 Service Unavailable".toList) 0,
      .unregister true, .elapse 2400, .retryFires true]
    (fun _ u => u.getLast?.any fun p => (registersOf p.2).contains false) (by decide +kernel)
  cases hu : u.getLast? with
  | none => simp [hu] at hlast
  | some p =>
      rw [← List.dropLast_append_getLast? p hu] at hrun
      have hwanted := (h configInit s u.dropLast p.1 p.2 hrun.always).2 false
        (by simpa [hu] using hlast)
      cases hwanted

end VoxSdk
