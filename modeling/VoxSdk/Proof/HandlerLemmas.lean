import VoxSdk.Proof.AccountLemmas

/-!
# What each handler does

For every event of a live account, what its handler leaves in the fields that decide about the
registration: whether the app wants it, the reported state, the recovery flag, and the timers that
drive it.
-/

namespace VoxSdk

open Reactive

namespace Account

/-- The account has its user agent and is not being destroyed. -/
def Alive (a : Account) : Prop := a.ua = true ∧ a.destroyed = false

variable (g : Cfg) (now : Nat) {a : Account}

theorem alive_create (id : Nat) (cfg : AccountCfg) (pushToken : Option CStr) :
    (create id cfg pushToken).Alive := ⟨rfl, rfl⟩

theorem registerFn_spec (dnsErr reporting : Bool) (h : a.Alive) {b : Account}
    (hb : a.registerFn g now dnsErr reporting = b) :
    b.Alive ∧ b.cfg = a.cfg ∧ b.regWanted = true ∧
      b.regState = (if reporting then .registering else a.regState) ∧ b.reconnecting = false ∧
      b.retryTmr = a.retryTmr ∧ b.regWatchTmr = Timer.start now regWatchIntervalMs ∧
      b.kaTmr = a.kaTmr ∧ b.kaInFlight = a.kaInFlight := by
  subst hb
  obtain ⟨hua, hdes⟩ := h
  simp [registerFn, Alive, hua, hdes, uaRegister_regState]

theorem unregisterFn_spec (reporting : Bool) (h : a.Alive) {b : Account}
    (hb : a.unregisterFn reporting = b) :
    b.Alive ∧ b.cfg = a.cfg ∧ b.regWanted = false ∧ b.regState = .unregistering ∧
      b.reconnecting = false ∧ b.retryTmr = a.retryTmr ∧ b.regWatchTmr = none ∧
      b.kaTmr = none ∧ b.kaInFlight = a.kaInFlight := by
  subst hb
  obtain ⟨hua, hdes⟩ := h
  simp [unregisterFn, Alive, hua, hdes, uaUnregister_regState]

theorem retryNowFn_spec (reporting : Bool) (h : a.Alive) {b : Account}
    (hb : a.retryNowFn now reporting = b) :
    b.Alive ∧ b.cfg = a.cfg ∧ b.regWanted = true ∧
      b.regState =
        (if reporting then (if a.reconnecting then .reconnecting else .registering)
        else a.regState) ∧
      b.reconnecting = a.reconnecting ∧ b.retryTmr = none ∧
      b.regWatchTmr = Timer.start now regWatchIntervalMs ∧ b.kaTmr = a.kaTmr ∧
      b.kaInFlight = a.kaInFlight := by
  subst hb
  obtain ⟨hua, hdes⟩ := h
  simp [retryNowFn, Alive, hua, hdes, uaRegister_regState]

/-- The app takes the recovery away: the state it saw last becomes FAILED. -/
theorem cancelRetryFn_spec (h : a.Alive) {b : Account}
    (hb : a.cancelRetryFn = b) :
    b.Alive ∧ b.cfg = a.cfg ∧ b.regWanted = a.regWanted ∧
      b.regState = (if a.regState = .reconnecting then .failed else a.regState) ∧
      b.reconnecting = (if a.regState = .reconnecting then false else a.reconnecting) ∧
      b.retryTmr = none ∧ b.regWatchTmr = none ∧ b.kaTmr = a.kaTmr ∧
      b.kaInFlight = a.kaInFlight := by
  subst hb
  obtain ⟨hua, hdes⟩ := h
  by_cases hst : a.regState = .reconnecting <;> simp [cancelRetryFn, Alive, hua, hdes, hst]

/-- Whether a new push token makes the account register again at once. -/
def reRegisters (token : Option CStr) (dupOk : Bool) (a : Account) : Bool :=
  ((a.storePushToken token dupOk).buildPushContactParams pushParamsBufsz).isSome &&
    !a.registerDeferred

@[simp]
theorem storePushToken_frame (token : Option CStr) (dupOk : Bool) :
    (a.storePushToken token dupOk).cfg = a.cfg ∧
      (a.storePushToken token dupOk).ua = a.ua ∧
      (a.storePushToken token dupOk).destroyed = a.destroyed ∧
      (a.storePushToken token dupOk).regState = a.regState ∧
      (a.storePushToken token dupOk).reconnecting = a.reconnecting ∧
      (a.storePushToken token dupOk).lastRc = a.lastRc ∧
      (a.storePushToken token dupOk).retryTmr = a.retryTmr ∧
      (a.storePushToken token dupOk).regWatchTmr = a.regWatchTmr ∧
      (a.storePushToken token dupOk).regWanted = a.regWanted ∧
      (a.storePushToken token dupOk).kaTmr = a.kaTmr ∧
      (a.storePushToken token dupOk).kaInFlight = a.kaInFlight ∧
      (a.storePushToken token dupOk).out = a.out ∧
      (a.storePushToken token dupOk).registerDeferred = a.registerDeferred := by
  refine ⟨rfl, rfl, rfl, rfl, rfl, rfl, rfl, rfl, rfl, rfl, rfl, rfl, rfl⟩

/-- A new push token registers again unless that would disturb what is under way. -/
theorem setPushTokenFn_eq (token : Option CStr) (dupOk reporting : Bool) (h : a.Alive) :
    ∃ err, a.setPushTokenFn token dupOk reporting =
      (if a.reRegisters token dupOk then (a.storePushToken token dupOk).uaRegister reporting
      else a.storePushToken token dupOk).emit (.result err) := by
  obtain ⟨hua, -⟩ := h
  unfold setPushTokenFn reRegisters
  cases hb : (a.storePushToken token dupOk).buildPushContactParams pushParamsBufsz with
  | none => exact ⟨.inval, by simp [hua, hb]⟩
  | some params => exact ⟨.ok, by cases hd : a.registerDeferred <;> simp [hua, hb, hd]⟩

theorem setPushTokenFn_spec (token : Option CStr) (dupOk reporting : Bool) (h : a.Alive)
    {b : Account} (hb : a.setPushTokenFn token dupOk reporting = b) :
    b.Alive ∧ b.cfg = a.cfg ∧ b.regWanted = a.regWanted ∧
      b.regState =
        (if a.reRegisters token dupOk && reporting then
          (if a.reconnecting then .reconnecting else .registering)
        else a.regState) ∧
      b.reconnecting = a.reconnecting ∧ b.retryTmr = a.retryTmr ∧
      b.regWatchTmr = a.regWatchTmr ∧ b.kaTmr = a.kaTmr ∧ b.kaInFlight = a.kaInFlight := by
  obtain ⟨err, heq⟩ := setPushTokenFn_eq token dupOk reporting h
  obtain ⟨hua, hdes⟩ := h
  rw [← hb, heq]
  cases hre : a.reRegisters token dupOk <;> simp [Alive, hua, hdes, uaRegister_regState]

theorem beventRegisterOk_spec (h : a.Alive) {b : Account}
    (hb : a.beventRegisterOk g now = b) :
    b.Alive ∧ b.cfg = a.cfg ∧ b.regWanted = a.regWanted ∧ b.regState = .registered ∧
      b.reconnecting = false ∧ b.retryTmr = a.retryTmr ∧ b.regWatchTmr = a.regWatchTmr ∧
      b.kaInFlight = a.kaInFlight ∧
      b.kaTmr.isRunning =
        (a.kaTmr.isRunning || (a.regWanted && decide (g.keepaliveInterval ≠ 0))) := by
  subst hb
  obtain ⟨hua, hdes⟩ := h
  simp [beventRegisterOk, Alive, hua, hdes, keepaliveArm_isRunning]

/-- The registrar refuses: terminal for bad credentials, else a matter of the retry. -/
theorem beventRegisterFail_spec (reason : Option CStr) (rand : Nat) (h : a.Alive) {b : Account}
    (hb : a.beventRegisterFail g now reason rand = b) :
    b.Alive ∧ b.cfg = a.cfg ∧ b.regWanted = a.regWanted ∧
      b.regState =
        (if registerFailError reason = .auth then .failed
        else if a.retryTmr.isRunning then (if a.regWanted then .reconnecting else .failed)
        else if a.retryBudgetLeft g then .reconnecting else .failed) ∧
      b.reconnecting =
        (if registerFailError reason = .auth then false
        else if a.retryTmr.isRunning then a.regWanted else a.retryBudgetLeft g) ∧
      b.retryTmr.isRunning =
        (a.retryTmr.isRunning ||
          (decide (registerFailError reason ≠ .auth) && a.retryBudgetLeft g)) ∧
      b.regWatchTmr = a.regWatchTmr ∧ b.kaTmr = none ∧ b.kaInFlight = a.kaInFlight := by
  subst hb
  obtain ⟨hua, hdes⟩ := h
  unfold beventRegisterFail regFailState willRetry
  by_cases hauth : registerFailError reason = .auth
  · simp [hauth, Alive, hua, hdes]
  · cases hbudget : a.retryBudgetLeft g <;> cases hrun : a.retryTmr.isRunning <;>
      cases hwanted : a.regWanted <;>
      simp [hauth, Alive, hua, hdes, hrun, scheduleRetry_regState, scheduleRetry_isRunning,
        scheduleRetry_reconnecting, retryBudgetLeft_of_eq g hbudget]

theorem retryTimerHandler_spec (reporting : Bool) (h : a.Alive) {b : Account}
    (hb : a.retryTimerHandler now reporting = b) :
    b.Alive ∧ b.cfg = a.cfg ∧ b.regWanted = a.regWanted ∧
      b.regState =
        (if reporting then (if a.reconnecting then .reconnecting else .registering)
        else a.regState) ∧
      b.reconnecting = a.reconnecting ∧ b.retryTmr = a.retryTmr ∧
      b.regWatchTmr = Timer.start now regWatchIntervalMs ∧ b.kaTmr = a.kaTmr ∧
      b.kaInFlight = a.kaInFlight := by
  subst hb
  obtain ⟨hua, hdes⟩ := h
  simp [retryTimerHandler, Alive, hua, hdes, uaRegister_regState]

/-- A watchdog tick finds nothing owed, or a registration nobody reported, or goes on waiting, or
gives up and hands over to the retry. -/
theorem regWatchHandler_cases (registered : Bool) (rand : Nat) (h : a.Alive) {b : Account}
    (hb : a.regWatchHandler g now registered rand = b) :
    ((a.regWanted = false ∨ a.regState = .registered ∨ a.regState = .failed ∨
        a.retryTmr.isRunning = true) ∧ b = a) ∨
      (a.regWanted = true ∧ a.regState ≠ .registered ∧ a.regState ≠ .failed ∧
        a.retryTmr.isRunning = false ∧
        b.Alive ∧ b.cfg = a.cfg ∧ b.regWanted = true ∧ b.kaInFlight = a.kaInFlight ∧
        ((registered = true ∧ b.regState = .registered ∧ b.reconnecting = false ∧
            b.retryTmr = a.retryTmr ∧ b.regWatchTmr = a.regWatchTmr ∧
            b.kaTmr.isRunning = (a.kaTmr.isRunning || decide (g.keepaliveInterval ≠ 0))) ∨
          (registered = false ∧ b.regState = a.regState ∧ b.reconnecting = a.reconnecting ∧
            b.retryTmr = a.retryTmr ∧ b.regWatchTmr = Timer.start now regWatchIntervalMs ∧
            b.kaTmr = a.kaTmr) ∨
          (registered = false ∧
            b.regState = (if a.retryBudgetLeft g then .reconnecting else .failed) ∧
            b.reconnecting = a.retryBudgetLeft g ∧
            b.retryTmr.isRunning = a.retryBudgetLeft g ∧ b.regWatchTmr = a.regWatchTmr ∧
            b.kaTmr = a.kaTmr))) := by
  subst hb
  obtain ⟨hua, hdes⟩ := h
  unfold regWatchHandler
  by_cases hwanted : a.regWanted = true
  · by_cases hend : a.regState = .registered ∨ a.regState = .failed
    · exact .inl ⟨by tauto, by simp [hua, hdes, hwanted, hend]⟩
    · by_cases hrun : a.retryTmr.isRunning = true
      · exact .inl ⟨by tauto, by simp [hua, hdes, hwanted, hend, hrun]⟩
      · right
        obtain ⟨hregistered, hfailed⟩ := not_or.mp hend
        cases registered with
        | true =>
            simp [Alive, hua, hdes, hwanted, hregistered, hfailed, hrun, keepaliveArm_isRunning]
        | false =>
            by_cases htime : g.sipTimerFMs ≠ 0 ∧
                g.sipTimerFMs ≤ u32 (a.regWatchElapsedMs + regWatchIntervalMs)
            · cases hbudget : a.retryBudgetLeft g <;>
                simp [Alive, hua, hdes, hwanted, hregistered, hfailed, hrun, htime, regFailState,
                  willRetry, scheduleRetry_regState, scheduleRetry_isRunning,
                  scheduleRetry_reconnecting, retryBudgetLeft_of_eq g hbudget]
            · simp [Alive, hua, hdes, hwanted, hregistered, hfailed, hrun, htime]
  · exact .inl ⟨by simp [hwanted], by simp [hua, hdes, hwanted]⟩

/-- A probe tick does nothing, or arms the next tick, or sends a probe. -/
theorem keepaliveHandler_cases (inCall sendErr : Bool) (h : a.Alive) {b : Account}
    (hb : a.keepaliveHandler g now inCall sendErr = b) :
    b.Alive ∧ b.cfg = a.cfg ∧ b.regWanted = a.regWanted ∧ b.regState = a.regState ∧
      b.reconnecting = a.reconnecting ∧ b.retryTmr = a.retryTmr ∧
      b.regWatchTmr = a.regWatchTmr ∧
      ((b = a ∧ (a.regWanted = false ∨ a.kaInFlight = true ∨
          inCall = false ∧ a.probeable = false)) ∨
        (a.kaInFlight = false ∧ b.kaInFlight = false ∧
          b.kaTmr.isRunning = (a.kaTmr.isRunning || decide (g.keepaliveInterval ≠ 0))) ∨
        (b.kaTmr = a.kaTmr ∧ b.kaInFlight = true)) := by
  subst hb
  obtain ⟨hua, hdes⟩ := h
  unfold keepaliveHandler
  by_cases hwanted : a.regWanted = true
  · by_cases hflight : a.kaInFlight = true
    · simp [Alive, hua, hdes, hwanted, hflight]
    · cases inCall with
      | true => simp [Alive, hua, hdes, hwanted, hflight, keepaliveArm_isRunning]
      | false =>
          by_cases hprobe : a.probeable = true
          · cases sendErr <;>
              simp [Alive, hua, hdes, hwanted, hflight, hprobe, keepaliveArm_isRunning]
          · simp [Alive, hua, hdes, hwanted, hflight, hprobe]
  · simp [Alive, hua, hdes, hwanted]

/-- An answer ends the outage the probe itself reported, and nothing else. -/
theorem keepaliveRespHandler_answered (registered : Bool) (rand : Nat) (h : a.Alive) {b : Account}
    (hb : a.keepaliveRespHandler g now true registered rand = b) :
    b.Alive ∧ b.cfg = a.cfg ∧ b.regWanted = a.regWanted ∧
      b.regState =
        (if a.kaFailed && decide (a.regState = .reconnecting) && registered then .registered
        else a.regState) ∧
      b.reconnecting =
        (if a.kaFailed && decide (a.regState = .reconnecting) && registered then false
        else a.reconnecting) ∧
      b.retryTmr = a.retryTmr ∧ b.regWatchTmr = a.regWatchTmr ∧ b.kaInFlight = false ∧
      b.kaTmr.isRunning =
        (a.kaTmr.isRunning || (a.regWanted && decide (g.keepaliveInterval ≠ 0))) := by
  subst hb
  obtain ⟨hua, hdes⟩ := h
  unfold keepaliveRespHandler
  cases hrec : (a.kaFailed && decide (a.regState = .reconnecting) && registered) <;>
    simp [Alive, hua, hdes, hrec, keepaliveArm_isRunning]

/-- A probe that is not answered starts a recovery: through the retry, or by probing on. -/
theorem keepaliveRespHandler_unanswered (registered : Bool) (rand : Nat) (h : a.Alive) {b : Account}
    (hb : a.keepaliveRespHandler g now false registered rand = b) :
    b.Alive ∧ b.cfg = a.cfg ∧ b.regWanted = a.regWanted ∧ b.regWatchTmr = a.regWatchTmr ∧
      b.kaInFlight = false ∧
      (if g.keepaliveReregister && a.regWanted then
        b.regState =
            (if a.retryTmr.isRunning || a.retryBudgetLeft g then .reconnecting else .failed) ∧
          b.reconnecting = (a.retryTmr.isRunning || a.retryBudgetLeft g) ∧
          b.retryTmr.isRunning = (a.retryTmr.isRunning || a.retryBudgetLeft g) ∧
          b.kaTmr = a.kaTmr
      else
        b.regState = (if a.regWanted then .reconnecting else .failed) ∧
          b.reconnecting = a.regWanted ∧ b.retryTmr = a.retryTmr ∧
          b.kaTmr.isRunning =
            (a.kaTmr.isRunning || (a.regWanted && decide (g.keepaliveInterval ≠ 0)))) := by
  subst hb
  obtain ⟨hua, hdes⟩ := h
  unfold keepaliveRespHandler
  cases hre : (g.keepaliveReregister && a.regWanted) with
  | false => simp [Alive, hua, hdes, hre, keepaliveArm_isRunning]
  | true =>
      obtain ⟨hcfg, hwanted⟩ := Bool.and_eq_true_iff.mp hre
      cases hbudget : a.retryBudgetLeft g <;> cases hrun : a.retryTmr.isRunning <;>
        simp [Alive, hua, hdes, hcfg, hwanted, hrun, regFailState, willRetry,
          scheduleRetry_regState, scheduleRetry_isRunning, scheduleRetry_reconnecting,
          retryBudgetLeft_of_eq g hbudget]

/-- The SRV answer changes the list of proxies only. -/
theorem srvDoneHandler_spec (targets : Option (List (Transport × CStr × Nat))) {b : Account}
    (hb : a.srvDoneHandler targets = b) :
    ∃ srv, b = { a with srv := srv } := by
  subst hb
  unfold srvDoneHandler
  split
  · exact ⟨a.srv, rfl⟩
  · cases targets <;> exact ⟨_, rfl⟩

/-! ### Network handover -/

theorem regReconnecting_spec (h : a.Alive) {b : Account} (hb : a.regReconnecting = b) :
    b.Alive ∧ b.cfg = a.cfg ∧ b.regWanted = a.regWanted ∧ b.retryTmr = a.retryTmr ∧
      b.regWatchTmr = a.regWatchTmr ∧ b.kaInFlight = a.kaInFlight ∧
      (if a.regWanted && (decide (a.regState = .registered) || decide (a.regState = .registering))
        then b.regState = .reconnecting ∧ b.reconnecting = true ∧ b.kaTmr = none
        else b = a) := by
  subst hb
  obtain ⟨hua, hdes⟩ := h
  unfold regReconnecting
  cases hwanted : a.regWanted with
  | false => simp [Alive, hua, hdes, hwanted]
  | true => cases hst : a.regState <;> simp [Alive, hua, hdes, hwanted]

theorem alive_of_inSnapshot (h : a.inSnapshot = true) : a.Alive ∧ a.regWanted = true := by
  simp only [inSnapshot, Bool.and_eq_true, Bool.not_eq_true'] at h
  exact ⟨⟨h.1.2, h.1.1⟩, h.2⟩

theorem inSnapshot_regReconnecting (h : a.inSnapshot = true) :
    a.regReconnecting.inSnapshot = true := by
  obtain ⟨halive, hwas⟩ := alive_of_inSnapshot h
  obtain ⟨⟨hua, hdes⟩, -, hwanted, -⟩ := regReconnecting_spec halive rfl
  simp [inSnapshot, hua, hdes, hwanted, hwas]

theorem handoverToRetry_spec (rand : Nat) (h : a.Alive) {b : Account}
    (hb : a.handoverToRetry g now rand = b) :
    b.Alive ∧ b.cfg = a.cfg ∧ b.regWanted = a.regWanted ∧ b.regWatchTmr = a.regWatchTmr ∧
      b.kaTmr = a.kaTmr ∧ b.kaInFlight = a.kaInFlight ∧
      (if a.regState = .reconnecting ∧ a.retryTmr.isRunning = false then
        b.regState = (if a.retryBudgetLeft g then .reconnecting else .failed) ∧
          b.reconnecting = a.retryBudgetLeft g ∧ b.retryTmr.isRunning = a.retryBudgetLeft g
      else b = a) := by
  subst hb
  obtain ⟨hua, hdes⟩ := h
  unfold handoverToRetry
  by_cases hst : a.regState = .reconnecting
  · cases hrun : a.retryTmr.isRunning <;>
      simp [Alive, hua, hdes, hst, hrun, scheduleRetry_of_running, scheduleRetry_regState,
        scheduleRetry_isRunning, scheduleRetry_reconnecting]
  · simp [Alive, hua, hdes, hst]

theorem reregister_spec (reporting : Bool) (h : a.Alive) {b : Account}
    (hb : a.reregister now reporting = b) :
    b.Alive ∧ b.cfg = a.cfg ∧ b.regWanted = a.regWanted ∧ b.kaTmr = a.kaTmr ∧
      b.kaInFlight = a.kaInFlight ∧
      (if a.authFailed then b = a
      else
        b.regState = (if reporting then .reconnecting else a.regState) ∧ b.reconnecting = true ∧
          b.retryTmr = none ∧ b.regWatchTmr = Timer.start now regWatchIntervalMs ∧
          b.retryAttempt = 0) := by
  subst hb
  obtain ⟨hua, hdes⟩ := h
  unfold reregister
  cases hauth : a.authFailed <;> simp [Alive, hua, hdes, uaRegister_regState]

/-! ### All of them -/

/-- No handler takes a live account down, and its configuration is fixed. -/
theorem handle_alive (act : AcctAct) (h : a.Alive) :
    (a.handle g now act).Alive ∧ (a.handle g now act).cfg = a.cfg := by
  generalize hb : a.handle g now act = b
  cases act with
  | register dnsErr reporting =>
      have hspec := registerFn_spec g now dnsErr reporting h hb
      exact ⟨hspec.1, hspec.2.1⟩
  | unregister reporting =>
      have hspec := unregisterFn_spec reporting h hb
      exact ⟨hspec.1, hspec.2.1⟩
  | retryNow reporting =>
      have hspec := retryNowFn_spec now reporting h hb
      exact ⟨hspec.1, hspec.2.1⟩
  | cancelRetry =>
      have hspec := cancelRetryFn_spec h hb
      exact ⟨hspec.1, hspec.2.1⟩
  | setRetryPolicy initialMs maxMs backoff maxAttempts => exact hb ▸ ⟨h, rfl⟩
  | setPushToken token dupOk reporting =>
      have hspec := setPushTokenFn_spec token dupOk reporting h hb
      exact ⟨hspec.1, hspec.2.1⟩
  | keepaliveNow inCall sendErr =>
      have hspec := keepaliveHandler_cases g now inCall sendErr (a := { a with kaTmr := none }) h hb
      exact ⟨hspec.1, hspec.2.1⟩
  | registerOk =>
      have hspec := beventRegisterOk_spec g now h hb
      exact ⟨hspec.1, hspec.2.1⟩
  | registerFail reason rand =>
      have hspec := beventRegisterFail_spec g now reason rand h hb
      exact ⟨hspec.1, hspec.2.1⟩
  | srvDone targets =>
      obtain ⟨srv, rfl⟩ := srvDoneHandler_spec targets hb
      exact ⟨h, rfl⟩
  | retryFires reporting =>
      have hspec := retryTimerHandler_spec now reporting (a := { a with retryTmr := none }) h hb
      exact ⟨hspec.1, hspec.2.1⟩
  | watchFires registered rand =>
      obtain ⟨-, rfl⟩ | ⟨-, -, -, -, halive, hcfg, -⟩ :=
        regWatchHandler_cases g now registered rand (a := { a with regWatchTmr := none }) h hb
      · exact ⟨h, rfl⟩
      · exact ⟨halive, hcfg⟩
  | keepaliveFires inCall sendErr =>
      have hspec := keepaliveHandler_cases g now inCall sendErr (a := { a with kaTmr := none }) h hb
      exact ⟨hspec.1, hspec.2.1⟩
  | optionsAnswered answered registered rand =>
      cases answered with
      | true =>
          have hspec := keepaliveRespHandler_answered g now registered rand h hb
          exact ⟨hspec.1, hspec.2.1⟩
      | false =>
          have hspec := keepaliveRespHandler_unanswered g now registered rand h hb
          exact ⟨hspec.1, hspec.2.1⟩
  | handoverMark =>
      have hspec := regReconnecting_spec h hb
      exact ⟨hspec.1, hspec.2.1⟩
  | handoverToRetry rand =>
      have hspec := handoverToRetry_spec g now rand h hb
      exact ⟨hspec.1, hspec.2.1⟩
  | handoverReregister reporting =>
      have hspec := reregister_spec now reporting h hb
      exact ⟨hspec.1, hspec.2.1⟩
  | elapse ms => exact hb ▸ ⟨h, rfl⟩

end Account

end VoxSdk
