import VoxSdk.AccountMachine

/-!
# What each function leaves alone

One frame lemma for each function of the account that is called by another, and a lemma for each
thing it decides. The proofs about runs use these and do not unfold the functions again.
-/

namespace VoxSdk

open Reactive

namespace Account

variable (g : Cfg) (now : Nat) (a : Account)

/-! ### Reporting -/

@[simp]
theorem emit_frame (o : AcctOut) :
    (a.emit o).cfg = a.cfg ∧
      (a.emit o).ua = a.ua ∧
      (a.emit o).destroyed = a.destroyed ∧
      (a.emit o).regState = a.regState ∧
      (a.emit o).regError = a.regError ∧
      (a.emit o).regErrorStr = a.regErrorStr ∧
      (a.emit o).reconnecting = a.reconnecting ∧
      (a.emit o).retryAttempt = a.retryAttempt ∧
      (a.emit o).retryDelayMs = a.retryDelayMs ∧
      (a.emit o).lastRc = a.lastRc ∧
      (a.emit o).retryPolicy = a.retryPolicy ∧
      (a.emit o).retryTmr = a.retryTmr ∧
      (a.emit o).regWatchTmr = a.regWatchTmr ∧
      (a.emit o).regWanted = a.regWanted ∧
      (a.emit o).kaTmr = a.kaTmr ∧
      (a.emit o).kaInFlight = a.kaInFlight ∧
      (a.emit o).kaFailed = a.kaFailed ∧
      (a.emit o).out = a.out ++ [o] := by
  simp [emit]

@[simp]
theorem setRegState_frame (st : RegState) :
    (a.setRegState st).cfg = a.cfg ∧
      (a.setRegState st).ua = a.ua ∧
      (a.setRegState st).destroyed = a.destroyed ∧
      (a.setRegState st).regError = a.regError ∧
      (a.setRegState st).regErrorStr = a.regErrorStr ∧
      (a.setRegState st).reconnecting = a.reconnecting ∧
      (a.setRegState st).retryAttempt = a.retryAttempt ∧
      (a.setRegState st).retryDelayMs = a.retryDelayMs ∧
      (a.setRegState st).lastRc = a.lastRc ∧
      (a.setRegState st).retryPolicy = a.retryPolicy ∧
      (a.setRegState st).retryTmr = a.retryTmr ∧
      (a.setRegState st).regWatchTmr = a.regWatchTmr ∧
      (a.setRegState st).regWanted = a.regWanted ∧
      (a.setRegState st).kaTmr = a.kaTmr ∧
      (a.setRegState st).kaInFlight = a.kaInFlight ∧
      (a.setRegState st).kaFailed = a.kaFailed ∧
      (a.setRegState st).regState = st ∧
      (a.setRegState st).out = a.out ++ [.regState st] := by
  simp [setRegState]

@[simp]
theorem keepaliveCancel_eq : a.keepaliveCancel = { a with kaTmr := none } := rfl

theorem postPrepared_eq_postCopied (ev : RegEvent) :
    a.postPrepared ev = a.postCopied ev ev.errorStr := by
  unfold postPrepared postCopied regEvPrepare
  by_cases hst : ev.state ≠ .reconnecting
  · simp [hst, stamp]
  · by_cases hsame : a.sameReport ev.error = true
    · simp [hst, hsame]
    · simp [hst, hsame, stamp]

/-- Posting touches the reporting fields only. -/
@[simp]
theorem postCopied_frame (ev : RegEvent) (reason : ErrStr) :
    (a.postCopied ev reason).cfg = a.cfg ∧
      (a.postCopied ev reason).ua = a.ua ∧
      (a.postCopied ev reason).destroyed = a.destroyed ∧
      (a.postCopied ev reason).regState = a.regState ∧
      (a.postCopied ev reason).regError = a.regError ∧
      (a.postCopied ev reason).regErrorStr = a.regErrorStr ∧
      (a.postCopied ev reason).reconnecting = a.reconnecting ∧
      (a.postCopied ev reason).retryAttempt = a.retryAttempt ∧
      (a.postCopied ev reason).retryPolicy = a.retryPolicy ∧
      (a.postCopied ev reason).retryTmr = a.retryTmr ∧
      (a.postCopied ev reason).regWatchTmr = a.regWatchTmr ∧
      (a.postCopied ev reason).regWanted = a.regWanted ∧
      (a.postCopied ev reason).kaTmr = a.kaTmr ∧
      (a.postCopied ev reason).kaInFlight = a.kaInFlight ∧
      (a.postCopied ev reason).kaFailed = a.kaFailed := by
  unfold postCopied regEvPrepare
  by_cases hst : ev.state ≠ .reconnecting
  · simp [hst, reconnectReset]
  · by_cases hsame : a.sameReport ev.error = true
    · simp [hst, hsame]
    · simp [hst, hsame, remember]

@[simp]
theorem postPrepared_frame (ev : RegEvent) :
    (a.postPrepared ev).cfg = a.cfg ∧
      (a.postPrepared ev).ua = a.ua ∧
      (a.postPrepared ev).destroyed = a.destroyed ∧
      (a.postPrepared ev).regState = a.regState ∧
      (a.postPrepared ev).regError = a.regError ∧
      (a.postPrepared ev).regErrorStr = a.regErrorStr ∧
      (a.postPrepared ev).reconnecting = a.reconnecting ∧
      (a.postPrepared ev).retryAttempt = a.retryAttempt ∧
      (a.postPrepared ev).retryPolicy = a.retryPolicy ∧
      (a.postPrepared ev).retryTmr = a.retryTmr ∧
      (a.postPrepared ev).regWatchTmr = a.regWatchTmr ∧
      (a.postPrepared ev).regWanted = a.regWanted ∧
      (a.postPrepared ev).kaTmr = a.kaTmr ∧
      (a.postPrepared ev).kaInFlight = a.kaInFlight ∧
      (a.postPrepared ev).kaFailed = a.kaFailed := by
  rw [postPrepared_eq_postCopied]
  exact a.postCopied_frame ev ev.errorStr

theorem postCopied_retryTmr (ev : RegEvent) (reason : ErrStr) :
    (a.postCopied ev reason).retryTmr = a.retryTmr := by simp

theorem postCopied_retryAttempt (ev : RegEvent) (reason : ErrStr) :
    (a.postCopied ev reason).retryAttempt = a.retryAttempt := by simp

theorem postPrepared_retryTmr (ev : RegEvent) : (a.postPrepared ev).retryTmr = a.retryTmr := by simp

theorem postPrepared_retryAttempt (ev : RegEvent) :
    (a.postPrepared ev).retryAttempt = a.retryAttempt := by simp

theorem postPrepared_retryPolicy (ev : RegEvent) :
    (a.postPrepared ev).retryPolicy = a.retryPolicy := by simp

/-! ### Timers and requests -/

theorem keepaliveArm_eq : a.keepaliveArm g now = { a with kaTmr := (a.keepaliveArm g now).kaTmr } := by
  unfold keepaliveArm
  split
  · rfl
  · split <;> rfl

@[simp]
theorem keepaliveArm_frame :
    (a.keepaliveArm g now).cfg = a.cfg ∧
      (a.keepaliveArm g now).ua = a.ua ∧
      (a.keepaliveArm g now).destroyed = a.destroyed ∧
      (a.keepaliveArm g now).regState = a.regState ∧
      (a.keepaliveArm g now).regError = a.regError ∧
      (a.keepaliveArm g now).reconnecting = a.reconnecting ∧
      (a.keepaliveArm g now).retryAttempt = a.retryAttempt ∧
      (a.keepaliveArm g now).lastRc = a.lastRc ∧
      (a.keepaliveArm g now).retryTmr = a.retryTmr ∧
      (a.keepaliveArm g now).regWatchTmr = a.regWatchTmr ∧
      (a.keepaliveArm g now).regWanted = a.regWanted ∧
      (a.keepaliveArm g now).kaInFlight = a.kaInFlight ∧
      (a.keepaliveArm g now).kaFailed = a.kaFailed ∧
      (a.keepaliveArm g now).out = a.out := by
  rw [keepaliveArm_eq]
  simp

@[simp]
theorem keepaliveArm_regErrorStr : (a.keepaliveArm g now).regErrorStr = a.regErrorStr := by
  rw [keepaliveArm_eq]

/-- The probe is armed for an account the app wants registered, unless probing is off. -/
theorem keepaliveArm_isRunning :
    (a.keepaliveArm g now).kaTmr.isRunning =
      (a.kaTmr.isRunning ||
        (!a.destroyed && a.regWanted && decide (g.keepaliveInterval ≠ 0))) := by
  unfold keepaliveArm
  cases hdes : a.destroyed <;> cases hwanted : a.regWanted <;>
    by_cases hinterval : g.keepaliveInterval = 0 <;> simp [hinterval]

/-- Registering reports through BEVENT_REGISTERING and changes nothing else of the registration. -/
@[simp]
theorem uaRegister_frame (reporting : Bool) :
    (a.uaRegister reporting).cfg = a.cfg ∧
      (a.uaRegister reporting).ua = a.ua ∧
      (a.uaRegister reporting).destroyed = a.destroyed ∧
      (a.uaRegister reporting).regError = a.regError ∧
      (a.uaRegister reporting).reconnecting = a.reconnecting ∧
      (a.uaRegister reporting).retryAttempt = a.retryAttempt ∧
      (a.uaRegister reporting).retryTmr = a.retryTmr ∧
      (a.uaRegister reporting).regWatchTmr = a.regWatchTmr ∧
      (a.uaRegister reporting).regWanted = a.regWanted ∧
      (a.uaRegister reporting).kaTmr = a.kaTmr ∧
      (a.uaRegister reporting).kaInFlight = a.kaInFlight ∧
      (a.uaRegister reporting).kaFailed = a.kaFailed := by
  unfold uaRegister
  cases reporting with
  | false => simp
  | true => by_cases hrec : a.reconnecting = true <;> simp [beventRegistering, hrec]

theorem uaRegister_regState (reporting : Bool) :
    (a.uaRegister reporting).regState =
      if reporting then (if a.reconnecting then .reconnecting else .registering)
      else a.regState := by
  unfold uaRegister
  cases reporting with
  | false => simp
  | true => by_cases hrec : a.reconnecting = true <;> simp [beventRegistering, hrec]

@[simp]
theorem uaUnregister_frame (reporting : Bool) :
    (a.uaUnregister reporting).cfg = a.cfg ∧
      (a.uaUnregister reporting).ua = a.ua ∧
      (a.uaUnregister reporting).destroyed = a.destroyed ∧
      (a.uaUnregister reporting).retryTmr = a.retryTmr ∧
      (a.uaUnregister reporting).regWatchTmr = a.regWatchTmr ∧
      (a.uaUnregister reporting).regWanted = a.regWanted ∧
      (a.uaUnregister reporting).kaTmr = a.kaTmr ∧
      (a.uaUnregister reporting).kaInFlight = a.kaInFlight := by
  unfold uaUnregister
  cases reporting <;> simp [beventUnregistering]

/-- Unregistering leaves UNREGISTERING, and no recovery. -/
theorem uaUnregister_regState (reporting : Bool) (hstate : a.regState = .unregistering)
    (hrec : a.reconnecting = false) :
    (a.uaUnregister reporting).regState = .unregistering ∧
      (a.uaUnregister reporting).reconnecting = false := by
  unfold uaUnregister
  cases reporting <;> simp [beventUnregistering, hstate, hrec]

/-- The SRV lookup touches `srv` and what was done. -/
@[simp]
theorem srvResolve_frame (dnsErr : Bool) :
    (a.srvResolve g dnsErr).cfg = a.cfg ∧
      (a.srvResolve g dnsErr).ua = a.ua ∧
      (a.srvResolve g dnsErr).destroyed = a.destroyed ∧
      (a.srvResolve g dnsErr).regState = a.regState ∧
      (a.srvResolve g dnsErr).reconnecting = a.reconnecting ∧
      (a.srvResolve g dnsErr).retryAttempt = a.retryAttempt ∧
      (a.srvResolve g dnsErr).retryTmr = a.retryTmr ∧
      (a.srvResolve g dnsErr).regWatchTmr = a.regWatchTmr ∧
      (a.srvResolve g dnsErr).regWanted = a.regWanted ∧
      (a.srvResolve g dnsErr).kaTmr = a.kaTmr ∧
      (a.srvResolve g dnsErr).kaInFlight = a.kaInFlight ∧
      (a.srvResolve g dnsErr).lastRc = a.lastRc := by
  unfold srvResolve
  split
  · simp
  · split
    · simp
    · cases dnsErr <;> simp

@[simp]
theorem srvAdvance_frame :
    (a.srvAdvance).cfg = a.cfg ∧
      (a.srvAdvance).ua = a.ua ∧
      (a.srvAdvance).destroyed = a.destroyed ∧
      (a.srvAdvance).regState = a.regState ∧
      (a.srvAdvance).reconnecting = a.reconnecting ∧
      (a.srvAdvance).retryAttempt = a.retryAttempt ∧
      (a.srvAdvance).retryTmr = a.retryTmr ∧
      (a.srvAdvance).regWatchTmr = a.regWatchTmr ∧
      (a.srvAdvance).regWanted = a.regWanted ∧
      (a.srvAdvance).kaTmr = a.kaTmr ∧
      (a.srvAdvance).kaInFlight = a.kaInFlight ∧
      (a.srvAdvance).lastRc = a.lastRc := by
  unfold srvAdvance
  split <;> simp

@[simp]
theorem watchRegistration_eq (hua : a.ua = true) (hdestroyed : a.destroyed = false) :
    a.watchRegistration now =
      { a with regWatchElapsedMs := 0, regWatchTmr := Timer.start now regWatchIntervalMs } := by
  simp [watchRegistration, hua, hdestroyed]

/-! ### Retry -/

/-- The budget is a matter of the policy and of the attempts spent. -/
theorem retryBudgetLeft_of_eq {a b : Account} {left : Bool} (hleft : a.retryBudgetLeft g = left)
    (hpolicy : b.retryPolicy = a.retryPolicy) (hattempt : b.retryAttempt = a.retryAttempt) :
    b.retryBudgetLeft g = left := by
  rw [← hleft, retryBudgetLeft, retryBudgetLeft, hpolicy, hattempt]

theorem scheduleRetry_of_running (rand : Nat) (h : a.retryTmr.isRunning = true) :
    a.scheduleRetry g now rand = a := by
  simp [scheduleRetry, h]

/-- Scheduling a retry touches the retry, the state it reports and the reports. -/
@[simp]
theorem scheduleRetry_frame (rand : Nat) :
    (a.scheduleRetry g now rand).cfg = a.cfg ∧
      (a.scheduleRetry g now rand).ua = a.ua ∧
      (a.scheduleRetry g now rand).destroyed = a.destroyed ∧
      (a.scheduleRetry g now rand).regError = a.regError ∧
      (a.scheduleRetry g now rand).regWatchTmr = a.regWatchTmr ∧
      (a.scheduleRetry g now rand).regWanted = a.regWanted ∧
      (a.scheduleRetry g now rand).kaTmr = a.kaTmr ∧
      (a.scheduleRetry g now rand).kaInFlight = a.kaInFlight ∧
      (a.scheduleRetry g now rand).kaFailed = a.kaFailed := by
  unfold scheduleRetry
  by_cases hrun : a.retryTmr.isRunning = true
  · simp [hrun]
  · by_cases hbudget : a.retryBudgetLeft g = true
    · simp [hrun, hbudget]
    · by_cases hstate : a.regState = .reconnecting <;> simp [hrun, hbudget, hstate]

theorem scheduleRetry_isRunning (rand : Nat) :
    (a.scheduleRetry g now rand).retryTmr.isRunning =
      (a.retryTmr.isRunning || a.retryBudgetLeft g) := by
  unfold scheduleRetry
  by_cases hrun : a.retryTmr.isRunning = true
  · simp [hrun]
  · by_cases hbudget : a.retryBudgetLeft g = true
    · simp [hrun, hbudget]
    · by_cases hstate : a.regState = .reconnecting <;> simp [hrun, hbudget, hstate]

/-- Either the armed retry stands, or a new one is armed and reported, or the recovery is over. -/
theorem scheduleRetry_regState (rand : Nat) :
    (a.scheduleRetry g now rand).regState =
      if a.retryTmr.isRunning then a.regState
      else if a.retryBudgetLeft g then .reconnecting
      else if a.regState = .reconnecting then .failed
      else a.regState := by
  unfold scheduleRetry
  by_cases hrun : a.retryTmr.isRunning = true
  · simp [hrun]
  · by_cases hbudget : a.retryBudgetLeft g = true
    · simp [hrun, hbudget]
    · by_cases hstate : a.regState = .reconnecting <;> simp [hrun, hbudget, hstate]

theorem scheduleRetry_reconnecting (rand : Nat) :
    (a.scheduleRetry g now rand).reconnecting =
      if a.retryTmr.isRunning then a.reconnecting else a.retryBudgetLeft g := by
  unfold scheduleRetry
  by_cases hrun : a.retryTmr.isRunning = true
  · simp [hrun]
  · by_cases hbudget : a.retryBudgetLeft g = true
    · simp [hrun, hbudget]
    · by_cases hstate : a.regState = .reconnecting <;> simp [hrun, hbudget, hstate]

end Account

end VoxSdk
