import VoxSdk.Proof.HandlerLemmas

/-!
# The retry budget and the verdict

`retry_attempt` counts the retries armed since the recovery before was over. Three reporters decide
between RECONNECTING and FAILED before `schedule_retry` counts the attempt, and `schedule_retry` may
refuse, ignore or accept: `retry_cases` says what each event does to the count and to the timer, and
`Verdict` what a failure has reported when its handler ends.
-/

namespace VoxSdk

open Reactive

/-- The events that report a failure, the time between them, and the probe whose loss is one. -/
def AcctAct.failsAgain : AcctAct → Bool
  | .registerFail .. | .watchFires .. | .keepaliveFires .. | .elapse _ => true
  | .optionsAnswered answered _ _ => !answered
  | _ => false

namespace Account

variable (g : Cfg) (now : Nat) {a : Account}

/-- `max_attempts` in `retry_budget_left`. -/
def maxAttempts (a : Account) : Nat :=
  if a.retryPolicy.isSet then a.retryPolicy.maxAttempts else g.regRetryMaxAttempts

theorem retryBudgetLeft_iff :
    a.retryBudgetLeft g = true ↔ a.maxAttempts g = 0 ∨ a.retryAttempt < a.maxAttempts g := by
  simp [retryBudgetLeft, maxAttempts]

/-- The watchdog has something to judge: the app wants the registration, nothing is settled and no
retry is armed. -/
def watched (a : Account) : Bool :=
  a.regWanted && decide (a.regState ≠ .registered) && decide (a.regState ≠ .failed) &&
    !a.retryTmr.isRunning

@[simp]
theorem watched_regWatchTmr (tmr : Timer) : ({ a with regWatchTmr := tmr }).watched = a.watched := rfl

/-- Whether the tick is the watchdog's last. -/
def runsOut (a : Account) : Bool :=
  decide (g.sipTimerFMs ≠ 0) &&
    decide (g.sipTimerFMs ≤ u32 (a.regWatchElapsedMs + regWatchIntervalMs))

@[simp]
theorem runsOut_regWatchTmr (tmr : Timer) :
    ({ a with regWatchTmr := tmr }).runsOut g = a.runsOut g := rfl

/-- The events that set `retry_attempt` to 0: the three ways into REGISTERED, `retry_now`,
`cancel_retry` and a handover's re-registration. -/
def resetsAttempt (a : Account) : AcctAct → Bool
  | .registerOk | .retryNow _ | .cancelRetry => true
  | .watchFires registered _ => registered && a.watched
  | .optionsAnswered answered registered _ =>
      answered && a.kaFailed && decide (a.regState = .reconnecting) && registered
  | .handoverReregister _ => !a.authFailed
  | _ => false

/-- Whether an event arms the retry timer, which is then due at another moment than before. -/
def arms (a : Account) (act : AcctAct) : Bool :=
  (a.handle g now act).retryTmr.isRunning && decide ((a.handle g now act).retryTmr ≠ a.retryTmr)

/-- The events that report a failure other than refused credentials: a refusal, and the watchdog's
last tick. -/
def failsNow (a : Account) : AcctAct → Bool
  | .registerFail reason _ => decide (registerFailError reason ≠ .auth)
  | .watchFires registered _ => !registered && a.watched && a.runsOut g
  | _ => false

/-! ### The count and the timer -/

/-- The recovery whose budget is spent. -/
def gaveUp (a : Account) : Account :=
  ({ a with reconnecting := false }.setRegState .failed).postPrepared
    (.of .failed a.regError a.errorPtr)

/-- The next attempt, counted and announced, before its timer is armed. -/
def announced (rand : Nat) (a : Account) : Account :=
  ({ a with
    retryAttempt := u32 (a.retryAttempt + 1)
    retryDelayMs := a.retryDelay g rand
    reconnecting := true }.setRegState .reconnecting).postPrepared
      (.of .reconnecting a.regError a.errorPtr)

theorem scheduleRetry_eq (rand : Nat) :
    a.scheduleRetry g now rand =
      if a.retryTmr.isRunning then a
      else if !a.retryBudgetLeft g then
        if a.regState ≠ .reconnecting then { a with reconnecting := false } else a.gaveUp
      else { a.announced g rand with retryTmr := Timer.start now (a.retryDelay g rand) } := rfl

theorem scheduleRetry_retryAttempt (rand : Nat) :
    (a.scheduleRetry g now rand).retryAttempt =
      if a.retryTmr.isRunning then a.retryAttempt
      else if a.retryBudgetLeft g then u32 (a.retryAttempt + 1)
      else a.retryAttempt := by
  unfold scheduleRetry
  by_cases hrun : a.retryTmr.isRunning = true
  · simp [hrun]
  · by_cases hbudget : a.retryBudgetLeft g = true
    · simp [hrun, hbudget]
    · by_cases hstate : a.regState = .reconnecting <;> simp [hrun, hbudget, hstate]

theorem scheduleRetry_retryTmr (rand : Nat) :
    (a.scheduleRetry g now rand).retryTmr =
      if a.retryTmr.isRunning then a.retryTmr
      else if a.retryBudgetLeft g then Timer.start now (a.retryDelay g rand)
      else a.retryTmr := by
  unfold scheduleRetry
  by_cases hrun : a.retryTmr.isRunning = true
  · simp [hrun]
  · by_cases hbudget : a.retryBudgetLeft g = true
    · simp [hrun, hbudget]
    · by_cases hstate : a.regState = .reconnecting <;> simp [hrun, hbudget, hstate]

/-- What an event may do to the count and to the timer, from `a` to `b`: leave the one and at most
cancel the other, or count and arm one more attempt out of what the budget leaves. -/
def RetryTurn (a b : Account) : Prop :=
  (b.retryAttempt = a.retryAttempt ∧ (b.retryTmr = a.retryTmr ∨ b.retryTmr = none)) ∨
    (a.retryTmr.isRunning = false ∧ a.retryBudgetLeft g = true ∧
      b.retryAttempt = u32 (a.retryAttempt + 1) ∧ b.retryTmr.isRunning = true)

theorem RetryTurn.congr {b c : Account} (hturn : RetryTurn g a b)
    (hattempt : c.retryAttempt = b.retryAttempt) (htmr : c.retryTmr = b.retryTmr) :
    RetryTurn g a c := by
  unfold RetryTurn
  rwa [hattempt, htmr]

/-- `schedule_retry` counts what it arms. It is called on an account whose count, policy and timer
are still those of `a`. -/
theorem RetryTurn.scheduleRetry {b : Account} (rand : Nat)
    (hattempt : b.retryAttempt = a.retryAttempt) (hpolicy : b.retryPolicy = a.retryPolicy)
    (htmr : b.retryTmr = a.retryTmr) : RetryTurn g a (b.scheduleRetry g now rand) := by
  have hcount := scheduleRetry_retryAttempt g now (a := b) rand
  have htimer := scheduleRetry_retryTmr g now (a := b) rand
  cases hrun : a.retryTmr.isRunning with
  | true =>
      rw [htmr, hrun, if_pos rfl] at hcount htimer
      exact .inl ⟨hcount.trans hattempt, .inl htimer⟩
  | false =>
      rw [htmr, hrun, if_neg (by simp)] at hcount htimer
      cases hbudget : b.retryBudgetLeft g with
      | true =>
          rw [hbudget, if_pos rfl] at hcount htimer
          rw [hattempt] at hcount
          have hleft := retryBudgetLeft_of_eq g hbudget hpolicy.symm hattempt.symm
          exact .inr ⟨hrun, hleft, hcount, by rw [htimer]; rfl⟩
      | false =>
          rw [hbudget, if_neg (by simp)] at hcount htimer
          exact .inl ⟨hcount.trans hattempt, .inl htimer⟩

theorem retry_keepaliveHandler (inCall sendErr : Bool) :
    (a.keepaliveHandler g now inCall sendErr).retryAttempt = a.retryAttempt ∧
      (a.keepaliveHandler g now inCall sendErr).retryTmr = a.retryTmr := by
  unfold keepaliveHandler
  split_ifs <;> simp

/-! ### The reporters, up to `schedule_retry` -/

/-- What a reporter writes before a retry is scheduled, but for the reason. -/
def judged (err : VoxError) (a : Account) : Account :=
  (a.regFailState g err).2.setRegState (a.regFailState g err).1

/-- The refused account, before a retry is scheduled for it. -/
def refused (reason : Option CStr) (a : Account) : Account :=
  { a.judged g (registerFailError reason) with
    regError := registerFailError reason
    kaTmr := none
    regErrorStr := (reason.map (strNcpy 256)).getD a.regErrorStr }

theorem beventRegisterFail_eq (reason : Option CStr) (rand : Nat) :
    a.beventRegisterFail g now reason rand =
      (if registerFailError reason ≠ .auth then (a.refused g reason).scheduleRetry g now rand
        else a.refused g reason).postCopied
          (.of (a.regFailState g (registerFailError reason)).1 (registerFailError reason) .null)
          (match reason with
            | none => .null
            | some reason => .buf (strNcpy 4096 reason)) := rfl

/-- The account the watchdog found registered although nobody reported it. -/
def foundRegistered (a : Account) : Account :=
  let a := (a.emit .registrarWarning).setRegState .registered
  let a := { a with retryAttempt := 0, reconnecting := false }
  (a.keepaliveArm g now).postPrepared (.of .registered .ok .null)

/-- The account the watchdog has given up on, before a retry is scheduled for it. -/
def timedOut (a : Account) : Account :=
  let a := { a with
    regWatchElapsedMs := u32 (a.regWatchElapsedMs + regWatchIntervalMs)
    regError := .timeout }
  { a.judged g .timeout with
    regErrorStr := strNcpy 256 "registration timed out".toList }.postPrepared
      (.of (a.regFailState g .timeout).1 .timeout .acct)

/-- The account that lost a probe and registers again for it, before the retry is scheduled. -/
def probeLost (a : Account) : Account :=
  let a := { a.emit .registrarWarning with
    kaInFlight := false
    kaFailed := true
    regError := .timeout }
  { a.judged g .timeout with
    regErrorStr := strNcpy 256 "keepalive probe timed out".toList }.postPrepared
      (.of (a.regFailState g .timeout).1 .timeout .acct)

theorem keepaliveRespHandler_lost (registered : Bool) (rand : Nat) (halive : a.Alive)
    (hre : (g.keepaliveReregister && a.regWanted) = true) :
    a.keepaliveRespHandler g now false registered rand = (a.probeLost g).scheduleRetry g now rand := by
  obtain ⟨-, hdes⟩ := halive
  unfold keepaliveRespHandler
  rw [if_neg (by simp [hdes]), if_neg Bool.false_ne_true]
  simp only [emit, hre, if_true]
  rfl

/-- The account that lost a probe and goes on probing. -/
def probeMissed (a : Account) : Account :=
  let state : RegState := if a.regWanted then .reconnecting else .failed
  let a := { a.emit .registrarWarning with
    kaInFlight := false
    kaFailed := true
    regError := .timeout
    reconnecting := a.regWanted }
  { a.setRegState state with
    regErrorStr := strNcpy 256 "keepalive probe timed out".toList }.postPrepared
      (.of state .timeout .acct)

theorem keepaliveRespHandler_missed (registered : Bool) (rand : Nat) (halive : a.Alive)
    (hre : (g.keepaliveReregister && a.regWanted) = false) :
    a.keepaliveRespHandler g now false registered rand = a.probeMissed.keepaliveArm g now := by
  obtain ⟨-, hdes⟩ := halive
  unfold keepaliveRespHandler
  rw [if_neg (by simp [hdes]), if_neg Bool.false_ne_true]
  simp only [emit, hre, Bool.false_eq_true, if_false]
  rfl

/-- The account whose probe is answered again. -/
def heardAgain (a : Account) : Account :=
  { Account.setRegState .registered { a with kaInFlight := false, kaFailed := false } with
    regError := .ok
    retryAttempt := 0
    reconnecting := false
    regErrorStr := [] }.postPrepared (.of .registered .ok .null)

theorem keepaliveRespHandler_heard (registered : Bool) (rand : Nat) (halive : a.Alive) :
    a.keepaliveRespHandler g now true registered rand =
      (if a.kaFailed && decide (a.regState = .reconnecting) && registered then a.heardAgain
      else { a with kaInFlight := false, kaFailed := false }).keepaliveArm g now := by
  obtain ⟨-, hdes⟩ := halive
  unfold keepaliveRespHandler
  rw [if_neg (by simp [hdes]), if_pos rfl]
  rfl

theorem regWatchHandler_eq (registered : Bool) (rand : Nat) (halive : a.Alive) :
    a.regWatchHandler g now registered rand =
      if !a.watched then a
      else if registered then a.foundRegistered g now
      else if a.runsOut g then (a.timedOut g).scheduleRetry g now rand
      else { a with
        regWatchElapsedMs := u32 (a.regWatchElapsedMs + regWatchIntervalMs)
        regWatchTmr := Timer.start now regWatchIntervalMs } := by
  obtain ⟨hua, hdes⟩ := halive
  unfold regWatchHandler
  by_cases hwanted : a.regWanted = true
  · rw [if_neg (by simp [hua, hdes, hwanted])]
    by_cases hend : a.regState = .registered ∨ a.regState = .failed
    · rw [if_pos hend, if_pos (by rcases hend with h | h <;> simp [watched, h])]
    · obtain ⟨hregistered, hfailed⟩ := not_or.mp hend
      rw [if_neg hend]
      by_cases hrun : a.retryTmr.isRunning = true
      · rw [if_pos hrun, if_pos (by simp [watched, hrun])]
      · have hwatched : ¬ (!a.watched) = true := by
          simp [watched, hwanted, hregistered, hfailed, hrun]
        rw [if_neg hrun, if_neg hwatched]
        cases registered with
        | true => rfl
        | false =>
            rw [if_neg Bool.false_ne_true, if_neg Bool.false_ne_true]
            by_cases htime : g.sipTimerFMs ≠ 0 ∧
                g.sipTimerFMs ≤ u32 (a.regWatchElapsedMs + regWatchIntervalMs)
            · have hout : a.runsOut g = true := by simpa [runsOut] using htime
              rw [if_pos hout]
              exact if_pos htime
            · have hout : ¬ a.runsOut g = true := by simpa [runsOut] using htime
              rw [if_neg hout]
              exact if_neg htime
  · simp [watched, hwanted]

/-- What each event does: it starts the count again, or takes a turn. -/
theorem retry_cases (act : AcctAct) (halive : a.Alive) {b : Account}
    (hb : a.handle g now act = b) :
    (a.resetsAttempt act = true ∧ b.retryAttempt = 0 ∧
        (b.retryTmr = a.retryTmr ∨ b.retryTmr = none)) ∨
      (a.resetsAttempt act = false ∧ RetryTurn g a b) := by
  obtain ⟨hua, hdes⟩ := halive
  subst hb
  cases act with
  | register dnsErr reporting =>
      refine .inr ⟨rfl, .inl ⟨?_, .inl ?_⟩⟩ <;> simp [handle, registerFn, hua, hdes]
  | unregister reporting =>
      refine .inr ⟨rfl, .inl ⟨?_, .inl ?_⟩⟩ <;>
        cases reporting <;> simp [handle, unregisterFn, hua, uaUnregister, beventUnregistering]
  | retryNow reporting =>
      exact .inl ⟨rfl, by simp [handle, retryNowFn, hua, hdes],
        .inr (by simp [handle, retryNowFn, hua, hdes])⟩
  | cancelRetry =>
      obtain ⟨-, -, -, -, -, htmr, -⟩ := cancelRetryFn_spec (a := a) ⟨hua, hdes⟩ rfl
      refine .inl ⟨rfl, ?_, .inr htmr⟩
      by_cases hst : a.regState = .reconnecting <;> simp [handle, cancelRetryFn, hst]
  | setRetryPolicy initialMs maxMs backoff maxAttempts => exact .inr ⟨rfl, .inl ⟨rfl, .inl rfl⟩⟩
  | setPushToken token dupOk reporting =>
      obtain ⟨err, heq⟩ := setPushTokenFn_eq token dupOk reporting (a := a) ⟨hua, hdes⟩
      refine .inr ⟨rfl, .inl ⟨?_, .inl ?_⟩⟩ <;> rw [handle, heq] <;>
        cases a.reRegisters token dupOk <;> simp [storePushToken]
  | keepaliveNow inCall sendErr =>
      have hturn := retry_keepaliveHandler g now inCall sendErr (a := { a with kaTmr := none })
      exact .inr ⟨rfl, .inl ⟨hturn.1, .inl hturn.2⟩⟩
  | registerOk =>
      exact .inl ⟨rfl, by simp [handle, beventRegisterOk],
        .inl (by simp [handle, beventRegisterOk])⟩
  | registerFail reason rand =>
      refine .inr ⟨rfl, ?_⟩
      rw [handle, beventRegisterFail_eq]
      refine RetryTurn.congr g ?_ (postCopied_retryAttempt _ _ _) (postCopied_retryTmr _ _ _)
      split_ifs
      · exact RetryTurn.scheduleRetry g now rand rfl rfl rfl
      · exact .inl ⟨rfl, .inl rfl⟩
  | srvDone targets =>
      obtain ⟨srv, heq⟩ := srvDoneHandler_spec (a := a) targets rfl
      rw [handle, heq]
      exact .inr ⟨rfl, .inl ⟨rfl, .inl rfl⟩⟩
  | retryFires reporting =>
      have hspec := retryTimerHandler_spec now reporting (a := { a with retryTmr := none })
        ⟨hua, hdes⟩ rfl
      refine .inr ⟨rfl, .inl ⟨?_, .inr hspec.2.2.2.2.2.1⟩⟩
      simp [handle, retryTimerHandler, hua, hdes]
  | watchFires registered rand =>
      rw [handle, regWatchHandler_eq g now (a := { a with regWatchTmr := none }) registered rand
        ⟨hua, hdes⟩, watched_regWatchTmr]
      change (registered && a.watched) = true ∧ _ ∨ (registered && a.watched) = false ∧ _
      cases hwatched : a.watched with
      | false =>
          rw [if_pos (by simp)]
          exact .inr ⟨by simp, .inl ⟨rfl, .inl rfl⟩⟩
      | true =>
          rw [if_neg (by simp)]
          cases registered with
          | true => exact .inl ⟨rfl, by simp [foundRegistered], .inl (by simp [foundRegistered])⟩
          | false =>
              refine .inr ⟨rfl, ?_⟩
              rw [if_neg (by simp)]
              split_ifs
              · exact RetryTurn.scheduleRetry g now rand (postPrepared_retryAttempt _ _)
                  (postPrepared_retryPolicy _ _) (postPrepared_retryTmr _ _)
              · exact .inl ⟨rfl, .inl rfl⟩
  | keepaliveFires inCall sendErr =>
      have hturn := retry_keepaliveHandler g now inCall sendErr (a := { a with kaTmr := none })
      exact .inr ⟨rfl, .inl ⟨hturn.1, .inl hturn.2⟩⟩
  | optionsAnswered answered registered rand =>
      cases answered with
      | true =>
          have htmr := (keepaliveRespHandler_answered g now registered rand (a := a) ⟨hua, hdes⟩
            rfl).2.2.2.2.2.1
          cases hrec : (a.kaFailed && decide (a.regState = .reconnecting) && registered) with
          | true =>
              exact .inl ⟨hrec, by simp [handle, keepaliveRespHandler, hdes, hrec], .inl htmr⟩
          | false =>
              refine .inr ⟨hrec, .inl ⟨?_, .inl htmr⟩⟩
              simp [handle, keepaliveRespHandler, hdes, hrec]
      | false =>
          refine .inr ⟨rfl, ?_⟩
          cases hre : (g.keepaliveReregister && a.regWanted) with
          | true =>
              rw [handle, keepaliveRespHandler_lost g now registered rand ⟨hua, hdes⟩ hre]
              exact RetryTurn.scheduleRetry g now rand (postPrepared_retryAttempt _ _)
                (postPrepared_retryPolicy _ _) (postPrepared_retryTmr _ _)
          | false =>
              refine .inl ⟨?_, .inl ?_⟩ <;> simp [handle, keepaliveRespHandler, hdes, hre]
  | handoverMark =>
      have hspec := regReconnecting_spec (a := a) ⟨hua, hdes⟩ rfl
      refine .inr ⟨rfl, .inl ⟨?_, .inl hspec.2.2.2.1⟩⟩
      unfold handle regReconnecting
      split_ifs <;> simp
  | handoverToRetry rand =>
      refine .inr ⟨rfl, ?_⟩
      unfold handle handoverToRetry
      split_ifs
      · exact RetryTurn.scheduleRetry g now rand rfl rfl rfl
      · exact .inl ⟨rfl, .inl rfl⟩
  | handoverReregister reporting =>
      cases hauth : a.authFailed with
      | true => exact .inr ⟨by simp [resetsAttempt, hauth], by
          rw [handle, reregister, if_pos hauth]; exact .inl ⟨rfl, .inl rfl⟩⟩
      | false =>
          exact .inl ⟨by simp [resetsAttempt, hauth], by simp [handle, reregister, hauth, hua, hdes],
            .inr (by simp [handle, reregister, hauth, hua, hdes])⟩
  | elapse ms => exact .inr ⟨rfl, .inl ⟨rfl, .inl rfl⟩⟩

/-- An event that starts the count again arms nothing. -/
theorem arms_cases (act : AcctAct) (halive : a.Alive) :
    (a.resetsAttempt act = true ∧ (a.handle g now act).retryAttempt = 0 ∧
        a.arms g now act = false) ∨
      (a.resetsAttempt act = false ∧ (a.handle g now act).retryAttempt = a.retryAttempt ∧
        a.arms g now act = false) ∨
      (a.resetsAttempt act = false ∧ a.retryBudgetLeft g = true ∧
        (a.handle g now act).retryAttempt = u32 (a.retryAttempt + 1) ∧ a.arms g now act = true) := by
  have hquiet : (a.handle g now act).retryTmr = a.retryTmr ∨
      (a.handle g now act).retryTmr = none → a.arms g now act = false := by
    rintro (h | h) <;> simp [arms, h]
  obtain ⟨hreset, hzero, htmr⟩ | ⟨hreset, ⟨hsame, htmr⟩ | ⟨hidle, hbudget, hcount, hrun⟩⟩ :=
    retry_cases g now act halive rfl
  · exact .inl ⟨hreset, hzero, hquiet htmr⟩
  · exact .inr (.inl ⟨hreset, hsame, hquiet htmr⟩)
  · refine .inr (.inr ⟨hreset, hbudget, hcount, ?_⟩)
    have hmoved : (a.handle g now act).retryTmr ≠ a.retryTmr := by
      intro h
      rw [h, hidle] at hrun
      cases hrun
    simp [arms, hrun, hmoved]

/-- While a retry is armed, a failure changes neither the count nor the timer. -/
theorem retry_of_failsAgain (act : AcctAct) (halive : a.Alive) (harmed : a.retryTmr.isRunning = true)
    (hfails : act.failsAgain = true) :
    (a.handle g now act).retryAttempt = a.retryAttempt ∧
      (a.handle g now act).retryTmr = a.retryTmr := by
  cases act with
  | registerFail reason rand =>
      have harmed' : (a.refused g reason).retryTmr.isRunning = true := harmed
      rw [handle, beventRegisterFail_eq, scheduleRetry_of_running g now _ rand harmed', ite_self]
      exact ⟨postCopied_retryAttempt _ _ _, postCopied_retryTmr _ _ _⟩
  | watchFires registered rand =>
      have hwatched : a.watched = false := by simp [watched, harmed]
      rw [handle, regWatchHandler_eq g now (a := { a with regWatchTmr := none }) registered rand halive,
        watched_regWatchTmr, hwatched, if_pos (by simp)]
      exact ⟨rfl, rfl⟩
  | keepaliveFires inCall sendErr =>
      exact retry_keepaliveHandler g now inCall sendErr (a := { a with kaTmr := none })
  | optionsAnswered answered registered rand =>
      obtain rfl : answered = false := by simpa [AcctAct.failsAgain] using hfails
      cases hre : (g.keepaliveReregister && a.regWanted) with
      | true =>
          have htmr : (a.probeLost g).retryTmr = a.retryTmr := postPrepared_retryTmr _ _
          have hattempt : (a.probeLost g).retryAttempt = a.retryAttempt := postPrepared_retryAttempt _ _
          rw [handle, keepaliveRespHandler_lost g now registered rand halive hre,
            scheduleRetry_of_running g now _ rand (htmr ▸ harmed)]
          exact ⟨hattempt, htmr⟩
      | false => simp [handle, keepaliveRespHandler, halive.2, hre]
  | elapse ms => exact ⟨rfl, rfl⟩
  | _ => cases hfails

/-! ### The verdict -/

/-- A RECONNECTING may have been withheld, as the repetition `last_rc_*` of `a` says it is; nothing
else is. -/
def Said (a : Account) (st : RegState) (b : Account) : Prop :=
  (∃ ev, .post ev ∈ b.out) ∨
    st = .reconnecting ∧ ∃ ev, .suppressed ev ∈ b.out ∧ a.lastRc.valid = true ∧
      a.lastRc.error = ev.error ∧ a.lastRc.attempt = ev.retryAttempt ∧
      a.lastRc.delayMs = ev.retryDelayMs

/-- What a failure has reported when its handler ends: the state says whether a retry is armed, every
event the handler made says that state, and there was one. -/
structure Verdict (a b : Account) : Prop where
  state : b.regState = if b.retryTmr.isRunning then .reconnecting else .failed
  events : ∀ o ∈ b.out, ∀ ev, o = .post ev ∨ o = .suppressed ev → ev.state = b.regState
  said : a.Said b.regState b

/-- A handler under way that reports `st`: so has every event, and `last_rc_*` is as it was until one
is posted. -/
structure Judged (a : Account) (st : RegState) (b : Account) : Prop where
  state : b.regState = st
  events : ∀ o ∈ b.out, ∀ ev, o = .post ev ∨ o = .suppressed ev → ev.state = st
  signature : (∃ ev, .post ev ∈ b.out) ∨ b.lastRc = a.lastRc

theorem postCopied_cases (ev : RegEvent) (reason : ErrStr) :
    (ev.state ≠ .reconnecting ∧ a.postCopied ev reason =
        a.reconnectReset.emit (.post { a.reconnectReset.stamp ev with errorStr := reason })) ∨
      (ev.state = .reconnecting ∧ a.sameReport ev.error = true ∧
        a.postCopied ev reason = a.emit (.suppressed (a.stamp ev))) ∨
      (ev.state = .reconnecting ∧ a.sameReport ev.error = false ∧
        a.postCopied ev reason =
          (a.remember ev.error).emit (.post { a.stamp ev with errorStr := reason })) := by
  unfold postCopied regEvPrepare
  by_cases hst : ev.state ≠ .reconnecting
  · exact .inl ⟨hst, by rw [if_pos hst]⟩
  · rw [if_neg hst]
    cases hsame : a.sameReport ev.error with
    | true => exact .inr (.inl ⟨not_not.mp hst, rfl, rfl⟩)
    | false => exact .inr (.inr ⟨not_not.mp hst, rfl, rfl⟩)

/-- One event is posted or withheld, with the state it was made for. -/
theorem out_postCopied (ev : RegEvent) (reason : ErrStr) :
    ∃ o, (a.postCopied ev reason).out = a.out ++ [o] ∧
      ∀ ev', o = .post ev' ∨ o = .suppressed ev' → ev'.state = ev.state := by
  obtain ⟨-, heq⟩ | ⟨-, -, heq⟩ | ⟨-, -, heq⟩ := a.postCopied_cases ev reason <;>
    refine ⟨_, by rw [heq]; rfl, ?_⟩ <;> rintro ev' (h | h) <;> cases h <;> rfl

section Judged

variable {b : Account} {st : RegState} {ev : RegEvent}

theorem Judged.postCopied (hj : a.Judged st b) (hst : ev.state = st) (reason : ErrStr) :
    a.Judged st (b.postCopied ev reason) := by
  obtain ⟨hstate, hevents, hsig⟩ := hj
  refine ⟨by simpa using hstate, ?_, ?_⟩
  · obtain ⟨o', hout, hmade⟩ := b.out_postCopied ev reason
    intro o ho ev' hev
    rw [hout, List.mem_append, List.mem_singleton] at ho
    rcases ho with ho | rfl
    · exact hevents o ho ev' hev
    · exact (hmade ev' hev).trans hst
  · obtain ⟨-, heq⟩ | ⟨-, -, heq⟩ | ⟨-, -, heq⟩ := b.postCopied_cases ev reason
    · exact .inl ⟨_, by rw [heq]; exact List.mem_append_right _ (List.mem_singleton_self _)⟩
    · rw [heq]
      exact hsig.imp (fun ⟨ev', h⟩ => ⟨ev', List.mem_append_left _ h⟩) fun h => h
    · exact .inl ⟨_, by rw [heq]; exact List.mem_append_right _ (List.mem_singleton_self _)⟩

theorem Judged.postPrepared (hj : a.Judged st b) (hst : ev.state = st) :
    a.Judged st (b.postPrepared ev) := by
  rw [postPrepared_eq_postCopied]
  exact hj.postCopied hst _

/-- What is withheld is what `last_rc_*` says was posted, if nothing was posted on the way. -/
theorem Judged.said (hj : a.Judged st b) (hst : ev.state = st) (reason : ErrStr) :
    a.Said st (b.postCopied ev reason) := by
  obtain ⟨-, heq⟩ | ⟨hrc, hsame, heq⟩ | ⟨-, -, heq⟩ := b.postCopied_cases ev reason
  · exact .inl ⟨_, by rw [heq]; exact List.mem_append_right _ (List.mem_singleton_self _)⟩
  · obtain ⟨ev', hposted⟩ | hsig := hj.signature
    · exact .inl ⟨ev', by rw [heq]; exact List.mem_append_left _ hposted⟩
    · simp only [sameReport, Bool.and_eq_true, decide_eq_true_eq] at hsame
      obtain ⟨⟨⟨hvalid, herror⟩, hattempt⟩, hdelay⟩ := hsame
      rw [hsig] at hvalid herror hattempt hdelay
      refine .inr ⟨hst.symm.trans hrc, b.stamp ev, ?_, hvalid, herror, hattempt, hdelay⟩
      rw [heq]
      exact List.mem_append_right _ (List.mem_singleton_self _)
  · exact .inl ⟨_, by rw [heq]; exact List.mem_append_right _ (List.mem_singleton_self _)⟩

/-- The scheduler agrees with what was decided before it was asked. -/
theorem Judged.scheduleRetry (hj : a.Judged st b) (rand : Nat)
    (hst : st = if b.retryTmr.isRunning || b.retryBudgetLeft g then .reconnecting else .failed) :
    a.Judged st (b.scheduleRetry g now rand) := by
  cases hrun : b.retryTmr.isRunning with
  | true =>
      rw [scheduleRetry_of_running g now b rand hrun]
      exact hj
  | false =>
      rw [hrun, Bool.false_or] at hst
      rw [scheduleRetry_eq, if_neg (by simp [hrun])]
      cases hbudget : b.retryBudgetLeft g with
      | true =>
          rw [hbudget, if_pos rfl] at hst
          subst hst
          rw [if_neg (by simp)]
          obtain ⟨hstate, hevents, hsig⟩ : a.Judged .reconnecting (b.announced g rand) := by
            refine Judged.postPrepared ⟨rfl, ?_, ?_⟩ rfl
            · intro o ho ev' hev
              rcases List.mem_append.mp ho with ho | ho
              · exact hj.events o ho ev' hev
              · obtain rfl := List.mem_singleton.mp ho
                rcases hev with hev | hev <;> cases hev
            · exact hj.signature.imp (fun ⟨ev', h⟩ => ⟨ev', List.mem_append_left _ h⟩) fun h => h
          exact ⟨hstate, hevents, hsig⟩
      | false =>
          have hfailed : b.regState ≠ .reconnecting := by
            rw [hj.state, hst, hbudget]
            simp
          rw [if_pos (by simp), if_pos hfailed]
          exact ⟨hj.state, hj.events, hj.signature⟩

end Judged

theorem mem_postPrepared {o : AcctOut} {ev : RegEvent} (ho : o ∈ a.out) :
    o ∈ (a.postPrepared ev).out := by
  obtain ⟨o', hout, -⟩ := a.out_postCopied ev ev.errorStr
  rw [postPrepared_eq_postCopied, hout]
  exact List.mem_append_left _ ho

theorem mem_scheduleRetry {o : AcctOut} (rand : Nat) (ho : o ∈ a.out) :
    o ∈ (a.scheduleRetry g now rand).out := by
  rw [scheduleRetry_eq]
  split_ifs
  · exact ho
  · exact ho
  · exact mem_postPrepared (List.mem_append_left _ ho)
  · exact mem_postPrepared (a := Account.setRegState .reconnecting _) (List.mem_append_left _ ho)

/-- What is decided for an account the app wants: an armed retry settles it, else the budget. -/
def verdict (a : Account) : RegState :=
  if a.retryTmr.isRunning || a.retryBudgetLeft g then .reconnecting else .failed

theorem regFailState_state {err : VoxError} (halive : a.Alive) (hwanted : a.regWanted = true)
    (hauth : err ≠ .auth) : (a.regFailState g err).1 = a.verdict g := by
  simp [regFailState, willRetry, verdict, hwanted, halive.2, hauth]

/-- A reporter's first write. -/
theorem judged_of_out {b : Account} {err : VoxError} {st : RegState} (hout : b.out = [])
    (hlast : b.lastRc = a.lastRc) (hst : (b.regFailState g err).1 = st) :
    a.Judged st (b.judged g err) := by
  have hwritten : (b.judged g err).out = [.regState (b.regFailState g err).1] := by
    change b.out ++ _ = _
    rw [hout, List.nil_append]
  refine ⟨hst, ?_, .inr hlast⟩
  intro o ho ev hev
  rw [hwritten, List.mem_singleton] at ho
  subst ho
  rcases hev with hev | hev <;> cases hev

theorem Judged.verdict {b : Account} (hj : a.Judged (a.verdict g) b)
    (hrun : b.retryTmr.isRunning = (a.retryTmr.isRunning || a.retryBudgetLeft g))
    (hsaid : a.Said (a.verdict g) b) : Verdict a b := by
  obtain ⟨hstate, hevents, -⟩ := hj
  refine ⟨?_, ?_, ?_⟩
  · rw [hstate, Account.verdict, hrun]
  · rwa [hstate]
  · rwa [hstate]

theorem verdict_of_failsNow (act : AcctAct) (halive : a.Alive) (hout : a.out = [])
    (hwanted : a.regWanted = true) (hfails : a.failsNow g act = true) :
    Verdict a (a.handle g now act) := by
  cases act with
  | registerFail reason rand =>
      have hauth : registerFailError reason ≠ .auth := by simpa [failsNow] using hfails
      have hst := regFailState_state g halive hwanted hauth
      have hj : a.Judged (a.verdict g) (a.refused g reason) := by
        obtain ⟨hstate, hevents, hsig⟩ := judged_of_out (a := a) g hout rfl hst
        exact ⟨hstate, hevents, hsig⟩
      have hj := hj.scheduleRetry g now rand rfl
      have hrun : ((a.refused g reason).scheduleRetry g now rand).retryTmr.isRunning =
          (a.retryTmr.isRunning || a.retryBudgetLeft g) := scheduleRetry_isRunning g now _ rand
      rw [handle, beventRegisterFail_eq, if_pos hauth]
      refine Judged.verdict g (hj.postCopied hst _) ?_ (hj.said hst _)
      rw [postCopied_retryTmr, hrun]
  | watchFires registered rand =>
      simp only [failsNow, Bool.and_eq_true, Bool.not_eq_true'] at hfails
      obtain ⟨⟨rfl, hwatched⟩, hlast⟩ := hfails
      have hst : (({ a with
          regWatchTmr := none
          regWatchElapsedMs := u32 (a.regWatchElapsedMs + regWatchIntervalMs)
          regError := .timeout } : Account).regFailState g .timeout).1 = a.verdict g :=
        regFailState_state g halive hwanted (by simp)
      have hj : a.Judged (a.verdict g) { ({ a with
          regWatchTmr := none
          regWatchElapsedMs := u32 (a.regWatchElapsedMs + regWatchIntervalMs)
          regError := .timeout } : Account).judged g .timeout with
          regErrorStr := strNcpy 256 "registration timed out".toList } := by
        obtain ⟨hstate, hevents, hsig⟩ := judged_of_out (a := a) g hout rfl hst
        exact ⟨hstate, hevents, hsig⟩
      have hsaid : a.Said (a.verdict g) (({ a with regWatchTmr := none } : Account).timedOut g) := by
        have hev : (RegEvent.of (({ a with
            regWatchTmr := none
            regWatchElapsedMs := u32 (a.regWatchElapsedMs + regWatchIntervalMs)
            regError := .timeout } : Account).regFailState g .timeout).1 .timeout .acct).state =
            a.verdict g := hst
        rw [timedOut, postPrepared_eq_postCopied]
        exact hj.said hev .acct
      have hj : a.Judged (a.verdict g) (({ a with regWatchTmr := none } : Account).timedOut g) :=
        hj.postPrepared hst
      have hrun : (({ a with regWatchTmr := none } : Account).timedOut g).retryTmr = a.retryTmr :=
        postPrepared_retryTmr _ _
      have hbudget : (({ a with regWatchTmr := none } : Account).timedOut g).retryBudgetLeft g =
          a.retryBudgetLeft g :=
        retryBudgetLeft_of_eq g rfl (postPrepared_retryPolicy _ _) (postPrepared_retryAttempt _ _)
      rw [handle, regWatchHandler_eq g now (a := { a with regWatchTmr := none }) false rand halive,
        watched_regWatchTmr, runsOut_regWatchTmr, hwatched, hlast, if_neg (by simp), if_neg (by simp),
        if_pos rfl]
      refine Judged.verdict g (hj.scheduleRetry g now rand ?_) ?_ ?_
      · rw [verdict, hrun, hbudget]
      · rw [scheduleRetry_isRunning, hrun, hbudget]
      · refine hsaid.imp (fun ⟨ev, h⟩ => ⟨ev, mem_scheduleRetry g now rand h⟩) ?_
        rintro ⟨hrc, ev, h, hsame⟩
        exact ⟨hrc, ev, mem_scheduleRetry g now rand h, hsame⟩
  | _ => cases hfails

end Account

/-- One account, and how often its retry timer was armed since the last event that set
`retry_attempt` to 0. -/
def armedAccount (g : Cfg) : Machine (OneAccount × Nat) AcctAct AcctOut :=
  (oneAccount g).withHistory 0 fun s act _ armed =>
    if s.acct.idle.resetsAttempt act then 0
    else if s.acct.idle.arms g s.now act then armed + 1
    else armed

variable {g : Cfg} {p p' : OneAccount × Nat} {t : Trace AcctAct AcctOut}
  {C : OneAccount × Nat → AcctAct → Prop}

theorem armedAccount_alive {act : AcctAct} {os : List AcctOut} (halive : p.1.acct.Alive)
    (hstep : (armedAccount g).step p act = some (p', os)) : p'.1.acct.Alive := by
  obtain ⟨-, hacct, -⟩ := oneAccount_step (Machine.withHistory_step.mp hstep).1
  rw [hacct]
  exact (Account.handle_alive g p.1.now (a := p.1.acct.idle) act halive).1

/-- What a step does to the two counts. -/
theorem armedAccount_cases {act : AcctAct} {os : List AcctOut} (halive : p.1.acct.Alive)
    (hstep : (armedAccount g).step p act = some (p', os)) :
    (p'.1.acct.retryAttempt = 0 ∧ p'.2 = 0) ∨
      (p'.1.acct.retryAttempt = p.1.acct.retryAttempt ∧ p'.2 = p.2) ∨
      (p.1.acct.retryBudgetLeft g = true ∧
        p'.1.acct.retryAttempt = u32 (p.1.acct.retryAttempt + 1) ∧ p'.2 = p.2 + 1) := by
  obtain ⟨hacct, hcount⟩ := Machine.withHistory_step.mp hstep
  obtain ⟨-, hafter, -⟩ := oneAccount_step hacct
  obtain ⟨hreset, hattempt, -⟩ | ⟨hreset, hattempt, harms⟩ | ⟨hreset, hbudget, hattempt, harms⟩ :=
    Account.arms_cases g p.1.now (a := p.1.acct.idle) act halive
  · exact .inl ⟨by rw [hafter, hattempt], by rw [hcount, hreset, if_pos rfl]⟩
  · refine .inr (.inl ⟨by rw [hafter, hattempt]; rfl, ?_⟩)
    rw [hcount, hreset, harms]
    rfl
  · refine .inr (.inr ⟨hbudget, by rw [hafter, hattempt]; rfl, ?_⟩)
    rw [hcount, hreset, harms]
    rfl

/-- `retry_attempt` is the number of retries armed. -/
def ArmsCounted (p : OneAccount × Nat) : Prop :=
  p.1.acct.Alive ∧ p.1.acct.retryAttempt = u32 p.2

theorem armsCounted_step {act : AcctAct} {os : List AcctOut} (hcounted : ArmsCounted p)
    (hstep : (armedAccount g).step p act = some (p', os)) : ArmsCounted p' := by
  obtain ⟨halive, hcount⟩ := hcounted
  refine ⟨armedAccount_alive halive hstep, ?_⟩
  obtain ⟨hattempt, harmed⟩ | ⟨hattempt, harmed⟩ | ⟨-, hattempt, harmed⟩ :=
    armedAccount_cases halive hstep
  · rw [hattempt, harmed]
    rfl
  · rw [hattempt, harmed, hcount]
  · rw [hattempt, harmed, hcount]
    exact Nat.mod_add_mod _ _ _

theorem armsCounted_of_run (hrun : (armedAccount g).Run Machine.Always p t) : ArmsCounted p := by
  refine hrun.stateInvariant ?_ fun p act p' os hcounted _ hstep => armsCounted_step hcounted hstep
  rintro p ⟨⟨id, cfg, pushToken, h⟩, hzero⟩
  rw [ArmsCounted, h, hzero]
  exact ⟨Account.alive_create id cfg pushToken, rfl⟩

/-- Under one policy the count stays within its budget. -/
theorem count_le {n : Nat} (hn : n ≠ 0) (hn32 : n < 2 ^ 32) (hcounted : ArmsCounted p) (hle : p.2 ≤ n)
    (hsteps : (armedAccount g).Steps (fun q _ => q.1.acct.maxAttempts g = n) p t p') :
    ArmsCounted p' ∧ p'.2 ≤ n := by
  induction hsteps with
  | refl => exact ⟨hcounted, hle⟩
  | step _ hmax hstep ih =>
      obtain ⟨hcounted, hle⟩ := ih
      refine ⟨armsCounted_step hcounted hstep, ?_⟩
      obtain ⟨-, harmed⟩ | ⟨-, harmed⟩ | ⟨hbudget, -, harmed⟩ :=
        armedAccount_cases hcounted.1 hstep
      · omega
      · omega
      · -- what the budget compares is the count itself, which has not wrapped
        have hspent := (Account.retryBudgetLeft_iff g).mp hbudget
        rw [hmax, hcounted.2, u32, Nat.mod_eq_of_lt (by omega)] at hspent
        omega

/-- **Budget and verdict agree.** In every state of a run: from a reset on, and for as long as the
policy allows `n` attempts, no more than `n` retries are armed; while one is armed, further failures
change neither the count nor the timer; and a failure of an account the app wants reports RECONNECTING
if a retry is armed when its handler ends, and FAILED otherwise. -/
theorem retry_budget_and_verdict (hrun : (armedAccount g).Run Machine.Always p t) :
    (p.2 = 0 → ∀ n p' u, n ≠ 0 → n < 2 ^ 32 →
      (armedAccount g).Steps (fun q _ => q.1.acct.maxAttempts g = n) p u p' → p'.2 ≤ n) ∧
    (p.1.acct.retryTmr.isRunning = true → ∀ p' u,
      (armedAccount g).Steps (fun _ act => act.failsAgain = true) p u p' →
        p'.1.acct.retryAttempt = p.1.acct.retryAttempt ∧
          p'.1.acct.retryTmr = p.1.acct.retryTmr) ∧
    (∀ act p' os, (armedAccount g).step p act = some (p', os) → p.1.acct.regWanted = true →
      p.1.acct.failsNow g act = true → p.1.acct.Verdict p'.1.acct) := by
  have hcounted := armsCounted_of_run hrun
  refine ⟨?_, ?_, ?_⟩
  · intro hzero n p' u hn hn32 hsteps
    exact (count_le hn hn32 hcounted (by omega) hsteps).2
  · intro harmed p' u hsteps
    suffices h : p'.1.acct.Alive ∧ p'.1.acct.retryAttempt = p.1.acct.retryAttempt ∧
        p'.1.acct.retryTmr = p.1.acct.retryTmr from h.2
    induction hsteps with
    | refl => exact ⟨hcounted.1, rfl, rfl⟩
    | @step r r' u act os _ hfails hstep ih =>
        obtain ⟨halive, hattempt, htmr⟩ := ih
        refine ⟨armedAccount_alive halive hstep, ?_⟩
        obtain ⟨-, hafter, -⟩ := oneAccount_step (Machine.withHistory_step.mp hstep).1
        have hkept := Account.retry_of_failsAgain g r.1.now (a := r.1.acct.idle) act halive
          (by rw [← harmed, ← htmr]; rfl) hfails
        rw [hafter, hkept.1, hkept.2]
        exact ⟨hattempt, htmr⟩
  · intro act p' os hstep hwanted hfails
    obtain ⟨-, hafter, -⟩ := oneAccount_step (Machine.withHistory_step.mp hstep).1
    have hfails' : p.1.acct.idle.failsNow g act = true := by
      rw [← hfails]
      cases act <;> rfl
    have hverdict := Account.verdict_of_failsNow g p.1.now (a := p.1.acct.idle) act hcounted.1 rfl
      hwanted hfails'
    rw [← hafter] at hverdict
    exact ⟨hverdict.state, hverdict.events, hverdict.said⟩

/-- A refused registration: its retry is armed, and every further failure leaves it so. -/
theorem retry_budget_and_verdict_armed :
    ∃ p t, (armedAccount configInit).Run Machine.Always p t ∧ p.2 = 1 ∧ ∀ p' u,
      (armedAccount configInit).Steps (fun _ act => act.failsAgain = true) p u p' →
        p'.1.acct.retryAttempt = p.1.acct.retryAttempt ∧
          p'.1.acct.retryTmr = p.1.acct.retryTmr := by
  obtain ⟨p, t, hrun, hstate⟩ := Machine.exists_run_of_exec (M := armedAccount configInit)
    (s := (justCreated, 0)) (fun _ _ => true) ⟨justCreated_init configInit, rfl⟩
    [.register false true, .registerFail (some "503 Service Unavailable".toList) 0]
    (fun p _ => decide (p.2 = 1) && p.1.acct.retryTmr.isRunning) (by decide +kernel)
  obtain ⟨hcount, harmed⟩ := Bool.and_eq_true_iff.mp hstate
  exact ⟨p, t, hrun.always, of_decide_eq_true hcount,
    (retry_budget_and_verdict hrun.always).2.1 harmed⟩

end VoxSdk
