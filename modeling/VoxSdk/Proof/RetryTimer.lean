import VoxSdk.Proof.HandlerLemmas

/-!
# Who may have a retry armed

An armed retry belongs to a recovery: the app wants the registration and sees RECONNECTING. Not every
handler that leaves such a state cancels the timer, so this is no invariant of the account. The steps
that break it are the ones `keepsRetry` refuses, which looks at a single step from the account before
it.
-/

namespace VoxSdk

open Reactive

namespace Account

/-- An armed retry belongs to a recovery. -/
def RetryOwned (a : Account) : Prop :=
  a.retryTmr.isRunning = true → a.regWanted = true ∧ a.regState = .reconnecting

/-- The steps after which an armed retry still belongs to a recovery. -/
def keepsRetry (g : Cfg) (a : Account) : AcctAct → Bool
  | .register _ reporting => !(a.retryTmr.isRunning && reporting)
  | .unregister _ | .registerOk => !a.retryTmr.isRunning
  | .registerFail reason _ =>
      if registerFailError reason = .auth then !a.retryTmr.isRunning
      else a.retryTmr.isRunning || !a.retryBudgetLeft g || a.regWanted
  | .optionsAnswered answered registered _ =>
      !(a.retryTmr.isRunning && answered && a.kaFailed && decide (a.regState = .reconnecting) &&
        registered)
  | _ => true

variable (g : Cfg) (now : Nat) {a : Account}

/-- A step of an account whose retry belongs to a recovery keeps it so exactly if `keepsRetry` says
so. One case for each event. -/
theorem retryOwned_handle_iff (act : AcctAct) (halive : a.Alive) (hen : a.enabled now act = true)
    (hown : a.RetryOwned) :
    (a.handle g now act).RetryOwned ↔ a.keepsRetry g act = true := by
  generalize hb : a.handle g now act = b
  cases act with
  | register dnsErr reporting =>
      have hspec := registerFn_spec g now dnsErr reporting halive hb
      cases hrun : a.retryTmr.isRunning <;> cases reporting <;> simp_all [keepsRetry, RetryOwned]
  | unregister reporting =>
      have hspec := unregisterFn_spec reporting halive hb
      simp_all [keepsRetry, RetryOwned]
  | retryNow reporting =>
      have hspec := retryNowFn_spec now reporting halive hb
      simp_all [keepsRetry, RetryOwned]
  | cancelRetry =>
      have hspec := cancelRetryFn_spec halive hb
      simp_all [keepsRetry, RetryOwned]
  | setRetryPolicy initialMs maxMs backoff maxAttempts =>
      subst hb
      exact iff_of_true hown rfl
  | setPushToken token dupOk reporting =>
      have hspec := setPushTokenFn_spec token dupOk reporting halive hb
      have hdeferred : a.retryTmr.isRunning = true → a.reRegisters token dupOk = false := by
        intro hrun
        simp [reRegisters, registerDeferred, hrun]
      cases hrun : a.retryTmr.isRunning <;> simp_all [keepsRetry, RetryOwned]
  | keepaliveNow inCall sendErr =>
      have hspec := keepaliveHandler_cases g now inCall sendErr (a := { a with kaTmr := none })
        halive hb
      simp_all [keepsRetry, RetryOwned]
  | registerOk =>
      have hspec := beventRegisterOk_spec g now halive hb
      simp_all [keepsRetry, RetryOwned]
  | registerFail reason rand =>
      have hspec := beventRegisterFail_spec g now reason rand halive hb
      by_cases hauth : registerFailError reason = .auth
      · simp_all [keepsRetry, RetryOwned]
      · cases hrun : a.retryTmr.isRunning <;> cases hbudget : a.retryBudgetLeft g <;>
          simp_all [keepsRetry, RetryOwned]
  | srvDone targets =>
      obtain ⟨srv, rfl⟩ := srvDoneHandler_spec targets hb
      exact iff_of_true hown rfl
  | retryFires reporting =>
      have hspec := retryTimerHandler_spec now reporting (a := { a with retryTmr := none })
        halive hb
      simp_all [keepsRetry, RetryOwned]
  | watchFires registered rand =>
      obtain ⟨-, rfl⟩ | ⟨-, -, -, hrun, -, -, hwanted, -, hcases⟩ :=
        regWatchHandler_cases g now registered rand (a := { a with regWatchTmr := none }) halive hb
      · exact iff_of_true hown rfl
      · refine iff_of_true (fun harmed => ⟨hwanted, ?_⟩) rfl
        rcases hcases with ⟨-, -, -, htmr, -⟩ | ⟨-, -, -, htmr, -⟩ | ⟨-, hstate, -, htmr, -⟩
        · simp_all
        · simp_all
        · rw [hstate, ← htmr, harmed, if_pos rfl]
  | keepaliveFires inCall sendErr =>
      have hspec := keepaliveHandler_cases g now inCall sendErr (a := { a with kaTmr := none })
        halive hb
      simp_all [keepsRetry, RetryOwned]
  | optionsAnswered answered registered rand =>
      cases answered with
      | true =>
          have hspec := keepaliveRespHandler_answered g now registered rand halive hb
          cases hrun : a.retryTmr.isRunning <;> cases hfailed : a.kaFailed <;>
            simp_all [keepsRetry, RetryOwned]
      | false =>
          have hspec := keepaliveRespHandler_unanswered g now registered rand halive hb
          cases hre : (g.keepaliveReregister && a.regWanted) <;>
            cases hrun : a.retryTmr.isRunning <;> simp_all [keepsRetry, RetryOwned]
  | handoverMark =>
      obtain ⟨-, -, -, htmr, -, -, hcases⟩ := regReconnecting_spec halive hb
      refine iff_of_true (fun harmed => ?_) rfl
      obtain ⟨hwanted, hstate⟩ := hown (htmr ▸ harmed)
      rw [if_neg (by simp [hstate])] at hcases
      exact hcases ▸ ⟨hwanted, hstate⟩
  | handoverToRetry rand =>
      obtain ⟨-, -, hwanted, -, -, -, hcases⟩ := handoverToRetry_spec g now rand halive hb
      refine iff_of_true ?_ rfl
      split at hcases
      · -- only accounts the app wants registered are in the snapshot
        have hsnap : a.regWanted = true := by simp_all [enabled, inSnapshot]
        obtain ⟨hstate, -, htmr⟩ := hcases
        intro harmed
        exact ⟨hwanted.trans hsnap, by rw [hstate, ← htmr, harmed, if_pos rfl]⟩
      · exact hcases ▸ hown
  | handoverReregister reporting =>
      have hspec := reregister_spec now reporting halive hb
      cases hauth : a.authFailed <;> simp_all [keepsRetry, RetryOwned]
  | elapse ms =>
      subst hb
      exact iff_of_true hown rfl

end Account

variable {g : Cfg} {s : OneAccount} {t : Trace AcctAct AcctOut}

/-- In a run whose steps `keepsRetry` accepts, an armed retry always belongs to a recovery. -/
theorem retryTmr_running_imp_reconnecting
    (hrun : (oneAccount g).Run (fun s act => s.acct.keepsRetry g act) s t) :
    s.acct.RetryOwned := by
  suffices h : s.acct.Alive ∧ s.acct.RetryOwned from h.2
  refine hrun.stateInvariant (I := fun s => s.acct.Alive ∧ s.acct.RetryOwned) ?_ ?_
  · rintro s ⟨id, cfg, pushToken, h⟩
    rw [h]
    exact ⟨Account.alive_create id cfg pushToken, fun harmed => by simp [Account.create] at harmed⟩
  · rintro s act s' os ⟨halive, hown⟩ hkeeps hstep
    obtain ⟨hen, hacct, -⟩ := oneAccount_step hstep
    rw [hacct]
    exact ⟨(Account.handle_alive g s.now (a := s.acct.idle) act halive).1,
      (Account.retryOwned_handle_iff g s.now (a := s.acct.idle) act halive hen hown).mpr hkeeps⟩

/-- A recovery that ends as it should: refused once, retried, and answered. -/
theorem retryTmr_running_imp_reconnecting_recovery :
    ∃ s t, (oneAccount configInit).Run (fun s act => s.acct.keepsRetry configInit act) s t ∧
      s.acct.RetryOwned ∧ s.acct.regState = .registered := by
  obtain ⟨s, t, hrun, hstate⟩ := Machine.exists_run_of_exec
    (fun s act => s.acct.keepsRetry configInit act) (justCreated_init configInit)
    [.register false true, .registerFail (some "503 Service Unavailable".toList) 0, .elapse 2400,
      .retryFires true, .registerOk]
    (fun s _ => decide (s.acct.regState = .registered)) (by decide +kernel)
  exact ⟨s, t, hrun, retryTmr_running_imp_reconnecting hrun, of_decide_eq_true hstate⟩

/-- Without the condition the retry outlives the recovery: `register` while a retry is armed. -/
theorem retryTmr_running_while_registering :
    ¬ ∀ (g : Cfg) (s : OneAccount) (t : Trace AcctAct AcctOut),
      (oneAccount g).Run Machine.Always s t → s.acct.RetryOwned := by
  intro h
  obtain ⟨s, t, hrun, hstate⟩ := Machine.exists_run_of_exec (fun _ _ => true)
    (justCreated_init configInit)
    [.register false true, .registerFail (some "503 Service Unavailable".toList) 0,
      .register false true]
    (fun s _ => s.acct.retryTmr.isRunning && decide (s.acct.regState = .registering))
    (by decide +kernel)
  obtain ⟨harmed, hregistering⟩ := Bool.and_eq_true_iff.mp hstate
  have hreconnecting := (h configInit s t hrun.always harmed).2
  rw [of_decide_eq_true hregistering] at hreconnecting
  cases hreconnecting

end VoxSdk
