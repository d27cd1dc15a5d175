import VoxSdk.Proof.HandlerLemmas
import VoxSdk.Proof.Rounds

/-!
# Who drives a recovery

An account that shows RECONNECTING or REGISTERING is waiting for something: its retry, its watchdog,
its probe timer, an answer to a probe, or a handover that is on its way. Each of them hands over to
another under its own conditions, so this is no invariant either; `keepsDriven` says of a step, from
the state before it, whether somebody is left.
-/

namespace VoxSdk

open Reactive

namespace Account

/-- The app wants the registration and is told that it is under way. -/
def waits (a : Account) : Bool :=
  a.regWanted && (decide (a.regState = .reconnecting) || decide (a.regState = .registering))

/-- Something of the account's own will come back to it. -/
def driven (a : Account) : Bool :=
  a.retryTmr.isRunning || a.regWatchTmr.isRunning || a.kaTmr.isRunning || a.kaInFlight

variable (g : Cfg) (now : Nat)

/-- A live account that is not left waiting; `owed` says whether a handover is on its way. -/
structure Attended (owed : Bool) (a : Account) : Prop where
  alive : a.Alive
  probes : a.kaTmr.isRunning = true → g.keepaliveInterval ≠ 0
  driven : a.waits = true → owed = true ∨ a.driven = true

/-- The steps of an account that do not leave it waiting for nothing. -/
def keepsDriven (owed : Bool) (a : Account) : AcctAct → Bool
  | .cancelRetry =>
      owed || !(a.regWanted && decide (a.regState = .registering)) || a.kaTmr.isRunning ||
        a.kaInFlight
  | .setPushToken token dupOk reporting =>
      owed || !(a.regWanted && a.reRegisters token dupOk && reporting) || a.driven
  | .keepaliveFires inCall _ | .keepaliveNow inCall _ =>
      owed || !a.waits || a.retryTmr.isRunning || a.regWatchTmr.isRunning || a.kaInFlight || inCall ||
        a.probeable
  | .optionsAnswered answered registered _ =>
      owed || a.retryTmr.isRunning || a.regWatchTmr.isRunning || a.kaTmr.isRunning ||
        decide (g.keepaliveInterval ≠ 0) || !a.regWanted ||
        (if answered then
          !a.waits || (a.kaFailed && decide (a.regState = .reconnecting) && registered)
        else g.keepaliveReregister)
  | _ => true

variable {g now} {a : Account} {owed : Bool}

/-- An account attended by itself is attended with a handover on its way too. -/
theorem Attended.mono (h : Attended g false a) : Attended g owed a :=
  ⟨h.alive, h.probes, fun hwaits => .inr ((h.driven hwaits).resolve_left (by decide))⟩

theorem Attended.of_driven (halive : a.Alive)
    (hprobes : a.kaTmr.isRunning = true → g.keepaliveInterval ≠ 0) (hdriven : a.driven = true) :
    Attended g owed a := ⟨halive, hprobes, fun _ => .inr hdriven⟩

theorem Attended.of_not_waits (halive : a.Alive)
    (hprobes : a.kaTmr.isRunning = true → g.keepaliveInterval ≠ 0) (hwaits : a.waits = false) :
    Attended g owed a := ⟨halive, hprobes, fun h => absurd (hwaits.symm.trans h) (by decide)⟩

theorem waits_of_not_wanted (h : a.regWanted = false) : a.waits = false := by simp [waits, h]

/-- The probe tick, from its timer or asked for: `a` is the account with the timer idle. -/
theorem attended_keepaliveHandler (inCall sendErr : Bool) {b : Account} (h : Attended g owed a)
    (hkeeps : a.keepsDriven g owed (.keepaliveFires inCall sendErr) = true)
    (hb : ({ a with kaTmr := none }).keepaliveHandler g now inCall sendErr = b) :
    Attended g owed b := by
  obtain ⟨halive, hprobes, hdriven⟩ := h
  obtain ⟨halive', -, hwanted, hstate, -, hretry, hwatch, hcases⟩ :=
    keepaliveHandler_cases g now inCall sendErr (a := { a with kaTmr := none }) halive hb
  have hwaits : b.waits = a.waits := by simp [waits, hwanted, hstate]
  rcases hcases with ⟨rfl, hnothing⟩ | ⟨hwas, hflight, hka⟩ | ⟨hka, hflight⟩
  · refine ⟨halive', by simp, fun hw => ?_⟩
    rw [hwaits] at hw
    have hwants : a.regWanted = true := (Bool.and_eq_true_iff.mp hw).1
    rcases hnothing with hnot | hflight | ⟨hcall, hprobe⟩
    · exact absurd (hwants.symm.trans hnot) (by decide)
    · exact .inr (by simp_all [driven])
    · replace hprobe : a.probeable = false := hprobe
      simp_all only [keepsDriven, driven, Bool.or_eq_true, Bool.not_true, Bool.false_eq_true]
      grind
  · by_cases hinterval : g.keepaliveInterval = 0
    · -- without an interval the timer was idle already, and somebody else drives the account
      refine ⟨halive', by simp [hka, hinterval], fun hw => ?_⟩
      rw [hwaits] at hw
      have hidle : a.kaTmr.isRunning = false := by
        cases hrun : a.kaTmr.isRunning with
        | false => rfl
        | true => exact absurd hinterval (hprobes hrun)
      simp_all [driven, or_assoc]
    · exact .of_driven halive' (fun _ => hinterval) (by simp [driven, hka, hinterval])
  · exact .of_driven halive' (by simp [hka]) (by simp [driven, hflight])

theorem attended_handle (act : AcctAct) (hown : act.isOwn = true) (h : Attended g owed a)
    (hkeeps : a.keepsDriven g owed act = true) : Attended g owed (a.handle g now act) := by
  have ⟨halive, hprobes, hdriven⟩ := h
  generalize hb : a.handle g now act = b
  cases act with
  | register dnsErr reporting =>
      obtain ⟨halive', -, -, -, -, -, hwatch, hka, -⟩ :=
        registerFn_spec g now dnsErr reporting halive hb
      exact .of_driven halive' (hka ▸ hprobes) (by simp [driven, hwatch])
  | unregister reporting =>
      obtain ⟨halive', -, hwanted, -, -, -, -, hka, -⟩ := unregisterFn_spec reporting halive hb
      exact .of_not_waits halive' (by simp [hka]) (waits_of_not_wanted hwanted)
  | retryNow reporting =>
      obtain ⟨halive', -, -, -, -, -, hwatch, hka, -⟩ := retryNowFn_spec now reporting halive hb
      exact .of_driven halive' (hka ▸ hprobes) (by simp [driven, hwatch])
  | cancelRetry =>
      obtain ⟨halive', -, hwanted, hstate, -, -, -, hka, hflight⟩ := cancelRetryFn_spec halive hb
      refine ⟨halive', hka ▸ hprobes, fun hwaits => ?_⟩
      have hregistering : a.regWanted = true ∧ a.regState = .registering := by
        simp only [waits, hwanted, hstate] at hwaits
        split at hwaits <;> simp_all
      simp_all [keepsDriven, driven]
      grind
  | setRetryPolicy initialMs maxMs backoff maxAttempts => exact hb ▸ ⟨halive, hprobes, hdriven⟩
  | setPushToken token dupOk reporting =>
      obtain ⟨halive', -, hwanted, hstate, -, hretry, hwatch, hka, hflight⟩ :=
        setPushTokenFn_spec token dupOk reporting halive hb
      have hdriven' : b.driven = a.driven := by simp [driven, hretry, hwatch, hka, hflight]
      refine ⟨halive', hka ▸ hprobes, fun hwaits => ?_⟩
      rw [hdriven']
      cases hre : a.reRegisters token dupOk && reporting with
      | false => exact hdriven (by simpa [waits, hwanted, hstate, hre] using hwaits)
      | true => simp_all [keepsDriven, waits]
  | keepaliveNow inCall sendErr => exact attended_keepaliveHandler inCall sendErr h hkeeps hb
  | registerOk =>
      obtain ⟨halive', -, -, hstate, -, -, -, -, hka⟩ := beventRegisterOk_spec g now halive hb
      refine .of_not_waits halive' (fun harmed => ?_) (by simp [waits, hstate])
      simp_all
      grind
  | registerFail reason rand =>
      obtain ⟨halive', -, hwanted, hstate, -, hretry, hwatch, hka, hflight⟩ :=
        beventRegisterFail_spec g now reason rand halive hb
      refine ⟨halive', by simp [hka], fun hwaits => .inr ?_⟩
      by_cases hauth : registerFailError reason = .auth
      · simp [waits, hstate, hauth] at hwaits
      · cases hrun : a.retryTmr.isRunning <;> cases hbudget : a.retryBudgetLeft g <;>
          simp_all [waits, driven]
  | srvDone targets =>
      obtain ⟨srv, rfl⟩ := srvDoneHandler_spec targets hb
      exact ⟨halive, hprobes, hdriven⟩
  | retryFires reporting =>
      obtain ⟨halive', -, -, -, -, -, hwatch, hka, -⟩ :=
        retryTimerHandler_spec now reporting (a := { a with retryTmr := none }) halive hb
      exact .of_driven halive' (hka ▸ hprobes) (by simp [driven, hwatch])
  | watchFires registered rand =>
      obtain ⟨hended, rfl⟩ | ⟨-, -, -, -, halive', -, hwanted, hflight, hcases⟩ :=
        regWatchHandler_cases g now registered rand (a := { a with regWatchTmr := none }) halive hb
      · refine ⟨halive, hprobes, fun hwaits => ?_⟩
        rcases hended with hend | hend | hend | hend <;> simp_all [waits, driven]
      · rcases hcases with ⟨-, hstate, -, -, -, hka⟩ | ⟨-, -, -, -, hwatch, hka⟩ |
          ⟨-, hstate, -, hretry, -, hka⟩
        · refine .of_not_waits halive' (fun harmed => ?_) (by simp [waits, hstate])
          simp_all
          grind
        · exact .of_driven halive' (hka ▸ hprobes) (by simp [driven, hwatch])
        · refine ⟨halive', hka ▸ hprobes, fun hwaits => .inr ?_⟩
          rw [← hretry] at hstate
          cases hrun : b.retryTmr.isRunning with
          | true => simp [driven, hrun]
          | false => simp [waits, hstate, hrun] at hwaits
  | keepaliveFires inCall sendErr => exact attended_keepaliveHandler inCall sendErr h hkeeps hb
  | optionsAnswered answered registered rand =>
      cases answered with
      | true =>
          obtain ⟨halive', -, hwanted, hstate, -, hretry, hwatch, hflight, hka⟩ :=
            keepaliveRespHandler_answered g now registered rand halive hb
          refine ⟨halive', fun harmed => ?_, fun hwaits => ?_⟩
          · simp_all
            grind
          · cases hrec : a.kaFailed && decide (a.regState = .reconnecting) && registered with
            | true => simp [waits, hstate, hrec] at hwaits
            | false =>
                have hwas : a.waits = true := by simpa [waits, hwanted, hstate, hrec] using hwaits
                have hwants : a.regWanted = true := (Bool.and_eq_true_iff.mp hwas).1
                simp [keepsDriven, hwas, hrec, hwants] at hkeeps
                simp [driven, hretry, hwatch, hka, hwants]
                grind
      | false =>
          obtain ⟨halive', -, hwanted, hwatch, hflight, hcases⟩ :=
            keepaliveRespHandler_unanswered g now registered rand halive hb
          cases hre : g.keepaliveReregister && a.regWanted with
          | true =>
              rw [hre, if_pos rfl] at hcases
              obtain ⟨hstate, -, hretry, hka⟩ := hcases
              refine ⟨halive', hka ▸ hprobes, fun hwaits => .inr ?_⟩
              rw [← hretry] at hstate
              cases hrun : b.retryTmr.isRunning with
              | true => simp [driven, hrun]
              | false => simp [waits, hstate, hrun] at hwaits
          | false =>
              rw [hre, if_neg (by simp)] at hcases
              obtain ⟨hstate, -, hretry, hka⟩ := hcases
              refine ⟨halive', fun harmed => ?_, fun hwaits => ?_⟩
              · simp_all
                grind
              · simp_all [keepsDriven, waits, driven]
                grind
  | handoverMark | handoverToRetry rand | handoverReregister reporting | elapse ms => cases hown

theorem Attended.idle (h : Attended g owed a) : Attended g owed a.idle :=
  ⟨h.alive, h.probes, h.driven⟩

/-- The mark takes the probe timer, and says that the registration is on its way back. -/
theorem attended_regReconnecting (h : Attended g true a) : Attended g true a.regReconnecting := by
  obtain ⟨halive', -, -, -, -, -, hcases⟩ := regReconnecting_spec h.alive rfl
  refine ⟨halive', fun harmed => ?_, fun _ => .inl rfl⟩
  split at hcases
  · simp [hcases.2.2] at harmed
  · exact h.probes (hcases ▸ harmed)

theorem regReconnecting_not_registering (halive : a.Alive) (hwanted : a.regWanted = true) :
    a.regReconnecting.regState ≠ .registering := by
  obtain ⟨-, -, -, -, -, -, hcases⟩ := regReconnecting_spec halive rfl
  split at hcases
  · simp [hcases.1]
  · rename_i hnot
    rw [hcases]
    simp_all

/-- When the handover gives up, the retry takes the accounts it had marked. -/
theorem attended_handoverToRetry (rand : Nat) (h : Attended g true a)
    (hregistering : a.regState = .registering → a.driven = true) :
    Attended g false (a.handoverToRetry g now rand) := by
  obtain ⟨halive', -, hwanted, hwatch, hka, hflight, hcases⟩ :=
    handoverToRetry_spec g now rand h.alive rfl
  refine ⟨halive', hka ▸ h.probes, fun hwaits => .inr ?_⟩
  split at hcases
  · obtain ⟨hstate, -, hretry⟩ := hcases
    rw [← hretry] at hstate
    cases hrun : (a.handoverToRetry g now rand).retryTmr.isRunning with
    | true => simp [driven, hrun]
    | false => simp [waits, hstate, hrun] at hwaits
  · rename_i hnot
    rw [hcases] at hwaits ⊢
    have hstates := (Bool.and_eq_true_iff.mp hwaits).2
    simp only [Bool.or_eq_true, decide_eq_true_eq] at hstates
    rcases hstates with hstate | hstate
    · simp_all [driven]
    · exact hregistering hstate

/-- When it succeeds, every account it re-registers has its watchdog. -/
theorem attended_reregister (reporting : Bool) (h : Attended g true a) :
    Attended g false (a.reregister now reporting) := by
  obtain ⟨halive', -, -, hka, -, hcases⟩ := reregister_spec now reporting h.alive rfl
  split at hcases
  · rename_i hauth
    rw [hcases]
    have hfailed : a.regState = .failed :=
      of_decide_eq_true (Bool.and_eq_true_iff.mp hauth).1
    exact .of_not_waits h.alive h.probes (by simp [waits, hfailed])
  · exact .of_driven halive' (hka ▸ h.probes) (by simp [driven, hcases.2.2.2.1])

theorem not_waits_of_not_inSnapshot (halive : a.Alive) (h : a.inSnapshot = false) :
    a.waits = false := by
  obtain ⟨hua, hdes⟩ := halive
  exact waits_of_not_wanted (by simpa [inSnapshot, hua, hdes] using h)

end Account

namespace Sys

variable (g : Cfg)

/-- Every account is attended, by something of its own or by the handover on its way. -/
def Attended (s : Sys) : Prop := ∀ a ∈ s.accounts, a.Attended g s.nm.tmrSettle.isRunning

/-- The attempts of `settle_handler` that end the round: `uag_reset_transp` succeeds, or fails for
the last time. -/
def endsRound (s : Sys) (env : NetEnv) : Bool :=
  decide (env.scanned = 0) && (env.routable || env.linklocal) &&
    (env.resetTransp.isNone || decide (s.nm.maxAttempts ≤ s.nm.attempt + 1))

/-- The steps that leave no account waiting for nothing. When a handover is over, the accounts
past the first `netMaxSnap` the app wants have to have something of their own; and when it has failed
for the last time, so have those still in REGISTERING, unless the link goes down just then. -/
def keepsDriven (s : Sys) : SysAct → Bool
  | .account id act =>
      s.accounts.all fun a =>
        decide (a.id ≠ id) || a.keepsDriven g s.nm.tmrSettle.isRunning act
  | .settleFires env =>
      !s.endsRound env ||
        ((missed Account.inSnapshot netMaxSnap s.accounts).all (fun a => !a.waits || a.driven) &&
          (env.resetTransp.isNone || (!env.routable && !s.nm.down) ||
            (reached Account.inSnapshot netMaxSnap s.accounts).all fun a =>
              decide (a.regState ≠ .registering) || a.driven))
  | _ => true

variable {g} {env : NetEnv} {s : Sys}

theorem endsRound_iff :
    s.endsRound env = true ↔ env.scanned = 0 ∧ (env.routable = true ∨ env.linklocal = true) ∧
      (env.resetTransp.isNone = true ∨ s.nm.maxAttempts ≤ s.nm.attempt + 1) := by
  simp only [endsRound, Bool.and_eq_true, Bool.or_eq_true, decide_eq_true_eq, and_assoc]

theorem keepsDriven_settle (hkeeps : s.keepsDriven g (.settleFires env) = true)
    (hends : s.endsRound env = true) :
    (∀ a ∈ missed Account.inSnapshot netMaxSnap s.accounts, a.waits = true → a.driven = true) ∧
      (env.resetTransp.isNone = true ∨ (!env.routable && !s.nm.down) = true ∨
        ∀ a ∈ reached Account.inSnapshot netMaxSnap s.accounts, a.regState = .registering →
          a.driven = true) := by
  simp only [keepsDriven, hends, Bool.not_true, Bool.false_or, Bool.and_eq_true, Bool.or_eq_true,
    List.all_eq_true, Bool.not_eq_true', decide_eq_true_eq, ne_eq, or_assoc] at hkeeps
  obtain ⟨hmissed, hreached⟩ := hkeeps
  refine ⟨fun a ha hwaits => ?_, ?_⟩
  · exact (hmissed a ha).resolve_left (by simp [hwaits])
  · refine hreached.imp_right (Or.imp ?_ fun h a ha hstate => ?_)
    · simp
    · exact (h a ha).resolve_left (not_not.mpr hstate)

theorem forall_markAccountsReconnecting {P : Account → Prop}
    (hmark : ∀ a, P a → P a.idle.regReconnecting.idle) (h : ∀ a ∈ s.accounts, P a) :
    ∀ a ∈ s.markAccountsReconnecting.accounts, P a :=
  forall_mem_sweep_of_keeps (fun a _ => hmark a) h

theorem forall_announce {P : Account → Prop} (hmark : ∀ a, P a → P a.idle.regReconnecting.idle)
    (h : ∀ a ∈ s.accounts, P a) : ∀ a ∈ (s.announce env).accounts, P a := by
  unfold announce
  split
  · exact h
  · exact forall_markAccountsReconnecting hmark h

theorem forall_linkDown {P : Account → Prop} (curLaddr : CStr)
    (hmark : ∀ a, P a → P a.idle.regReconnecting.idle) (h : ∀ a ∈ s.accounts, P a) :
    ∀ a ∈ (s.linkDown curLaddr).accounts, P a := by
  unfold linkDown
  split
  · exact h
  · exact forall_markAccountsReconnecting hmark h

theorem forall_noteLink {P : Account → Prop} (hmark : ∀ a, P a → P a.idle.regReconnecting.idle)
    (h : ∀ a ∈ s.accounts, P a) : ∀ a ∈ (s.noteLink env).accounts, P a := by
  unfold noteLink
  split
  · exact forall_linkDown _ hmark h
  · rw [linkUp_frame.2.2]
    exact h

/-- The accounts the loops do not reach are the same before and after the mark. -/
theorem missed_noteLink :
    missed Account.inSnapshot netMaxSnap (s.noteLink env).accounts =
      missed Account.inSnapshot netMaxSnap s.accounts := by
  cases hdown : !env.routable && !s.nm.down with
  | false => rw [noteLink_accounts hdown]
  | true =>
      rw [noteLink_marks hdown]
      exact missed_sweep fun a ha => Account.inSnapshot_regReconnecting (a := a.idle) ha

/-- Nobody is in REGISTERING right after the mark. -/
theorem reached_noteLink (halive : ∀ a ∈ s.accounts, a.Alive)
    (hdown : (!env.routable && !s.nm.down) = true) :
    ∀ a ∈ reached Account.inSnapshot netMaxSnap (s.noteLink env).accounts,
      a.regState ≠ .registering := by
  rw [noteLink_marks hdown,
    reached_sweep fun a ha => Account.inSnapshot_regReconnecting (a := a.idle) ha]
  intro b hb
  obtain ⟨a, ha, rfl⟩ := List.mem_map.mp hb
  obtain ⟨hmem, hsnap⟩ := mem_reached ha
  exact Account.regReconnecting_not_registering (a := a.idle) (halive a hmem)
    (Bool.and_eq_true_iff.mp hsnap).2

theorem attended_mark {a : Account} (h : a.Attended g true) :
    a.idle.regReconnecting.idle.Attended g true :=
  (Account.attended_regReconnecting h.idle).idle

/-- With the settle timer armed nothing has to be driven by itself. -/
theorem Attended.weaken (h : s.Attended g) : ∀ a ∈ s.accounts, a.Attended g true :=
  fun a ha => ⟨(h a ha).alive, (h a ha).probes, fun _ => .inl rfl⟩

/-- A loop that is the last thing a round does to its accounts. -/
theorem attended_sweep (work : Account → Account × List SysOut) {accounts : List Account}
    (h : ∀ a ∈ accounts, a.Attended g true)
    (hwork : ∀ a ∈ reached Account.inSnapshot netMaxSnap accounts, a.Attended g true →
      (work a).1.Attended g false)
    (hmissed : ∀ a ∈ missed Account.inSnapshot netMaxSnap accounts, a.waits = true →
      a.driven = true) :
    ∀ a ∈ (sweep Account.inSnapshot work netMaxSnap accounts).1, a.Attended g false := by
  refine forall_mem_sweep hwork (fun a _ htest ha => ?_) (fun a hmem ha => ?_) h
  · exact .of_not_waits ha.alive ha.probes (Account.not_waits_of_not_inSnapshot ha.alive htest)
  · exact ⟨ha.alive, ha.probes, fun hwaits => .inr (hmissed a hmem hwaits)⟩

theorem attended_netmonTrigger {forced : Bool} (hstarted : s.nm.started = true)
    (h : s.Attended g) : (s.netmonTrigger env forced).Attended g := by
  cases howed : (s.noteChange env forced).isOwed with
  | false =>
      rw [netmonTrigger_of_not_owed hstarted howed]
      exact h
  | true =>
      rw [netmonTrigger_of_owed hstarted howed]
      exact forall_announce (s := s.noteChange env forced) (fun a => attended_mark) h.weaken

theorem attended_resetOutcome (hlast : env.resetTransp.isNone = true ∨
      s.nm.maxAttempts ≤ s.nm.attempt + 1) (h : ∀ a ∈ s.accounts, a.Attended g true)
    (hmissed : ∀ a ∈ missed Account.inSnapshot netMaxSnap s.accounts, a.waits = true →
      a.driven = true)
    (hregistering : env.resetTransp.isNone = true ∨
      ∀ a ∈ reached Account.inSnapshot netMaxSnap s.accounts, a.regState = .registering →
        a.driven = true) :
    ∀ a ∈ (s.resetOutcome g env).accounts, a.Attended g false := by
  unfold resetOutcome
  cases hresult : env.resetTransp with
  | none =>
      simp only [resetDone_accounts]
      exact attended_sweep _ h (fun a _ ha => (Account.attended_reregister _ ha.idle).idle) hmissed
  | some err =>
      have hleft : ¬ s.nm.attempt + 1 < s.nm.maxAttempts := by
        rcases hlast with hnone | hlast
        · simp [hresult] at hnone
        · omega
      simp only [resetFailed, emitNet_frame, hleft, if_false, giveUp_accounts]
      refine attended_sweep _ h (fun a hmem ha => ?_) hmissed
      refine (Account.attended_handoverToRetry _ ha.idle fun hstate => ?_).idle
      rcases hregistering with hnone | hregistering
      · simp [hresult] at hnone
      · exact hregistering a hmem hstate

/-- An attempt that fails and is not the last leaves the timer armed. -/
theorem armed_resetOutcome (hresult : env.resetTransp.isNone = false)
    (hleft : s.nm.attempt + 1 < s.nm.maxAttempts) :
    (s.resetOutcome g env).nm.tmrSettle.isRunning = true ∧
      (s.resetOutcome g env).accounts = s.accounts := by
  unfold resetOutcome
  cases hr : env.resetTransp with
  | none => simp [hr] at hresult
  | some err => simp [resetFailed, hleft]

/-- The accounts in REGISTERING when the handover comes to its end. -/
theorem registering_noteLink (halive : ∀ a ∈ s.accounts, a.Alive)
    (h : (!env.routable && !s.nm.down) = true ∨
      ∀ a ∈ reached Account.inSnapshot netMaxSnap s.accounts, a.regState = .registering →
        a.driven = true) :
    ∀ a ∈ reached Account.inSnapshot netMaxSnap (s.noteLink env).accounts,
      a.regState = .registering → a.driven = true := by
  cases hnew : !env.routable && !s.nm.down with
  | true => exact fun a ha hstate => absurd hstate (reached_noteLink halive hnew a ha)
  | false =>
      rw [noteLink_accounts hnew]
      exact h.resolve_left (by simp [hnew])

theorem attended_applyHandover (h : ∀ a ∈ s.accounts, a.Attended g true)
    (hkeeps : s.keepsDriven g (.settleFires env) = true) (hscan : env.scanned = 0) :
    (s.applyHandover g env).Attended g := by
  unfold applyHandover
  split
  · exact forall_linkDown _ (fun a => attended_mark) h
  · rename_i hbinds
    let r := ({ s with nm.waitTicks := 0 }).noteLink env
    have hpart : r.nm.roundPart = s.nm.roundPart := congrArg Prod.fst noteLink_view
    have hattended : ∀ a ∈ r.accounts, a.Attended g true :=
      forall_noteLink (s := { s with nm.waitTicks := 0 }) (fun a => attended_mark) h
    have hattempt : r.nm.attempt = s.nm.attempt := congrArg RoundPart.attempt hpart
    have hmax : r.nm.maxAttempts = s.nm.maxAttempts := congrArg RoundPart.maxAttempts hpart
    obtain ⟨os, heq, -⟩ := resetTransports_eq g env r
    show (r.resetTransports g env).Attended g
    rw [heq]
    by_cases hends : s.endsRound env = true
    · obtain ⟨hmissed, hregistering⟩ := keepsDriven_settle hkeeps hends
      have hlast := (endsRound_iff.mp hends).2.2
      rw [← hattempt, ← hmax] at hlast
      have hafter := attended_resetOutcome (s := r.emit os) hlast hattended
        (missed_noteLink (s := { s with nm.waitTicks := 0 }) ▸ hmissed)
        (hregistering.imp_right fun hstill =>
          registering_noteLink (s := { s with nm.waitTicks := 0 })
            (fun a ha => (h a ha).alive) hstill)
      exact fun a ha => (hafter a ha).mono
    · have hgoes : ¬ (env.resetTransp.isNone = true ∨ s.nm.maxAttempts ≤ s.nm.attempt + 1) := by
        refine fun hlast => hends (endsRound_iff.mpr ⟨hscan, ?_, hlast⟩)
        cases hr : env.routable <;> cases hl : env.linklocal <;> simp_all
      obtain ⟨hfailed, hleft⟩ := not_or.mp hgoes
      obtain ⟨harmed, haccounts⟩ := armed_resetOutcome (g := g) (s := r.emit os)
        (Bool.eq_false_iff.mpr hfailed) (by rw [← hattempt, ← hmax] at hleft; exact Nat.lt_of_not_le hleft)
      rw [Attended, harmed, haccounts]
      exact hattended

theorem attended_settleHandler (hstarted : s.nm.started = true) (howed : s.isOwed = true)
    (h : ∀ a ∈ s.accounts, a.Attended g true)
    (hkeeps : s.keepsDriven g (.settleFires env) = true) : (s.settleHandler g env).Attended g := by
  unfold settleHandler
  rw [if_neg (by simp [hstarted])]
  split
  · exact h
  · rename_i hscan
    rw [if_neg (by simp [howed])]
    exact attended_applyHandover h hkeeps (not_not.mp hscan)

/-- What is attended stays attended, whatever else changes. -/
theorem Attended.of_eq {s' : Sys} (h : s.Attended g) (haccounts : s'.accounts = s.accounts)
    (htmr : s'.nm.roundPart = s.nm.roundPart) : s'.Attended g := by
  have hsettle : s'.nm.tmrSettle = s.nm.tmrSettle := congrArg RoundPart.tmrSettle htmr
  rw [Attended, haccounts, hsettle]
  exact h

theorem attended_handle {act : SysAct} (hstarted : s.nm.started = true)
    (howed : s.nm.tmrSettle.isRunning = true → s.isOwed = true) (hen : s.enabled act = true)
    (h : s.Attended g) (hkeeps : s.keepsDriven g act = true) : (s.handle g act).Attended g := by
  cases act with
  | createAccount id cfg pushToken =>
      intro a ha
      rcases List.mem_append.mp ha with ha | ha
      · exact h a ha
      · obtain rfl := List.mem_singleton.mp ha
        exact .of_not_waits (Account.alive_create id cfg pushToken)
          (by simp [Account.create]) rfl
  | destroyAccount id => exact fun a ha => h a (List.mem_filter.mp ha).1
  | account id act =>
      obtain ⟨hown, -⟩ := Bool.and_eq_true_iff.mp hen
      refine forall_mem_sweep (fun a hmem ha => ?_) (fun a _ _ ha => ha) (fun a _ ha => ha) h
      obtain ⟨hin, hid⟩ := mem_reached hmem
      have hstep := (Bool.or_eq_true_iff.mp (List.all_eq_true.mp hkeeps a hin)).resolve_left
        (by simpa using hid)
      exact (Account.attended_handle act hown ha.idle hstep).idle
  | networkChanged env => exact attended_netmonTrigger hstarted h
  | pollFires env =>
      obtain ⟨tmrPoll, heq⟩ := pollHandler_eq (s := { s with nm.tmrPoll := none }) env hstarted
      simp only [handle]
      rw [heq]
      exact (attended_netmonTrigger (s := { s with nm.tmrPoll := none }) hstarted h : _)
  | settleFires env =>
      exact attended_settleHandler (s := { s with nm.tmrSettle := none }) hstarted
        (howed (Timer.isRunning_of_isDue hen)) h.weaken hkeeps
  | _ => exact h.of_eq (handle_accounts rfl) (handle_roundPart rfl)

end Sys

variable {g : Cfg} {s : Sys} {t : Trace SysAct SysOut}

/-- **A recovery is driven.** In a run whose steps `keepsDriven` accepts, an account the app wants and
that shows RECONNECTING or REGISTERING has something of its own armed or outstanding, or a handover is
owed and the settle timer armed. -/
theorem reconnecting_driven (hrun : (system g).Run (fun s act => s.keepsDriven g act) s t) :
    ∀ a ∈ s.accounts, a.waits = true →
      a.driven = true ∨ (s.nm.tmrSettle.isRunning = true ∧ s.isOwed = true) := by
  suffices h : (∃ q, s.nm.roundPart.Follows g.maxAttempts q) ∧ s.Attended g by
    obtain ⟨⟨q, hfollows⟩, hattended⟩ := h
    intro a ha hwaits
    rcases (hattended a ha).driven hwaits with harmed | hdriven
    · exact .inr ⟨harmed, hfollows.owed harmed⟩
    · exact .inl hdriven
  refine hrun.stateInvariant
    (I := fun s => (∃ q, s.nm.roundPart.Follows g.maxAttempts q) ∧ s.Attended g) ?_ ?_
  · intro s hinit
    refine ⟨⟨_, follows_init hinit⟩, ?_⟩
    obtain ⟨now, up, curLaddr, rfl⟩ := hinit
    exact fun a ha => absurd ha List.not_mem_nil
  · rintro s act s' os ⟨⟨q, hfollows⟩, hattended⟩ hkeeps hstep
    obtain ⟨q', -, hfollows'⟩ := follows_step hfollows hstep
    obtain ⟨hen, rfl, -⟩ := system_step hstep
    exact ⟨⟨q', hfollows'⟩, Sys.attended_handle (s := s.idle) hfollows.started hfollows.owed hen
      hattended hkeeps⟩

/-- A registration that is refused and then comes back with the network. -/
theorem reconnecting_driven_recovery :
    ∃ s t, (system configInit).Run (fun s act => s.keepsDriven configInit act) s t ∧
      ∃ a ∈ s.accounts, a.waits = true ∧
        (a.driven = true ∨ (s.nm.tmrSettle.isRunning = true ∧ s.isOwed = true)) := by
  obtain ⟨s, t, hrun, hwaits⟩ := Machine.exists_run_of_exec
    (fun s act => s.keepsDriven configInit act) (justStarted_init configInit)
    [.createAccount 0 (.plain "sip.example.com".toList) none, .account 0 (.register false true),
      .account 0 (.registerFail (some "503 Service Unavailable".toList) 0),
      .networkChanged .calm, .elapse 1500, .settleFires .calm]
    (fun s _ => s.accounts.any Account.waits) (by decide +kernel)
  obtain ⟨a, ha, hw⟩ := List.any_eq_true.mp hwaits
  exact ⟨s, t, hrun, a, ha, hw, reconnecting_driven hrun a ha hw⟩

/-- Without the condition nobody is left: the app cancels the retries while a REGISTER is out. -/
theorem registering_undriven :
    ¬ ∀ (g : Cfg) (s : Sys) (t : Trace SysAct SysOut), (system g).Run Machine.Always s t →
      ∀ a ∈ s.accounts, a.waits = true →
        a.driven = true ∨ (s.nm.tmrSettle.isRunning = true ∧ s.isOwed = true) := by
  intro h
  obtain ⟨s, t, hrun, hleft⟩ := Machine.exists_run_of_exec (fun _ _ => true)
    (justStarted_init configInit)
    [.createAccount 0 (.plain "sip.example.com".toList) none, .account 0 (.register false true),
      .account 0 .cancelRetry]
    (fun s _ => s.accounts.any (fun a => a.waits && !a.driven) && !s.isOwed) (by decide +kernel)
  obtain ⟨hany, howed⟩ := Bool.and_eq_true_iff.mp hleft
  obtain ⟨a, ha, hstuck⟩ := List.any_eq_true.mp hany
  obtain ⟨hwaits, hnot⟩ := Bool.and_eq_true_iff.mp hstuck
  rcases h configInit s t hrun.always a ha hwaits with hdriven | ⟨-, hset⟩
  · simp [hdriven] at hnot
  · simp [hset] at howed

end VoxSdk
