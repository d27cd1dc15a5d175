import VoxSdk.Proof.HandlerLemmas

/-!
# The reachability probe

A registered account is probed with an OPTIONS request every `keepalive_interval`. The timer is
one-shot, so each way out of the probe's handler has to leave it armed or a request out. One does not:
the server's name with `sip:` in front of it has to fit 320 bytes.
-/

namespace VoxSdk

open Reactive

def AcctOut.probes : AcctOut → Bool
  | .uaOptionsSend _ => true
  | _ => false

def probesOf (os : List AcctOut) : List AcctOut := os.filter AcctOut.probes

@[simp]
theorem probesOf_append (os os' : List AcctOut) :
    probesOf (os ++ os') = probesOf os ++ probesOf os' := List.filter_append os os'

@[simp]
theorem probesOf_cons (o : AcctOut) (os : List AcctOut) :
    probesOf (o :: os) = if o.probes then o :: probesOf os else probesOf os := List.filter_cons

@[simp]
theorem probesOf_nil : probesOf [] = [] := rfl

/-- The server the probe is addressed to. -/
def AccountCfg.serverName (cfg : AccountCfg) : CStr :=
  match cfg.serverHost with
  | some (c :: cs) => c :: cs
  | _ => cfg.parsedHost

/-- How many probes an event answers, be it by their timeout. -/
@[simp]
def AcctAct.answers : AcctAct → Nat
  | .optionsAnswered .. => 1
  | _ => 0

/-- One account, and how many of its probes are out: sent, and neither answered nor timed out. -/
def probedAccount (g : Cfg) : Machine (OneAccount × Nat) AcctAct AcctOut :=
  (oneAccount g).withHistory 0 fun _ act os out => out - act.answers + (probesOf os).length

namespace Account

variable (g : Cfg) (now : Nat) {a : Account}

theorem serverName_eq : a.serverName = a.cfg.serverName := rfl

theorem probeable_iff (hname : a.cfg.serverName ≠ []) :
    a.probeable = true ↔ a.cfg.serverName.length ≤ 315 := by
  have hlen : "sip:".length = 4 := rfl
  simp only [probeable, serverName_eq, Bool.and_eq_true, decide_eq_true_eq, hlen]
  constructor
  · rintro ⟨-, h⟩
    omega
  · intro h
    exact ⟨decide_eq_true hname, by omega⟩

/-- The account is registered and the app wants it so. -/
def Up (a : Account) : Prop := a.regWanted = true ∧ a.regState = .registered

/-- The next probe is armed, or one is out. -/
def Probed (a : Account) : Prop := a.kaTmr.isRunning = true ∨ a.kaInFlight = true

/-- The handler of the probe's timer, which is idle when it runs. -/
theorem probed_keepaliveHandler (inCall sendErr : Bool) (hinterval : g.keepaliveInterval ≠ 0)
    (hprobeable : a.probeable = true) (halive : a.Alive) {b : Account}
    (hb : a.keepaliveHandler g now inCall sendErr = b) (hwanted : b.regWanted = true) : b.Probed := by
  obtain ⟨-, -, hwas, -, -, -, -, hcases⟩ := keepaliveHandler_cases g now inCall sendErr halive hb
  rcases hcases with ⟨rfl, hskip⟩ | ⟨-, -, htmr⟩ | ⟨-, hout⟩
  · rcases hskip with hunwanted | hout | ⟨-, hname⟩
    · rw [hwanted] at hunwanted
      cases hunwanted
    · exact .inr hout
    · rw [hprobeable] at hname
      cases hname
  · exact .inl (by simp [htmr, hinterval])
  · exact .inr hout

/-- A step into REGISTERED starts the probe, and a step that leaves the account there keeps it alive.
One case for each event that can do either. -/
theorem probed_handle (act : AcctAct) (hinterval : g.keepaliveInterval ≠ 0)
    (hprobeable : a.probeable = true) (halive : a.Alive)
    (hbefore : a.regState = .registered → a.regWanted = true ∧ a.Probed)
    (hup : (a.handle g now act).Up) : (a.handle g now act).Probed := by
  obtain ⟨hwanted, hstate⟩ := hup
  generalize hb : a.handle g now act = b at hwanted hstate ⊢
  cases act with
  | register dnsErr reporting =>
      have hspec := registerFn_spec g now dnsErr reporting halive hb
      cases reporting <;> simp_all [Probed]
  | unregister reporting =>
      have hspec := unregisterFn_spec reporting halive hb
      simp_all
  | retryNow reporting =>
      have hspec := retryNowFn_spec now reporting halive hb
      cases reporting <;> cases hrec : a.reconnecting <;> simp_all [Probed]
  | cancelRetry =>
      have hspec := cancelRetryFn_spec halive hb
      by_cases hst : a.regState = .reconnecting <;> simp_all [Probed]
  | setRetryPolicy initialMs maxMs backoff maxAttempts =>
      subst hb
      exact (hbefore hstate).2
  | setPushToken token dupOk reporting =>
      have hspec := setPushTokenFn_spec token dupOk reporting halive hb
      cases hre : a.reRegisters token dupOk && reporting <;> cases hrec : a.reconnecting <;>
        simp_all [Probed]
  | keepaliveNow inCall sendErr =>
      exact probed_keepaliveHandler g now inCall sendErr (a := { a with kaTmr := none }) hinterval
        hprobeable halive hb hwanted
  | registerOk =>
      have hspec := beventRegisterOk_spec g now halive hb
      simp_all [Probed]
  | registerFail reason rand =>
      obtain ⟨-, -, -, hst, -⟩ := beventRegisterFail_spec g now reason rand halive hb
      rw [hst] at hstate
      split_ifs at hstate
  | srvDone targets =>
      obtain ⟨srv, rfl⟩ := srvDoneHandler_spec targets hb
      exact (hbefore hstate).2
  | retryFires reporting =>
      have hspec := retryTimerHandler_spec now reporting (a := { a with retryTmr := none })
        halive hb
      cases reporting <;> cases hrec : a.reconnecting <;> simp_all [Probed]
  | watchFires registered rand =>
      obtain ⟨-, rfl⟩ | ⟨-, hregistered, -, -, -, -, -, -, hcases⟩ :=
        regWatchHandler_cases g now registered rand (a := { a with regWatchTmr := none }) halive hb
      · exact (hbefore hstate).2
      · rcases hcases with ⟨-, -, -, -, -, htmr⟩ | ⟨-, hst, -⟩ | ⟨-, hst, -⟩
        · exact .inl (by simp [htmr, hinterval])
        · exact absurd (hst.symm.trans hstate) hregistered
        · rw [hst] at hstate
          split_ifs at hstate
  | keepaliveFires inCall sendErr =>
      exact probed_keepaliveHandler g now inCall sendErr (a := { a with kaTmr := none }) hinterval
        hprobeable halive hb hwanted
  | optionsAnswered answered registered rand =>
      cases answered with
      | true =>
          have hspec := keepaliveRespHandler_answered g now registered rand halive hb
          exact .inl (by simp_all)
      | false =>
          obtain ⟨-, -, hwas, -, -, hcases⟩ :=
            keepaliveRespHandler_unanswered g now registered rand halive hb
          split_ifs at hcases <;>
            · rw [hcases.1] at hstate
              cases hstate
  | handoverMark =>
      obtain ⟨-, -, -, -, -, -, hcases⟩ := regReconnecting_spec halive hb
      split_ifs at hcases
      · rw [hcases.1] at hstate
        cases hstate
      · exact hcases ▸ (hbefore (hcases ▸ hstate)).2
  | handoverToRetry rand =>
      obtain ⟨-, -, -, -, -, -, hcases⟩ := handoverToRetry_spec g now rand halive hb
      split_ifs at hcases
      · rw [hcases.1] at hstate
        cases hstate
      · rw [hcases.1] at hstate
        cases hstate
      · exact hcases ▸ (hbefore (hcases ▸ hstate)).2
  | handoverReregister reporting =>
      have hspec := reregister_spec now reporting halive hb
      cases hauth : a.authFailed <;> cases reporting <;> simp_all [Probed]
  | elapse ms =>
      subst hb
      exact (hbefore hstate).2

/-! ### The probes that are out -/

@[simp]
theorem probesOf_postCopied (ev : RegEvent) (reason : ErrStr) :
    probesOf (a.postCopied ev reason).out = probesOf a.out := by
  unfold postCopied regEvPrepare
  by_cases hst : ev.state ≠ .reconnecting
  · simp [hst, reconnectReset, AcctOut.probes]
  · by_cases hsame : a.sameReport ev.error = true
    · simp [hst, hsame, AcctOut.probes]
    · simp [hst, hsame, remember, AcctOut.probes]

@[simp]
theorem probesOf_postPrepared (ev : RegEvent) :
    probesOf (a.postPrepared ev).out = probesOf a.out := by
  rw [postPrepared_eq_postCopied, probesOf_postCopied]

@[simp]
theorem probesOf_scheduleRetry (rand : Nat) :
    probesOf (a.scheduleRetry g now rand).out = probesOf a.out := by
  unfold scheduleRetry
  by_cases hrun : a.retryTmr.isRunning = true
  · simp [hrun]
  · by_cases hbudget : a.retryBudgetLeft g = true
    · simp [hrun, hbudget, AcctOut.probes]
    · by_cases hstate : a.regState = .reconnecting <;> simp [hrun, hbudget, hstate, AcctOut.probes]

@[simp]
theorem probesOf_uaRegister (reporting : Bool) :
    probesOf (a.uaRegister reporting).out = probesOf a.out := by
  unfold uaRegister
  cases reporting with
  | false => simp [AcctOut.probes]
  | true => by_cases hrec : a.reconnecting = true <;> simp [beventRegistering, hrec, AcctOut.probes]

@[simp]
theorem probesOf_srvResolve (dnsErr : Bool) :
    probesOf (a.srvResolve g dnsErr).out = probesOf a.out := by
  unfold srvResolve
  split_ifs <;> simp [AcctOut.probes]

@[simp]
theorem probesOf_srvAdvance : probesOf a.srvAdvance.out = probesOf a.out := by
  unfold srvAdvance
  split_ifs <;> simp [AcctOut.probes]

/-- The probe's handler sends one request, if none is out. -/
theorem inFlight_keepaliveHandler (inCall sendErr : Bool) :
    ((a.keepaliveHandler g now inCall sendErr).kaInFlight = a.kaInFlight ∧
        probesOf (a.keepaliveHandler g now inCall sendErr).out = probesOf a.out) ∨
      (a.kaInFlight = false ∧ (a.keepaliveHandler g now inCall sendErr).kaInFlight = true ∧
        probesOf (a.keepaliveHandler g now inCall sendErr).out =
          probesOf a.out ++ [.uaOptionsSend a.serverName]) := by
  unfold keepaliveHandler
  split_ifs with hoff hout hcall hname herr
  · exact .inl ⟨rfl, rfl⟩
  · exact .inl ⟨rfl, rfl⟩
  · exact .inl (by simp)
  · exact .inl ⟨rfl, rfl⟩
  · exact .inl (by simpa using (Bool.eq_false_iff.mpr hout).symm)
  · exact .inr ⟨Bool.eq_false_iff.mpr hout, by simp, by simp [AcctOut.probes]⟩

theorem inFlight_regWatchHandler (registered : Bool) (rand : Nat) :
    (a.regWatchHandler g now registered rand).kaInFlight = a.kaInFlight ∧
      probesOf (a.regWatchHandler g now registered rand).out = probesOf a.out := by
  unfold regWatchHandler regFailState
  split_ifs
  · exact ⟨rfl, rfl⟩
  · exact ⟨rfl, rfl⟩
  · exact ⟨rfl, rfl⟩
  · simp [AcctOut.probes]
  · by_cases htime : g.sipTimerFMs ≠ 0 ∧
        g.sipTimerFMs ≤ u32 (a.regWatchElapsedMs + regWatchIntervalMs)
    · simp [htime, AcctOut.probes]
    · simp [htime]

/-- What a step does to the probe that is out: an answer ends it, and at most one is sent, when none
is out. -/
theorem inFlight_handle (act : AcctAct) (halive : a.Alive) (hen : a.enabled now act = true)
    (hout : a.out = []) :
    (a.handle g now act).kaInFlight.toNat =
      a.kaInFlight.toNat - act.answers + (probesOf (a.handle g now act).out).length := by
  obtain ⟨hua, hdes⟩ := halive
  cases act with
  | register dnsErr reporting => simp [handle, registerFn, hua, hdes, hout]
  | unregister reporting =>
      cases reporting <;>
        simp [handle, unregisterFn, hua, hout, uaUnregister, beventUnregistering, AcctOut.probes]
  | retryNow reporting => simp [handle, retryNowFn, hua, hdes, hout]
  | cancelRetry =>
      by_cases hst : a.regState = .reconnecting <;>
        simp [handle, cancelRetryFn, hst, hout, AcctOut.probes]
  | setRetryPolicy initialMs maxMs backoff maxAttempts =>
      simp [handle, setRetryPolicyFn, hout]
  | setPushToken token dupOk reporting =>
      obtain ⟨err, heq⟩ := setPushTokenFn_eq (a := a) token dupOk reporting ⟨hua, hdes⟩
      cases hre : a.reRegisters token dupOk <;> simp [handle, heq, hre, hout, AcctOut.probes]
  | registerOk => simp [handle, beventRegisterOk, hout, AcctOut.probes]
  | registerFail reason rand =>
      by_cases hauth : registerFailError reason = .auth <;>
        simp [handle, beventRegisterFail, regFailState, hauth, hout, AcctOut.probes]
  | srvDone targets =>
      obtain ⟨srv, h⟩ := srvDoneHandler_spec (a := a) targets rfl
      simp [handle, h, hout]
  | retryFires reporting => simp [handle, retryTimerHandler, hua, hdes, hout]
  | watchFires registered rand =>
      obtain ⟨hflight, hsent⟩ :=
        inFlight_regWatchHandler g now (a := { a with regWatchTmr := none }) registered rand
      rw [handle, hflight, hsent]
      simp [hout]
  | keepaliveFires inCall sendErr =>
      obtain ⟨hflight, hsent⟩ | ⟨hwas, hflight, hsent⟩ :=
        inFlight_keepaliveHandler g now (a := { a with kaTmr := none }) inCall sendErr
      · rw [handle, hflight, hsent]
        simp [hout]
      · rw [handle, hflight, hsent]
        simp [hout, show a.kaInFlight = false from hwas]
  | keepaliveNow inCall sendErr =>
      obtain ⟨hflight, hsent⟩ | ⟨hwas, hflight, hsent⟩ :=
        inFlight_keepaliveHandler g now (a := { a with kaTmr := none }) inCall sendErr
      · rw [handle, keepaliveNowFn, hflight, hsent]
        simp [hout]
      · rw [handle, keepaliveNowFn, hflight, hsent]
        simp [hout, show a.kaInFlight = false from hwas]
  | optionsAnswered answered registered rand =>
      have hflight : a.kaInFlight = true := hen
      unfold handle keepaliveRespHandler regFailState
      cases answered with
      | true =>
          cases hrec : (a.kaFailed && decide (a.regState = .reconnecting) && registered) <;>
            simp [hdes, hrec, hflight, hout, AcctOut.probes]
      | false =>
          cases hre : (g.keepaliveReregister && a.regWanted) <;>
            simp [hdes, hre, hflight, hout, AcctOut.probes]
  | handoverMark =>
      unfold handle regReconnecting
      split_ifs <;> simp [hout, AcctOut.probes]
  | handoverToRetry rand =>
      unfold handle handoverToRetry
      split_ifs <;> simp [hout]
  | handoverReregister reporting =>
      unfold handle reregister
      split_ifs <;> simp [hout, hua, hdes]
  | elapse ms => simp [handle, hout]

end Account

variable {g : Cfg} {p p' : OneAccount × Nat} {t : Trace AcctAct AcctOut}

/-- What the runs know: a probe is out exactly while `ka_in_flight` says so. -/
def ProbesCounted (p : OneAccount × Nat) : Prop :=
  p.1.acct.Alive ∧ p.2 = p.1.acct.kaInFlight.toNat

theorem probesCounted_step {act : AcctAct} {os : List AcctOut} (hcounted : ProbesCounted p)
    (hstep : (probedAccount g).step p act = some (p', os)) :
    ProbesCounted p' ∧ p'.1.acct.cfg = p.1.acct.cfg := by
  obtain ⟨halive, hcount⟩ := hcounted
  obtain ⟨hacct, hnext⟩ := Machine.withHistory_step.mp hstep
  obtain ⟨hen, hafter, -, rfl⟩ := oneAccount_step hacct
  have hkept := Account.handle_alive g p.1.now (a := p.1.acct.idle) act halive
  have hflight := Account.inFlight_handle g p.1.now (a := p.1.acct.idle) act halive hen rfl
  rw [← hafter] at hkept hflight
  refine ⟨⟨hkept.1, ?_⟩, hkept.2⟩
  rw [hnext, hcount, hflight]
  rfl

theorem probesCounted_of_run (hrun : (probedAccount g).Run Machine.Always p t) : ProbesCounted p := by
  refine hrun.stateInvariant ?_ fun p act p' os hcounted _ hstep =>
    (probesCounted_step hcounted hstep).1
  rintro p ⟨⟨id, cfg, pushToken, h⟩, hzero⟩
  rw [ProbesCounted, h, hzero]
  exact ⟨Account.alive_create id cfg pushToken, rfl⟩

/-- The probe of an account with the configuration `cfg` never dies: from the step in which it enters
REGISTERED, wanted by the app, and for as long as it is both, the next probe is armed or one is out;
and two never are. -/
def ProbeLives (g : Cfg) (cfg : AccountCfg) : Prop :=
  (∀ p act p' os t u q, (probedAccount g).Run Machine.Always p t → p.1.acct.cfg = cfg →
    (probedAccount g).step p act = some (p', os) → p.1.acct.regState ≠ .registered →
    (probedAccount g).Steps (fun r _ => r.1.acct.Up) p' u q → q.1.acct.Up → q.1.acct.Probed) ∧
  (∀ p t, (probedAccount g).Run Machine.Always p t → p.1.acct.cfg = cfg → p.2 ≤ 1)

theorem probed_step {act : AcctAct} {os : List AcctOut} (hinterval : g.keepaliveInterval ≠ 0)
    (hprobeable : p.1.acct.probeable = true) (halive : p.1.acct.Alive)
    (hbefore : p.1.acct.regState = .registered → p.1.acct.regWanted = true ∧ p.1.acct.Probed)
    (hstep : (probedAccount g).step p act = some (p', os)) (hup : p'.1.acct.Up) :
    p'.1.acct.Probed := by
  obtain ⟨-, hafter, -⟩ := oneAccount_step (Machine.withHistory_step.mp hstep).1
  rw [hafter] at hup ⊢
  exact Account.probed_handle g p.1.now (a := p.1.acct.idle) act hinterval hprobeable halive
    hbefore hup

theorem probedAccount_step_of_enabled (act : AcctAct)
    (hen : p.1.acct.enabled p.1.now act = true) :
    ∃ p' os, (probedAccount g).step p act = some (p', os) ∧
      p'.1.acct = p.1.acct.idle.handle g p.1.now act ∧ p'.1.now = p.1.now + act.elapsed := by
  exact ⟨(⟨p.1.now + act.elapsed, p.1.acct.idle.handle g p.1.now act⟩, _), _,
    Machine.withHistory_step.mpr ⟨oneAccount_step_of_enabled act hen, rfl⟩, rfl, rfl⟩

/-- The handler finds that the name does not fit, and leaves the timer as it found it: idle. -/
theorem Account.keepaliveHandler_unprobeable {a : Account} (now : Nat) (halive : a.Alive)
    (hwanted : a.regWanted = true) (hflight : a.kaInFlight = false) (hname : a.probeable = false) :
    a.keepaliveHandler g now false false = a := by
  simp [keepaliveHandler, halive.1, halive.2, hwanted, hflight, hname]

/-- A registration whose probe dies at its first tick. -/
theorem probe_dies {cfg : AccountCfg} (hinterval : g.keepaliveInterval ≠ 0)
    (hprobeable : (Account.create 0 cfg none).probeable = false) : ¬ ProbeLives g cfg := by
  intro hlives
  have hinit : (probedAccount g).init (⟨0, .create 0 cfg none⟩, 0) := ⟨⟨0, cfg, none, rfl⟩, rfl⟩
  obtain ⟨p₁, os₁, hstep₁, hacct₁, -⟩ := probedAccount_step_of_enabled (g := g)
    (p := (⟨0, .create 0 cfg none⟩, 0)) (.register false false) rfl
  obtain ⟨halive₁, hcfg₁, hwanted₁, hstate₁, -, -, -, htmr₁, hflight₁⟩ :=
    Account.registerFn_spec g 0 false false (Account.alive_create 0 cfg none) hacct₁.symm
  obtain ⟨p₂, os₂, hstep₂, hacct₂, -⟩ := probedAccount_step_of_enabled (g := g)
    (p := p₁) .registerOk rfl
  obtain ⟨halive₂, hcfg₂, hwanted₂, hstate₂, -, -, -, hflight₂, htmr₂⟩ :=
    Account.beventRegisterOk_spec g p₁.1.now (a := p₁.1.acct.idle) halive₁ hacct₂.symm
  have hup₂ : p₂.1.acct.Up := ⟨hwanted₂.trans hwanted₁, hstate₂⟩
  have harmed : p₂.1.acct.kaTmr.isRunning = true := by
    have hwanted : p₁.1.acct.idle.regWanted = true := hwanted₁
    simp [htmr₂, hwanted, hinterval]
  obtain ⟨due, hdue⟩ := Option.isSome_iff_exists.mp harmed
  obtain ⟨p₃, os₃, hstep₃, hacct₃, hnow₃⟩ := probedAccount_step_of_enabled (g := g)
    (p := p₂) (.elapse due) rfl
  have hup₃ : p₃.1.acct.Up := by rwa [hacct₃]
  obtain ⟨p₄, os₄, hstep₄, hacct₄, -⟩ := probedAccount_step_of_enabled (g := g)
    (p := p₃) (.keepaliveFires false false) (by
      rw [Account.enabled, hacct₃, hnow₃]
      change Timer.isDue p₂.1.acct.kaTmr _ = true
      rw [hdue]
      exact decide_eq_true (Nat.le_add_left due p₂.1.now))
  have hquiet : p₃.1.acct.kaInFlight = false := by
    rw [hacct₃]
    exact hflight₂.trans hflight₁
  have hcfg₃ : p₃.1.acct.cfg = cfg := by
    rw [hacct₃]
    exact hcfg₂.trans hcfg₁
  have hsame : p₄.1.acct = { p₃.1.acct.idle with kaTmr := none } := by
    rw [hacct₄]
    refine Account.keepaliveHandler_unprobeable p₃.1.now ?_ hup₃.1 hquiet ?_
    · rw [hacct₃]
      exact halive₂
    · rw [← hprobeable]
      simp only [Account.probeable, Account.serverName_eq]
      rw [show (Account.idle p₃.1.acct).cfg = cfg from hcfg₃]
      rfl
  have hsteps : (probedAccount g).Steps (fun r _ => r.1.acct.Up) p₂ _ p₄ :=
    .step (.step .refl hup₂ hstep₃) hup₃ hstep₄
  have hprobed : p₄.1.acct.Probed := by
    refine hlives.1 p₁ .registerOk p₂ os₂ _ _ p₄ ((Machine.Run.start hinit).step trivial hstep₁)
      hcfg₁ hstep₂ ?_ hsteps ?_
    · rw [hstate₁]
      simp [Account.create]
    · rw [hsame]
      exact hup₃
  rw [hsame] at hprobed
  rcases hprobed with h | h
  · cases h
  · rw [show ({ p₃.1.acct.idle with kaTmr := none } : Account).kaInFlight = false from hquiet] at h
    cases h

/-- **The probe's life.** It never dies exactly if the server's name is at most 315 characters long. -/
theorem probeLives_iff (hinterval : g.keepaliveInterval ≠ 0) {cfg : AccountCfg}
    (hname : cfg.serverName ≠ []) :
    ProbeLives g cfg ↔ cfg.serverName.length ≤ 315 := by
  constructor
  · intro hlives
    by_contra hlong
    refine probe_dies hinterval ?_ hlives
    exact Bool.eq_false_iff.mpr fun h => hlong ((Account.probeable_iff (a := .create 0 cfg none) hname).mp h)
  · intro hlen
    have hprobeable : ∀ a : Account, a.cfg = cfg → a.probeable = true := by
      rintro a rfl
      exact (Account.probeable_iff hname).mpr hlen
    refine ⟨?_, ?_⟩
    · intro p act p' os t u q hrun hcfg hstep hentered hsteps hup
      have hcounted := probesCounted_of_run hrun
      suffices h : ProbesCounted q ∧ q.1.acct.cfg = cfg ∧ (q.1.acct.Up → q.1.acct.Probed) from
        h.2.2 hup
      induction hsteps with
      | refl =>
          obtain ⟨hcounted', hcfg'⟩ := probesCounted_step hcounted hstep
          exact ⟨hcounted', hcfg'.trans hcfg, probed_step hinterval (hprobeable _ hcfg) hcounted.1
            (fun h => absurd h hentered) hstep⟩
      | step _ hbefore hnext ih =>
          obtain ⟨hcounted, hcfg, hprobed⟩ := ih hbefore
          obtain ⟨hcounted', hcfg'⟩ := probesCounted_step hcounted hnext
          exact ⟨hcounted', hcfg'.trans hcfg, probed_step hinterval (hprobeable _ hcfg) hcounted.1
            (fun _ => ⟨hbefore.1, hprobed hbefore⟩) hnext⟩
    · intro p t hrun _
      rw [(probesCounted_of_run hrun).2]
      exact Bool.toNat_le _

/-- The probe of an ordinary account. -/
theorem probeLives_plain : ProbeLives configInit (.plain "sip.example.com".toList) :=
  (probeLives_iff (by decide) (by decide)).mpr (by decide)

/-- A server name of 316 characters: the account stays REGISTERED and nothing probes it any more. -/
theorem probe_dies_long :
    ¬ ProbeLives configInit
      { AccountCfg.plain "sip.example.com".toList with serverHost := some (List.replicate 316 'a') } := by
  refine probe_dies (by decide) (Bool.eq_false_iff.mpr fun hprobeable => ?_)
  have hname : (Account.create 0 { AccountCfg.plain "sip.example.com".toList with
      serverHost := some (List.replicate 316 'a') } none).cfg.serverName = List.replicate 316 'a' := rfl
  have hlen := (Account.probeable_iff (by rw [hname]; exact List.cons_ne_nil _ _)).mp hprobeable
  rw [hname, List.length_replicate] at hlen
  omega

end VoxSdk
