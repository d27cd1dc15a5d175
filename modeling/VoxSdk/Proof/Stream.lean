import VoxSdk.Proof.HandlerLemmas

/-!
# The REG_STATE stream

What the app reads is the stream of posted events. A RECONNECTING event that only repeats the one
before it is left out, and the account remembers a signature to know. The signature means something
only while no other event has been posted since; two handlers post without going through
`vox_account_reg_ev_prepare` and leave it standing. `keepsSignature` refuses the steps in which that
happens, and the refusal that arms a retry for an account nobody wants.
-/

namespace VoxSdk

open Reactive

/-! ### Reading the stream -/

def AcctOut.event : AcctOut → Option RegEvent
  | .post ev => some ev
  | _ => none

/-- The last REG_STATE event posted. -/
def lastPost (os : List AcctOut) : Option RegEvent := (os.filterMap AcctOut.event).getLast?

theorem lastPost_append_post (os : List AcctOut) (ev : RegEvent) :
    lastPost (os ++ [.post ev]) = some ev := by
  simp [lastPost, AcctOut.event]

/-- Neither an event nor one left out. -/
def AcctOut.quiet : AcctOut → Bool
  | .post _ | .suppressed _ => false
  | _ => true

theorem lastPost_append_quiet (os : List AcctOut) {o : AcctOut} (h : o.quiet = true) :
    lastPost (os ++ [o]) = lastPost os := by
  cases o <;> simp_all [lastPost, AcctOut.event, AcctOut.quiet]

theorem lastPost_append_suppressed (os : List AcctOut) (ev : RegEvent) :
    lastPost (os ++ [.suppressed ev]) = lastPost os := by
  simp [lastPost, AcctOut.event]

/-- Two events the app cannot tell apart: the same RECONNECTING, with the same error, attempt and
delay. -/
def RegEvent.SameReconnecting (ev ev' : RegEvent) : Prop :=
  ev.state = .reconnecting ∧ ev'.state = .reconnecting ∧ ev.error = ev'.error ∧
    ev.retryAttempt = ev'.retryAttempt ∧ ev.retryDelayMs = ev'.retryDelayMs

/-- Every event left out is the one posted last before it. -/
def SuppressedRepeat (os : List AcctOut) : Prop :=
  ∀ before ev after, os = before ++ .suppressed ev :: after →
    ∃ ev', lastPost before = some ev' ∧ ev'.SameReconnecting ev

theorem suppressedRepeat_append {os : List AcctOut} {o : AcctOut} (h : SuppressedRepeat os)
    (ho : ∀ ev, o = .suppressed ev → ∃ ev', lastPost os = some ev' ∧ ev'.SameReconnecting ev) :
    SuppressedRepeat (os ++ [o]) := by
  intro before ev after heq
  rcases List.eq_nil_or_concat after with rfl | ⟨after', o', rfl⟩
  · obtain ⟨rfl, ho'⟩ := List.append_inj' heq rfl
    exact ho ev (List.singleton_inj.mp ho')
  · have hsplit : os ++ [o] = (before ++ .suppressed ev :: after') ++ [o'] := by simpa using heq
    obtain ⟨hos, -⟩ := List.append_inj' hsplit rfl
    exact h before ev after' hos

namespace Account

variable (g : Cfg) (now : Nat) {a b : Account} {h : List AcctOut}

/-- After the outputs `h` of earlier steps: the signature describes the last event posted, and
nothing but repetitions was left out. -/
structure Faithful (h : List AcctOut) (a : Account) : Prop where
  signature : a.lastRc.valid = true → ∃ ev, lastPost (h ++ a.out) = some ev ∧
    ev.state = .reconnecting ∧ ev.error = a.lastRc.error ∧
    ev.retryAttempt = a.lastRc.attempt ∧ ev.retryDelayMs = a.lastRc.delayMs
  suppressed : SuppressedRepeat (h ++ a.out)

/-- The last event posted says the state the account is in. -/
def Told (h : List AcctOut) (a : Account) : Prop :=
  (lastPost (h ++ a.out)).map RegEvent.state = some a.regState

/-- `reg_state` was written in the step under way. -/
def Wrote (a : Account) : Prop := ∃ st, AcctOut.regState st ∈ a.out

/-- The steps after which the signature still describes the last event posted. -/
def keepsSignature (g : Cfg) (a : Account) : AcctAct → Bool
  | .register _ reporting => !(reporting && a.lastRc.valid)
  | .retryNow reporting | .retryFires reporting =>
      !(reporting && !a.reconnecting && a.lastRc.valid)
  | .setPushToken token dupOk reporting =>
      !(a.reRegisters token dupOk && reporting && !a.reconnecting && a.lastRc.valid)
  | .cancelRetry => !(decide (a.regState = .reconnecting) && a.lastRc.valid)
  | .registerFail reason _ =>
      a.regWanted || decide (registerFailError reason = .auth) || a.retryTmr.isRunning ||
        !a.retryBudgetLeft g
  | _ => true

/-! ### The reporting functions -/

theorem Faithful.emit (hf : Faithful h a) {o : AcctOut} (ho : o.quiet = true) :
    Faithful h (a.emit o) := by
  obtain ⟨hsig, hall⟩ := hf
  have hout : h ++ (a.emit o).out = (h ++ a.out) ++ [o] := by simp
  constructor
  · rw [hout, lastPost_append_quiet _ ho]
    simpa using hsig
  · rw [hout]
    refine suppressedRepeat_append hall ?_
    rintro ev rfl
    cases ho

/-- Only the signature and what was done matter, and quiet outputs not even that. -/
theorem Faithful.after (hf : Faithful h a) (os : List AcctOut) (hquiet : os.all AcctOut.quiet = true)
    (hrc : b.lastRc = a.lastRc) (hout : b.out = a.out ++ os) : Faithful h b := by
  induction os using List.reverseRecOn generalizing b with
  | nil =>
      obtain ⟨hsig, hsup⟩ := hf
      rw [List.append_nil] at hout
      exact ⟨by rwa [hrc, hout], by rwa [hout]⟩
  | append_singleton os o ih =>
      simp only [List.all_append, List.all_cons, List.all_nil, Bool.and_true,
        Bool.and_eq_true] at hquiet
      have hlast := (ih (b := { b with out := a.out ++ os }) hquiet.1 hrc rfl).emit hquiet.2
      have hb : ({ b with out := a.out ++ os } : Account).emit o = b := by
        simp only [Account.emit, List.append_assoc, ← hout]
      rwa [hb] at hlast

/-- An event posted past `vox_account_reg_ev_prepare` does no harm while there is no signature. -/
theorem Faithful.emit_post (hf : Faithful h a) (hvalid : a.lastRc.valid = false) (ev : RegEvent) :
    Faithful h (a.emit (.post ev)) := by
  refine ⟨by simp [hvalid], ?_⟩
  have hout : h ++ (a.emit (.post ev)).out = (h ++ a.out) ++ [.post ev] := by simp
  rw [hout]
  exact suppressedRepeat_append hf.suppressed (by simp)

/-- Posting through `vox_account_reg_ev_prepare` keeps the signature, and whether the event is
posted or left out, the app has been told its state. -/
theorem Faithful.postCopied (hf : Faithful h a) (ev : RegEvent) (reason : ErrStr) :
    Faithful h (a.postCopied ev reason) ∧
      (lastPost (h ++ (a.postCopied ev reason).out)).map RegEvent.state = some ev.state := by
  obtain ⟨hsig, hall⟩ := hf
  unfold Account.postCopied regEvPrepare
  by_cases hst : ev.state ≠ .reconnecting
  · -- the reconnect is over: the signature goes, the event is posted
    simp only [hst, ne_eq, not_false_eq_true, if_true]
    have hout : ∀ ev', h ++ (a.reconnectReset.emit (.post ev')).out = (h ++ a.out) ++ [.post ev'] := by
      simp [reconnectReset]
    refine ⟨⟨by simp [reconnectReset], ?_⟩, ?_⟩
    · rw [hout]
      exact suppressedRepeat_append hall (by simp)
    · rw [hout, lastPost_append_post]
      rfl
  · rw [not_ne_iff] at hst
    simp only [hst, ne_eq, not_true_eq_false, if_false]
    by_cases hsame : a.sameReport ev.error = true
    · -- the signature says this was the last event posted
      simp only [hsame, if_true]
      simp only [sameReport, Bool.and_eq_true, decide_eq_true_eq] at hsame
      obtain ⟨⟨⟨hvalid, herror⟩, hattempt⟩, hdelay⟩ := hsame
      obtain ⟨ev', hlast, hstate, herr, hatt, hdel⟩ := hsig hvalid
      have hout : h ++ (a.emit (.suppressed (a.stamp ev))).out =
          (h ++ a.out) ++ [.suppressed (a.stamp ev)] := by simp
      refine ⟨⟨fun _ => ?_, ?_⟩, ?_⟩
      · rw [hout, lastPost_append_suppressed]
        exact ⟨ev', hlast, hstate, by simpa using herr, by simpa using hatt, by simpa using hdel⟩
      · rw [hout]
        refine suppressedRepeat_append hall ?_
        rintro ev'' ⟨⟩
        exact ⟨ev', hlast, hstate, hst, herr.trans herror, hatt.trans hattempt, hdel.trans hdelay⟩
      · rw [hout, lastPost_append_suppressed, hlast]
        simp [hstate]
    · -- news: posted, and remembered
      simp only [hsame, if_false, Bool.false_eq_true]
      have hout : ∀ ev', h ++ ((a.remember ev.error).emit (.post ev')).out =
          (h ++ a.out) ++ [.post ev'] := by simp [remember]
      refine ⟨⟨fun _ => ?_, ?_⟩, ?_⟩
      · rw [hout, lastPost_append_post]
        exact ⟨_, rfl, hst, rfl, rfl, rfl⟩
      · rw [hout]
        exact suppressedRepeat_append hall (by simp)
      · rw [hout, lastPost_append_post]
        simp [stamp, hst]

/-! ### The handlers -/

/-- Faithful, and if the step under way wrote the state it has told the app. -/
def Reported (h : List AcctOut) (a : Account) : Prop :=
  Faithful h a ∧ (a.Wrote → Told h a)

theorem Reported.congr (hr : Reported h a) (hrc : b.lastRc = a.lastRc) (hout : b.out = a.out)
    (hstate : b.regState = a.regState) : Reported h b := by
  refine ⟨hr.1.after [] rfl hrc (by simp [hout]), fun hwrote => ?_⟩
  rw [Told, hout, hstate]
  exact hr.2 (by rwa [Wrote, hout] at hwrote)

theorem Faithful.reported (hf : Faithful h a) (hout : a.out = []) : Reported h a :=
  ⟨hf, fun ⟨st, hst⟩ => by simp [hout] at hst⟩

theorem Reported.emit (hr : Reported h a) {o : AcctOut} (ho : o.quiet = true)
    (hwrite : ∀ st, o ≠ .regState st) : Reported h (a.emit o) := by
  refine ⟨hr.1.emit ho, fun ⟨st, hst⟩ => ?_⟩
  have hmem : AcctOut.regState st ∈ a.out := by
    rcases List.mem_append.mp hst with hmem | hmem
    · exact hmem
    · exact absurd (List.mem_singleton.mp hmem).symm (hwrite st)
  have hout : h ++ (a.emit o).out = (h ++ a.out) ++ [o] := by simp
  rw [Told, hout, lastPost_append_quiet _ ho]
  exact hr.2 ⟨st, hmem⟩

/-- Posting the state the account is in, through `vox_account_reg_ev_prepare`. -/
theorem Faithful.tell (hf : Faithful h a) (ev : RegEvent) (reason : ErrStr)
    (hstate : ev.state = a.regState) : Reported h (a.postCopied ev reason) := by
  obtain ⟨hfaithful, htold⟩ := hf.postCopied ev reason
  exact ⟨hfaithful, fun _ => by simpa [Told, hstate] using htold⟩

theorem Faithful.tellPrepared (hf : Faithful h a) (ev : RegEvent)
    (hstate : ev.state = a.regState) : Reported h (a.postPrepared ev) := by
  rw [postPrepared_eq_postCopied]
  exact hf.tell ev _ hstate

/-- Posting it past `vox_account_reg_ev_prepare`. -/
theorem Faithful.tellDirect (hf : Faithful h a) (hvalid : a.lastRc.valid = false) (ev : RegEvent)
    (hstate : ev.state = a.regState) : Reported h (a.emit (.post ev)) := by
  refine ⟨hf.emit_post hvalid ev, fun _ => ?_⟩
  have hout : h ++ (a.emit (.post ev)).out = (h ++ a.out) ++ [.post ev] := by simp
  rw [Told, hout, lastPost_append_post]
  simp [hstate]

theorem Reported.keepaliveArm (hr : Reported h a) : Reported h (a.keepaliveArm g now) :=
  hr.congr (by simp) (by simp) (by simp)

/-- A retry that is scheduled, or given up while the app waits, is reported; else nothing is. -/
theorem Faithful.scheduleRetry_cases (hf : Faithful h a) (rand : Nat) :
    Reported h (a.scheduleRetry g now rand) ∨
      (a.scheduleRetry g now rand).lastRc = a.lastRc ∧
        (a.scheduleRetry g now rand).out = a.out ∧
        (a.scheduleRetry g now rand).regState = a.regState := by
  unfold Account.scheduleRetry
  by_cases hrun : a.retryTmr.isRunning = true
  · exact .inr (by simp [hrun])
  · cases hbudget : a.retryBudgetLeft g with
    | true =>
        left
        simp only [hrun, Bool.not_true, if_false, Bool.false_eq_true]
        refine Reported.congr (Faithful.tellPrepared ?_ _ rfl) rfl rfl rfl
        exact hf.after [.regState .reconnecting] rfl rfl rfl
    | false =>
        simp only [hrun, Bool.not_false, if_false, if_true, Bool.false_eq_true]
        split
        · exact .inr ⟨rfl, rfl, rfl⟩
        · left
          refine Faithful.tellPrepared ?_ _ rfl
          exact hf.after [.regState .failed] rfl rfl rfl

theorem Faithful.scheduleRetry (hf : Faithful h a) (rand : Nat) :
    Faithful h (a.scheduleRetry g now rand) := by
  rcases hf.scheduleRetry_cases g now rand with hr | ⟨hrc, hout, -⟩
  · exact hr.1
  · exact hf.after [] rfl hrc (by simp [hout])

theorem Reported.scheduleRetry (hr : Reported h a) (rand : Nat) :
    Reported h (a.scheduleRetry g now rand) := by
  rcases hr.1.scheduleRetry_cases g now rand with hr' | ⟨hrc, hout, hstate⟩
  · exact hr'
  · exact hr.congr hrc hout hstate

theorem Reported.beventRegistering (hr : Reported h a)
    (hkeeps : a.reconnecting = false → a.lastRc.valid = false) :
    Reported h a.beventRegistering := by
  unfold Account.beventRegistering
  cases hrec : a.reconnecting with
  | true => exact (hr.1.after (b := a.setRegState .reconnecting) [_] rfl rfl rfl).tell _ _ rfl
  | false =>
      exact (hr.1.after (b := a.setRegState .registering) [_] rfl rfl rfl).tellDirect
        (hkeeps hrec) _ rfl

theorem Reported.uaRegister (hr : Reported h a) (reporting : Bool)
    (hkeeps : reporting = true → a.reconnecting = false → a.lastRc.valid = false) :
    Reported h (a.uaRegister reporting) := by
  have hcall := hr.emit (o := .uaRegister a.regWanted) rfl (by simp)
  unfold Account.uaRegister
  cases reporting with
  | false => exact hcall
  | true => exact hcall.beventRegistering (by simpa using hkeeps rfl)

theorem Reported.uaUnregister (hr : Reported h a) (reporting : Bool) :
    Reported h (a.uaUnregister reporting) := by
  have hcall := hr.emit (o := .uaUnregister) rfl (by simp)
  unfold Account.uaUnregister
  cases reporting with
  | false => exact hcall
  | true =>
      change Reported h (a.emit .uaUnregister).beventUnregistering
      unfold Account.beventUnregistering
      refine Faithful.tellPrepared ?_ _ rfl
      exact hcall.1.after [.regState .unregistering] rfl rfl rfl

theorem Reported.watchRegistration (hr : Reported h a) : Reported h (a.watchRegistration now) := by
  unfold Account.watchRegistration
  split
  · exact hr
  · exact hr.congr rfl rfl rfl

theorem Reported.srvResolve (hr : Reported h a) (dnsErr : Bool) :
    Reported h (a.srvResolve g dnsErr) := by
  unfold Account.srvResolve
  split
  · exact hr
  · split
    · exact hr
    · have hcall := (hr.congr (b := { a with srv := { a.srv with tried := true, pending := true } })
        rfl rfl rfl).emit (o := .dnsResolve a.serverName) rfl (by simp)
      cases dnsErr with
      | true => exact hcall.congr rfl rfl rfl
      | false => exact hcall

theorem Reported.srvAdvance (hr : Reported h a) : Reported h a.srvAdvance := by
  unfold Account.srvAdvance
  split
  · exact hr
  · exact (hr.congr (b := { a with srv := { a.srv with idx := (a.srv.idx + 1) % a.srv.uri.length } })
      rfl rfl rfl).emit rfl (by simp)

theorem Reported.registerFn (hr : Reported h a) (dnsErr reporting : Bool)
    (hkeeps : reporting = true → a.lastRc.valid = false) :
    Reported h (a.registerFn g now dnsErr reporting) := by
  unfold Account.registerFn
  split
  · have hwanted := hr.congr (b := { a with regWanted := true, reconnecting := false }) rfl rfl rfl
    exact ((hwanted.srvResolve g dnsErr).uaRegister reporting
      fun hrep _ => by simpa using hkeeps hrep).watchRegistration now
  · exact hr

theorem Reported.beventRegisterOk (hr : Reported h a) : Reported h (a.beventRegisterOk g now) := by
  unfold Account.beventRegisterOk
  refine Faithful.tellPrepared ?_ _ (by simp [RegEvent.of])
  exact hr.1.after [.regState .registered] rfl (by simp) (by simp)

/-- A refusal is told last, whatever the retry said before it. -/
theorem Reported.beventRegisterFail (hr : Reported h a) (reason : Option CStr) (rand : Nat)
    (hkeeps : a.keepsSignature g (.registerFail reason rand) = true) (halive : a.Alive) :
    Reported h (a.beventRegisterFail g now reason rand) := by
  have hstate := (beventRegisterFail_spec g now reason rand halive rfl).2.2.2.1
  have hsays : (if a.willRetry g (registerFailError reason) then RegState.reconnecting else .failed) =
      (if registerFailError reason = .auth then .failed
      else if a.retryTmr.isRunning then (if a.regWanted then .reconnecting else .failed)
      else if a.retryBudgetLeft g then .reconnecting else .failed) := by
    by_cases hauth : registerFailError reason = .auth
    · simp [willRetry, hauth]
    · cases hrun : a.retryTmr.isRunning <;> cases hbudget : a.retryBudgetLeft g <;>
        cases hwanted : a.regWanted <;>
        simp_all [willRetry, keepsSignature, halive.2]
  rw [← hsays] at hstate
  unfold Account.beventRegisterFail regFailState at hstate ⊢
  rw [(postCopied_frame _ _ _).2.2.2.1] at hstate
  refine Faithful.tell ?_ _ _ hstate.symm
  split
  · refine Faithful.scheduleRetry g now ?_ rand
    exact hr.1.after [.regState _] rfl rfl rfl
  · exact hr.1.after [.regState _] rfl rfl rfl

theorem Reported.regWatchHandler (hr : Reported h a) (registered : Bool) (rand : Nat) :
    Reported h (a.regWatchHandler g now registered rand) := by
  unfold Account.regWatchHandler
  split_ifs
  · exact hr
  · exact hr
  · exact hr
  · refine Faithful.tellPrepared ?_ _ (by simp [RegEvent.of])
    exact hr.1.after [.registrarWarning, .regState .registered] rfl (by simp) (by simp)
  · unfold regFailState
    dsimp only
    split
    · refine Reported.scheduleRetry g now (Faithful.tellPrepared ?_ _ rfl) rand
      exact hr.1.after [.regState _] rfl rfl rfl
    · exact hr.congr rfl rfl rfl

theorem Reported.keepaliveHandler (hr : Reported h a) (inCall sendErr : Bool) :
    Reported h (a.keepaliveHandler g now inCall sendErr) := by
  unfold Account.keepaliveHandler
  split_ifs
  · exact hr
  · exact hr
  · exact hr.keepaliveArm g now
  · exact hr
  · exact Reported.keepaliveArm g now (hr.congr rfl rfl rfl)
  · exact (hr.congr (b := { a with kaInFlight := true }) rfl rfl rfl).emit rfl (by simp)

theorem Reported.keepaliveRespHandler (hr : Reported h a) (answered registered : Bool)
    (rand : Nat) : Reported h (a.keepaliveRespHandler g now answered registered rand) := by
  unfold Account.keepaliveRespHandler regFailState
  by_cases hdes : a.destroyed = true
  · simpa [hdes] using hr
  · simp only [hdes]
    cases answered with
    | true =>
        simp only [if_true]
        refine Reported.keepaliveArm g now ?_
        split
        · refine Faithful.tellPrepared ?_ _ rfl
          exact hr.1.after [.regState .registered] rfl rfl rfl
        · exact hr.congr rfl rfl rfl
    | false =>
        cases hre : (g.keepaliveReregister && a.regWanted) with
        | true =>
            simp only [emit_frame, hre, if_true]
            refine Reported.scheduleRetry g now (Faithful.tellPrepared ?_ _ rfl) rand
            exact hr.1.after [.registrarWarning, .regState _] rfl rfl
              (List.append_assoc _ [_] [_])
        | false =>
            simp only [emit_frame, hre]
            refine Reported.keepaliveArm g now (Faithful.tellPrepared ?_ _ rfl)
            exact hr.1.after [.registrarWarning, .regState _] rfl rfl
              (List.append_assoc _ [_] [_])

theorem Reported.cancelRetryFn (hr : Reported h a)
    (hkeeps : a.regState = .reconnecting → a.lastRc.valid = false) : Reported h a.cancelRetryFn := by
  unfold Account.cancelRetryFn
  dsimp only
  split
  · rename_i hstate
    refine Faithful.tellDirect ?_ ?_ _ rfl
    · exact hr.1.after [.regState .failed] rfl rfl rfl
    · exact hkeeps hstate
  · exact hr.congr rfl rfl rfl

theorem Reported.regReconnecting (hr : Reported h a) : Reported h a.regReconnecting := by
  unfold Account.regReconnecting
  split_ifs
  · exact hr
  · exact hr
  · refine Faithful.tellPrepared ?_ _ (by simp [RegEvent.of])
    exact hr.1.after [.regState .reconnecting] rfl rfl rfl

/-- Each handler keeps the stream faithful, in a step that `keepsSignature` accepts. -/
theorem reported_handle (act : AcctAct) (halive : a.Alive) (hf : Faithful h a) (hout : a.out = [])
    (hkeeps : a.keepsSignature g act = true) : Reported h (a.handle g now act) := by
  have hr : Reported h a := hf.reported hout
  cases act with
  | register dnsErr reporting =>
      refine hr.registerFn g now dnsErr reporting fun hrep => ?_
      simpa [keepsSignature, hrep] using hkeeps
  | unregister reporting =>
      change Reported h (a.unregisterFn reporting)
      unfold unregisterFn
      split
      · refine Reported.uaUnregister (Faithful.reported ?_ ?_) reporting
        · exact hf.after [] rfl rfl (by simp)
        · exact hout
      · exact hr
  | retryNow reporting =>
      change Reported h (a.retryNowFn now reporting)
      unfold retryNowFn
      dsimp only
      split
      · refine Reported.watchRegistration now (Reported.uaRegister ?_ reporting ?_)
        · exact hr.congr rfl rfl rfl
        · intro hrep hrec
          simpa [keepsSignature, hrep, show a.reconnecting = false from hrec] using hkeeps
      · exact hr.congr rfl rfl rfl
  | cancelRetry =>
      refine hr.cancelRetryFn fun hstate => ?_
      simpa [keepsSignature, hstate] using hkeeps
  | setRetryPolicy initialMs maxMs backoff maxAttempts => exact hr.congr rfl rfl rfl
  | setPushToken token dupOk reporting =>
      obtain ⟨err, heq⟩ := setPushTokenFn_eq token dupOk reporting halive
      simp only [handle, heq]
      refine Reported.emit ?_ rfl (by simp)
      have hstored : Reported h (a.storePushToken token dupOk) := hr.congr rfl rfl rfl
      split
      · rename_i hre
        refine hstored.uaRegister reporting fun hrep hrec => ?_
        simpa [keepsSignature, hre, hrep, show a.reconnecting = false from hrec] using hkeeps
      · exact hstored
  | keepaliveNow inCall sendErr =>
      have htmr : Reported h { a with kaTmr := none } := hr.congr rfl rfl rfl
      exact htmr.keepaliveHandler g now inCall sendErr
  | registerOk => exact hr.beventRegisterOk g now
  | registerFail reason rand => exact hr.beventRegisterFail g now reason rand hkeeps halive
  | srvDone targets =>
      obtain ⟨srv, hb⟩ := srvDoneHandler_spec (a := a) targets rfl
      exact hr.congr (by simp [handle, hb]) (by simp [handle, hb]) (by simp [handle, hb])
  | retryFires reporting =>
      have htmr : Reported h { a with retryTmr := none } := hr.congr rfl rfl rfl
      change Reported h (({ a with retryTmr := none }).retryTimerHandler now reporting)
      unfold retryTimerHandler
      split
      · exact htmr
      · refine Reported.watchRegistration now (htmr.srvAdvance.uaRegister reporting ?_)
        intro hrep hrec
        have hrec' : a.reconnecting = false := by simpa using hrec
        simpa [keepsSignature, hrep, hrec'] using hkeeps
  | watchFires registered rand =>
      have htmr : Reported h { a with regWatchTmr := none } := hr.congr rfl rfl rfl
      exact htmr.regWatchHandler g now registered rand
  | keepaliveFires inCall sendErr =>
      have htmr : Reported h { a with kaTmr := none } := hr.congr rfl rfl rfl
      exact htmr.keepaliveHandler g now inCall sendErr
  | optionsAnswered answered registered rand =>
      exact hr.keepaliveRespHandler g now answered registered rand
  | handoverMark => exact hr.regReconnecting
  | handoverToRetry rand =>
      change Reported h (a.handoverToRetry g now rand)
      unfold handoverToRetry
      split
      · exact hr.scheduleRetry g now rand
      · exact hr
  | handoverReregister reporting =>
      change Reported h (a.reregister now reporting)
      unfold reregister
      split
      · exact hr
      · have hmark : Reported h { a with retryTmr := none, retryAttempt := 0, reconnecting := true } :=
          hr.congr rfl rfl rfl
        exact (hmark.uaRegister reporting (by simp)).watchRegistration now
  | elapse ms => exact hr

end Account

/-- What the app can rely on in one step: if the step wrote the state, the last event posted says the
state the account is in; and what the step left out repeats the event posted last before it. -/
def StepReported (before : Trace AcctAct AcctOut) (os : List AcctOut) (s : OneAccount) : Prop :=
  ((∃ st, AcctOut.regState st ∈ os) →
      (lastPost (before.outs ++ os)).map RegEvent.state = some s.acct.regState) ∧
    ∀ done ev rest, os = done ++ .suppressed ev :: rest →
      ∃ ev', lastPost (before.outs ++ done) = some ev' ∧ ev'.SameReconnecting ev

variable {g : Cfg} {s : OneAccount} {t : Trace AcctAct AcctOut}

theorem faithful_of_run (hrun : (oneAccount g).Run (fun s act => s.acct.keepsSignature g act) s t) :
    s.acct.Alive ∧ Account.Faithful t.outs s.acct.idle := by
  refine hrun.invariant
    (I := fun s t => s.acct.Alive ∧ Account.Faithful (Trace.outs t) s.acct.idle) ?_ ?_
  · rintro s ⟨id, cfg, pushToken, h⟩
    rw [h]
    refine ⟨Account.alive_create id cfg pushToken, ⟨by simp [Account.create, Account.idle], ?_⟩⟩
    intro before ev after heq
    simp [Account.idle] at heq
  · rintro s t act s' os ⟨halive, hfaithful⟩ hkeeps hstep
    obtain ⟨-, hacct, -, rfl⟩ := oneAccount_step hstep
    have hr := Account.reported_handle g s.now (a := s.acct.idle) act halive hfaithful rfl hkeeps
    rw [← hacct] at hr
    refine ⟨?_, ?_⟩
    · rw [hacct]
      exact (Account.handle_alive g s.now (a := s.acct.idle) act halive).1
    · obtain ⟨hsig, hsup⟩ := hr.1
      exact ⟨by simpa [Account.idle] using hsig, by simpa [Account.idle] using hsup⟩

/-- **The stream is faithful.** In a run whose steps `keepsSignature` accepts, every step that writes
`reg_state` leaves the app told of the state it wrote, and every RECONNECTING left out is the event
posted last. -/
theorem regState_stream_faithful {act : AcctAct} {os : List AcctOut}
    (hrun : (oneAccount g).Run (fun s act => s.acct.keepsSignature g act) s (t ++ [(act, os)])) :
    StepReported t os s := by
  obtain ⟨r, hprev, hkeeps, hstep⟩ := hrun.last
  obtain ⟨halive, hfaithful⟩ := faithful_of_run hprev
  obtain ⟨-, hacct, -, rfl⟩ := oneAccount_step hstep
  have hr := Account.reported_handle g r.now (a := r.acct.idle) act halive hfaithful rfl hkeeps
  rw [← hacct] at hr
  refine ⟨hr.2, fun done ev rest heq => ?_⟩
  exact hr.1.suppressed (t.outs ++ done) ev rest (by rw [heq, List.append_assoc])

/-- A recovery in which the second refusal of one REGISTER is left out, and rightly so. -/
theorem regState_stream_faithful_repeat :
    ∃ (s : OneAccount) (t : Trace AcctAct AcctOut) (act : AcctAct) (os : List AcctOut),
      (oneAccount configInit).Run (fun s act => s.acct.keepsSignature configInit act) s
        (t ++ [(act, os)]) ∧ StepReported t os s ∧ (os.any fun o => !o.quiet && o.event.isNone) = true := by
  obtain ⟨s, u, hrun, hlast⟩ := Machine.exists_run_of_exec
    (fun s act => s.acct.keepsSignature configInit act) (justCreated_init configInit)
    [.register false true, .registerFail (some "503 Service Unavailable".toList) 0,
      .registerFail (some "503 Service Unavailable".toList) 0]
    (fun _ u => u.getLast?.any fun p => p.2.any fun o => !o.quiet && o.event.isNone)
    (by decide +kernel)
  cases hu : u.getLast? with
  | none => simp [hu] at hlast
  | some p =>
      rw [← List.dropLast_append_getLast? p hu] at hrun
      exact ⟨s, u.dropLast, p.1, p.2, hrun, regState_stream_faithful hrun,
        by simpa [hu] using hlast⟩

/-- Without the condition the app is left with REGISTERING: the signature of the first refusal is
still there when the same refusal comes back. -/
theorem regState_stream_stale :
    ¬ ∀ (g : Cfg) (s : OneAccount) (t : Trace AcctAct AcctOut) (act : AcctAct) (os : List AcctOut),
      (oneAccount g).Run Machine.Always s (t ++ [(act, os)]) → StepReported t os s := by
  intro h
  obtain ⟨s, u, hrun, hlast⟩ := Machine.exists_run_of_exec (fun _ _ => true)
    (justCreated_init configInit)
    [.register false true, .registerFail (some "503 Service Unavailable".toList) 0,
      .register false true, .registerFail (some "503 Service Unavailable".toList) 0]
    (fun s u => decide (s.acct.regState = .reconnecting) &&
      decide ((lastPost u.outs).map RegEvent.state = some .registering) &&
      u.getLast?.any fun p => p.2.contains (.regState .reconnecting))
    (by decide +kernel)
  cases hu : u.getLast? with
  | none => simp [hu] at hlast
  | some p =>
      simp only [hu, Option.any_some, Bool.and_eq_true, decide_eq_true_eq,
        List.contains_iff_mem] at hlast
      obtain ⟨⟨hstate, hposted⟩, hwrote⟩ := hlast
      rw [← List.dropLast_append_getLast? p hu] at hrun hposted
      have htold := (h configInit s u.dropLast p.1 p.2 hrun.always).1 ⟨_, hwrote⟩
      rw [hstate] at htold
      rw [Trace.outs_append, Trace.outs_singleton] at hposted
      exact absurd (htold.symm.trans hposted) (by decide)

end VoxSdk
