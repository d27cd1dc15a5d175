import VoxSdk.Proof.RetryBudget

/-!
# What a success leaves behind

Three paths end in REGISTERED: the registrar's answer, the watchdog that finds the account registered
although nobody said so, and a probe that is answered again. Each writes out the same transition for
itself. `Settled` is what all of them should leave: no reason, no attempt, no recovery, the next probe
armed, and so no later report of an outage that gives a reason from before.
-/

namespace VoxSdk

open Reactive

/-- An event that reports an outage. -/
def RegEvent.outage (ev : RegEvent) : Prop := ev.state = .reconnecting ∨ ev.state = .failed

/-- The reasons failures have given: error codes and texts. -/
structure Reasons where
  errors : List VoxError
  texts : List CStr

namespace Reasons

def none : Reasons := ⟨[], []⟩

def add (r r' : Reasons) : Reasons := ⟨r.errors ++ r'.errors, r.texts ++ r'.texts⟩

/-- An error that was given, or that there is none. -/
def hasError (r : Reasons) (err : VoxError) : Prop := err = .ok ∨ err ∈ r.errors

/-- A text that was given, or the empty one. -/
def hasText (r : Reasons) (text : CStr) : Prop := text = [] ∨ text ∈ r.texts

end Reasons

namespace Account

variable (g : Cfg) (now : Nat) {a b : Account} {r : Reasons}

/-- The events that end in REGISTERED. -/
def succeeds (a : Account) : AcctAct → Bool
  | .registerOk => true
  | .watchFires registered _ => registered && a.watched
  | .optionsAnswered answered registered _ =>
      answered && a.kaFailed && decide (a.regState = .reconnecting) && registered
  | _ => false

/-- The reasons an event brings: the registrar's, the watchdog's, the lost probe's. -/
def reasons (a : Account) : AcctAct → Reasons
  | .registerFail reason _ =>
      ⟨[registerFailError reason],
        match reason with
        | .none => []
        | some reason => [strNcpy 256 reason, strNcpy 4096 reason]⟩
  | .watchFires registered _ =>
      if !registered && a.watched && a.runsOut g then
        ⟨[.timeout], ["registration timed out".toList]⟩
      else .none
  | .optionsAnswered answered _ _ =>
      if answered then .none else ⟨[.timeout], ["keepalive probe timed out".toList]⟩
  | _ => .none

/-- The next probe is armed by a success: it is already, or the app wants the account and probing is
on. -/
def probesOn (a : Account) : Bool :=
  a.kaTmr.isRunning || (a.regWanted && decide (g.keepaliveInterval ≠ 0))

/-- The condition: the next probe is armed, and the watchdog finds nothing to clear. -/
def settles (a : Account) (act : AcctAct) : Bool :=
  a.probesOn g &&
    match act with
    | .watchFires .. => decide (a.regError = .ok) && decide (a.regErrorStr = []) && !a.kaFailed
    | _ => true

/-! ### The reasons an account holds and posts -/

/-- Every reason the account holds, and every one it has posted in the step under way, was given by a
failure in `r`. An event without a copy of its own points to `reg_error_str`. -/
structure Blames (r : Reasons) (a : Account) : Prop where
  error : r.hasError a.regError
  text : r.hasText a.regErrorStr
  short : a.regErrorStr.length ≤ 255
  posted : ∀ ev, .post ev ∈ a.out → ev.outage →
    r.hasError ev.error ∧ ∀ text, ev.errorStr = .buf text → r.hasText text

namespace Blames

theorem after (h : Blames r a) (os : List AcctOut) (hos : ∀ ev, .post ev ∉ os)
    (hout : b.out = a.out ++ os) (herror : r.hasError b.regError) (htext : r.hasText b.regErrorStr)
    (hshort : b.regErrorStr.length ≤ 255) : Blames r b := by
  refine ⟨herror, htext, hshort, fun ev hev => ?_⟩
  rcases List.mem_append.mp (hout ▸ hev) with hold | hnew
  · exact h.posted ev hold
  · exact absurd hnew (hos ev)

theorem congr (h : Blames r a) (hout : b.out = a.out) (herror : b.regError = a.regError)
    (htext : b.regErrorStr = a.regErrorStr) : Blames r b :=
  h.after [] (by simp) (by simp [hout]) (herror ▸ h.error) (htext ▸ h.text) (htext ▸ h.short)

theorem emit (h : Blames r a) (o : AcctOut) (ho : ∀ ev, o ≠ .post ev) : Blames r (a.emit o) := by
  refine h.after [o] (fun ev hev => ?_) rfl h.error h.text h.short
  exact ho ev (List.mem_singleton.mp hev).symm

theorem setRegState (h : Blames r a) (st : RegState) : Blames r (a.setRegState st) :=
  (h.emit (.regState st) (by simp)).congr rfl rfl rfl

theorem postCopied (h : Blames r a) {ev : RegEvent} {reason : ErrStr}
    (hev : ev.outage → r.hasError ev.error ∧ ∀ text, reason = .buf text → r.hasText text) :
    Blames r (a.postCopied ev reason) := by
  refine ⟨by simpa using h.error, by simpa using h.text, by simpa using h.short, ?_⟩
  intro ev' hposted houtage
  obtain ⟨-, heq⟩ | ⟨-, -, heq⟩ | ⟨-, -, heq⟩ := a.postCopied_cases ev reason <;>
    rw [heq] at hposted <;>
    rcases List.mem_append.mp hposted with hold | hnew
  · exact h.posted ev' hold houtage
  · obtain rfl := AcctOut.post.inj (List.mem_singleton.mp hnew)
    exact hev houtage
  · exact h.posted ev' hold houtage
  · cases List.mem_singleton.mp hnew
  · exact h.posted ev' hold houtage
  · obtain rfl := AcctOut.post.inj (List.mem_singleton.mp hnew)
    exact hev houtage

theorem postPrepared (h : Blames r a) {ev : RegEvent}
    (hev : ev.outage → r.hasError ev.error ∧ ∀ text, ev.errorStr = .buf text → r.hasText text) :
    Blames r (a.postPrepared ev) := by
  rw [postPrepared_eq_postCopied]
  exact h.postCopied hev

/-- An event that says what the account holds. -/
theorem postHeld (h : Blames r a) (st : RegState) :
    Blames r (a.postPrepared (.of st a.regError a.errorPtr)) := by
  refine h.postPrepared fun _ => ⟨h.error, fun text htext => ?_⟩
  simp only [RegEvent.of, errorPtr] at htext
  split_ifs at htext

theorem keepaliveArm (h : Blames r a) : Blames r (a.keepaliveArm g now) := by
  rw [keepaliveArm_eq]
  exact h.congr rfl rfl rfl

theorem scheduleRetry (h : Blames r a) (rand : Nat) : Blames r (a.scheduleRetry g now rand) := by
  rw [scheduleRetry_eq]
  split_ifs
  · exact h
  · exact h.congr rfl rfl rfl
  · have hfailed : Blames r ({ a with reconnecting := false }.setRegState .failed) :=
      (h.setRegState .failed).congr rfl rfl rfl
    exact hfailed.postHeld .failed
  · have hcounted : Blames r ({ a with
        retryAttempt := u32 (a.retryAttempt + 1)
        retryDelayMs := a.retryDelay g rand
        reconnecting := true }.setRegState .reconnecting) :=
      (h.setRegState .reconnecting).congr rfl rfl rfl
    have hannounced : Blames r (a.announced g rand) := hcounted.postHeld .reconnecting
    exact hannounced.congr rfl rfl rfl

theorem beventRegistering (h : Blames r a) : Blames r a.beventRegistering := by
  simp only [Account.beventRegistering]
  split_ifs with hrec htext
  · exact (h.setRegState .reconnecting).postCopied fun _ => ⟨h.error, by simp⟩
  · refine (h.setRegState .reconnecting).postCopied fun _ => ⟨h.error, ?_⟩
    -- the copy is long enough for all of `reg_error_str`
    rintro text ⟨⟩
    have hwhole : strNcpy 4096 a.regErrorStr = a.regErrorStr :=
      List.take_of_length_le (h.short.trans (by decide))
    change r.hasText (strNcpy 4096 a.regErrorStr)
    rw [hwhole]
    exact h.text
  · refine ⟨h.error, h.text, h.short, fun ev hposted houtage => ?_⟩
    rcases List.mem_append.mp hposted with hold | hnew
    · exact (h.setRegState .registering).posted ev hold houtage
    · obtain rfl := AcctOut.post.inj (List.mem_singleton.mp hnew)
      rcases houtage with hst | hst <;> cases hst

theorem uaRegister (h : Blames r a) (reporting : Bool) : Blames r (a.uaRegister reporting) := by
  have hasked : Blames r (a.emit (.uaRegister a.regWanted)) := h.emit _ (by simp)
  simp only [Account.uaRegister]
  split_ifs
  · exact hasked.beventRegistering
  · exact hasked

theorem uaUnregister (h : Blames r a) (reporting : Bool) : Blames r (a.uaUnregister reporting) := by
  have hasked : Blames r (a.emit .uaUnregister) := h.emit _ (by simp)
  simp only [Account.uaUnregister, beventUnregistering]
  split_ifs
  · refine postPrepared ?_ (by simp [RegEvent.of, RegEvent.outage])
    exact (hasked.setRegState .unregistering).congr rfl rfl rfl
  · exact hasked

theorem watchRegistration (h : Blames r a) : Blames r (a.watchRegistration now) := by
  unfold Account.watchRegistration
  split_ifs
  · exact h
  · exact h.congr rfl rfl rfl

theorem srvResolve (h : Blames r a) (dnsErr : Bool) : Blames r (a.srvResolve g dnsErr) := by
  unfold Account.srvResolve
  have hasked : Blames r ({ a with srv := { a.srv with tried := true, pending := true } }.emit
      (.dnsResolve a.serverName)) := by
    refine emit ?_ _ (by simp)
    exact h.congr rfl rfl rfl
  split_ifs
  · exact h
  · exact h
  · exact hasked.congr rfl rfl rfl
  · exact hasked

theorem srvAdvance (h : Blames r a) : Blames r a.srvAdvance := by
  unfold Account.srvAdvance
  split_ifs
  · exact h
  · refine emit ?_ _ (by simp)
    exact h.congr rfl rfl rfl

theorem keepaliveHandler (h : Blames r a) (inCall sendErr : Bool) :
    Blames r (a.keepaliveHandler g now inCall sendErr) := by
  have hflight (kaInFlight : Bool) : Blames r { a with kaInFlight } := h.congr rfl rfl rfl
  unfold Account.keepaliveHandler
  split_ifs
  · exact h
  · exact h
  · exact h.keepaliveArm g now
  · exact h
  · exact (hflight false).keepaliveArm g now
  · exact (hflight true).emit _ (by simp)

/-- A report that all is well again. -/
theorem postRegistered (h : Blames r a) : Blames r (a.postPrepared (.of .registered .ok .null)) :=
  h.postPrepared (by simp [RegEvent.of, RegEvent.outage])

/-- A reporter that has written its reason. -/
theorem judged (h : Blames r a) (err : VoxError) : Blames r (a.judged g err) := by
  have hdecided : Blames r (a.regFailState g err).2 := h.congr rfl rfl rfl
  exact hdecided.setRegState _

theorem refused (h : Blames r a) (reason : Option CStr)
    (herror : r.hasError (registerFailError reason))
    (htext : ∀ text, reason = some text → r.hasText (strNcpy 256 text)) :
    Blames r (a.refused g reason) := by
  refine (h.judged g (registerFailError reason)).after [] (by simp) (by simp [Account.refused]) herror ?_ ?_
  · cases reason with
    | none => exact h.text
    | some text => exact htext text rfl
  · cases reason with
    | none => exact h.short
    | some text => exact List.length_take_le _ _

theorem timedOut (h : Blames r a) (herror : r.hasError .timeout)
    (htext : r.hasText "registration timed out".toList) : Blames r (a.timedOut g) := by
  refine postPrepared ?_ fun _ => ⟨herror, by simp [RegEvent.of]⟩
  have herr : Blames r { a with
      regWatchElapsedMs := u32 (a.regWatchElapsedMs + regWatchIntervalMs)
      regError := .timeout } := h.after [] (by simp) (by simp) herror h.text h.short
  exact (herr.judged g .timeout).after [] (by simp) (by simp) herror htext
    (List.length_take_le 255 _)

theorem probeLost (h : Blames r a) (herror : r.hasError .timeout)
    (htext : r.hasText "keepalive probe timed out".toList) : Blames r (a.probeLost g) := by
  refine postPrepared ?_ fun _ => ⟨herror, by simp [RegEvent.of]⟩
  have hwarned : Blames r (a.emit .registrarWarning) := h.emit _ (by simp)
  have herr : Blames r { a.emit .registrarWarning with
      kaInFlight := false
      kaFailed := true
      regError := .timeout } := hwarned.after [] (by simp) (by simp) herror h.text h.short
  exact (herr.judged g .timeout).after [] (by simp) (by simp) herror htext
    (List.length_take_le 255 _)

theorem probeMissed (h : Blames r a) (herror : r.hasError .timeout)
    (htext : r.hasText "keepalive probe timed out".toList) : Blames r a.probeMissed := by
  refine postPrepared ?_ fun _ => ⟨herror, by simp [RegEvent.of]⟩
  have hwarned : Blames r (a.emit .registrarWarning) := h.emit _ (by simp)
  have herr : Blames r { a.emit .registrarWarning with
      kaInFlight := false
      kaFailed := true
      regError := .timeout
      reconnecting := a.regWanted } := hwarned.after [] (by simp) (by simp) herror h.text h.short
  exact (herr.setRegState (if a.regWanted then .reconnecting else .failed)).after [] (by simp) (by simp)
    herror htext (List.length_take_le 255 _)

/-- Each handler: what the account holds and posts afterwards it held before, or the event brought. -/
theorem handle (h : Blames r a) (act : AcctAct) (halive : a.Alive)
    (herrors : ∀ err ∈ (a.reasons g act).errors, r.hasError err)
    (htexts : ∀ text ∈ (a.reasons g act).texts, r.hasText text) : Blames r (a.handle g now act) := by
  cases act with
  | register dnsErr reporting =>
      simp only [Account.handle, registerFn]
      split_ifs
      · refine watchRegistration now (uaRegister (srvResolve g ?_ dnsErr) reporting)
        exact h.congr rfl rfl rfl
      · exact h
  | unregister reporting =>
      simp only [Account.handle, unregisterFn]
      split_ifs
      · refine uaUnregister ?_ reporting
        exact h.congr rfl rfl rfl
      · exact h
  | retryNow reporting =>
      simp only [Account.handle, retryNowFn]
      split_ifs
      · refine watchRegistration now (uaRegister ?_ reporting)
        exact h.congr rfl rfl rfl
      · exact h.congr rfl rfl rfl
  | cancelRetry =>
      have hreset : Blames r { a with retryTmr := none, regWatchTmr := none, retryAttempt := 0 } :=
        h.congr rfl rfl rfl
      simp only [Account.handle, cancelRetryFn]
      split_ifs
      · have hended : Blames r { a with
            retryTmr := none, regWatchTmr := none, retryAttempt := 0, reconnecting := false } :=
          hreset.congr rfl rfl rfl
        have hfailed := hended.setRegState .failed
        refine ⟨hfailed.error, hfailed.text, hfailed.short, fun ev hposted houtage => ?_⟩
        rcases List.mem_append.mp hposted with hold | hnew
        · exact hfailed.posted ev hold houtage
        · obtain rfl := AcctOut.post.inj (List.mem_singleton.mp hnew)
          refine ⟨h.error, fun text htext => ?_⟩
          simp only [RegEvent.of, errorPtr] at htext
          split_ifs at htext
      · exact hreset
  | setRetryPolicy initialMs maxMs backoff maxAttempts => exact h.congr rfl rfl rfl
  | setPushToken token dupOk reporting =>
      have hstored : Blames r (a.storePushToken token dupOk) := h.congr rfl rfl rfl
      obtain ⟨err, heq⟩ := setPushTokenFn_eq token dupOk reporting halive
      rw [Account.handle, heq]
      refine emit ?_ _ (by simp)
      split_ifs
      · exact hstored.uaRegister reporting
      · exact hstored
  | keepaliveNow inCall sendErr =>
      refine keepaliveHandler g now ?_ inCall sendErr
      exact h.congr rfl rfl rfl
  | registerOk =>
      refine postRegistered (keepaliveArm g now ?_)
      exact (h.setRegState .registered).after [] (by simp) (by simp) (.inl rfl) (.inl rfl) (by simp)
  | registerFail reason rand =>
      have herror : r.hasError (registerFailError reason) := herrors _ (List.mem_singleton_self _)
      have htext : ∀ text, reason = some text → r.hasText (strNcpy 256 text) ∧
          r.hasText (strNcpy 4096 text) := by
        rintro text rfl
        exact ⟨htexts _ (List.mem_cons_self ..), htexts _ (List.mem_cons_of_mem _ (List.mem_singleton_self _))⟩
      have hrefused := h.refused g reason herror fun text ht => (htext text ht).1
      rw [Account.handle, beventRegisterFail_eq]
      refine postCopied ?_ fun _ => ⟨herror, fun text ht => ?_⟩
      · split_ifs
        · exact hrefused.scheduleRetry g now rand
        · exact hrefused
      · cases reason with
        | none => cases ht
        | some reason => exact ErrStr.buf.inj ht ▸ (htext reason rfl).2
  | srvDone targets =>
      obtain ⟨srv, heq⟩ := srvDoneHandler_spec (a := a) targets rfl
      rw [Account.handle, heq]
      exact h.congr rfl rfl rfl
  | retryFires reporting =>
      simp only [Account.handle, retryTimerHandler]
      split_ifs
      · exact h.congr rfl rfl rfl
      · refine watchRegistration now (uaRegister (srvAdvance ?_) reporting)
        exact h.congr rfl rfl rfl
  | watchFires registered rand =>
      have htmr : Blames r { a with regWatchTmr := none } := h.congr rfl rfl rfl
      rw [Account.handle, regWatchHandler_eq g now (a := { a with regWatchTmr := none }) registered rand
        halive, watched_regWatchTmr, runsOut_regWatchTmr]
      split_ifs with hwatched hreg hout
      · exact htmr
      · refine postRegistered (keepaliveArm g now ?_)
        have hwarned : Blames r (Account.emit .registrarWarning { a with regWatchTmr := none }) :=
          htmr.emit _ (by simp)
        exact (hwarned.setRegState .registered).congr rfl rfl rfl
      · have hreasons : a.reasons g (.watchFires registered rand) =
            ⟨[.timeout], ["registration timed out".toList]⟩ := by
          have hwatched : a.watched = true := by simpa using hwatched
          have hreg : registered = false := Bool.eq_false_iff.mpr hreg
          simp only [reasons, hwatched, hreg, hout, Bool.not_false, Bool.and_self, if_true]
        rw [hreasons] at herrors htexts
        exact (htmr.timedOut g (herrors _ (List.mem_singleton_self _))
          (htexts _ (List.mem_singleton_self _))).scheduleRetry g now rand
      · exact h.congr rfl rfl rfl
  | keepaliveFires inCall sendErr =>
      refine keepaliveHandler g now ?_ inCall sendErr
      exact h.congr rfl rfl rfl
  | optionsAnswered answered registered rand =>
      cases answered with
      | true =>
          have hback : Blames r { a with kaInFlight := false, kaFailed := false } := h.congr rfl rfl rfl
          rw [Account.handle, keepaliveRespHandler_heard g now registered rand halive]
          refine keepaliveArm g now ?_
          split_ifs
          · refine postRegistered ?_
            exact (hback.setRegState .registered).after [] (by simp) (by simp) (.inl rfl) (.inl rfl)
              (by simp)
          · exact hback
      | false =>
          have herror := herrors .timeout (List.mem_singleton_self _)
          have htext := htexts _ (List.mem_singleton_self _)
          cases hre : (g.keepaliveReregister && a.regWanted) with
          | true =>
              rw [Account.handle, keepaliveRespHandler_lost g now registered rand halive hre]
              exact (h.probeLost g herror htext).scheduleRetry g now rand
          | false =>
              rw [Account.handle, keepaliveRespHandler_missed g now registered rand halive hre]
              exact (h.probeMissed herror htext).keepaliveArm g now
  | handoverMark =>
      simp only [Account.handle, regReconnecting]
      split_ifs
      · exact h
      · exact h
      · refine postPrepared ?_ fun _ => ⟨.inl rfl, by simp [RegEvent.of]⟩
        exact (h.setRegState .reconnecting).congr rfl rfl rfl
  | handoverToRetry rand =>
      simp only [Account.handle, handoverToRetry]
      split_ifs
      · exact h.scheduleRetry g now rand
      · exact h
  | handoverReregister reporting =>
      simp only [Account.handle, reregister]
      split_ifs
      · exact h
      · refine watchRegistration now (uaRegister ?_ reporting)
        exact h.congr rfl rfl rfl
  | elapse ms => exact h

end Blames

/-- What a success leaves: no reason, no attempt, no recovery, and the next probe armed. -/
structure Cleared (a : Account) : Prop where
  regError : a.regError = .ok
  regErrorStr : a.regErrorStr = []
  retryAttempt : a.retryAttempt = 0
  reconnecting : a.reconnecting = false
  kaFailed : a.kaFailed = false
  kaTmr : a.kaTmr.isRunning = true

/-- Two of the three paths write out all of it; the watchdog leaves three fields as they are. -/
theorem cleared_iff (act : AcctAct) (halive : a.Alive) (hsucceeds : a.succeeds act = true) :
    Cleared (a.handle g now act) ↔ a.settles g act = true := by
  cases act with
  | registerOk =>
      have htmr : (a.beventRegisterOk g now).kaTmr.isRunning = a.probesOn g :=
        (beventRegisterOk_spec g now halive rfl).2.2.2.2.2.2.2.2
      have hsettles : a.settles g .registerOk = a.probesOn g := Bool.and_true _
      rw [hsettles, ← htmr]
      refine ⟨Cleared.kaTmr, fun hprobes => ⟨?_, ?_, ?_, ?_, ?_, hprobes⟩⟩ <;>
        simp [handle, beventRegisterOk]
  | watchFires registered rand =>
      obtain ⟨rfl, hwatched⟩ := Bool.and_eq_true_iff.mp hsucceeds
      rw [handle, regWatchHandler_eq g now (a := { a with regWatchTmr := none }) true rand halive,
        watched_regWatchTmr, hwatched, if_neg (by simp), if_pos rfl]
      generalize hb : ({ a with regWatchTmr := none } : Account).foundRegistered g now = b
      have htmr : b.kaTmr.isRunning = a.probesOn g := by
        simp [← hb, foundRegistered, keepaliveArm_isRunning, probesOn, halive.2]
      have hkept : b.regError = a.regError ∧ b.regErrorStr = a.regErrorStr ∧ b.kaFailed = a.kaFailed := by
        simp [← hb, foundRegistered]
      have hreset : b.retryAttempt = 0 ∧ b.reconnecting = false := by
        simp [← hb, foundRegistered]
      have hsettles : a.settles g (.watchFires true rand) = true ↔
          a.probesOn g = true ∧ a.regError = .ok ∧ a.regErrorStr = [] ∧ a.kaFailed = false := by
        simp [settles, and_assoc]
      rw [hsettles, ← htmr, ← hkept.1, ← hkept.2.1, ← hkept.2.2]
      constructor
      · intro hcleared
        exact ⟨hcleared.kaTmr, hcleared.regError, hcleared.regErrorStr, hcleared.kaFailed⟩
      · rintro ⟨hprobes, herror, htext, hfailed⟩
        exact ⟨herror, htext, hreset.1, hreset.2, hfailed, hprobes⟩
  | optionsAnswered answered registered rand =>
      simp only [succeeds, Bool.and_eq_true] at hsucceeds
      obtain ⟨⟨⟨rfl, hfailed⟩, hstate⟩, hregistered⟩ := hsucceeds
      have htmr : (a.keepaliveRespHandler g now true registered rand).kaTmr.isRunning = a.probesOn g :=
        (keepaliveRespHandler_answered g now registered rand halive rfl).2.2.2.2.2.2.2.2
      have hsettles : a.settles g (.optionsAnswered true registered rand) = a.probesOn g :=
        Bool.and_true _
      rw [hsettles, ← htmr]
      refine ⟨Cleared.kaTmr, fun hprobes => ⟨?_, ?_, ?_, ?_, ?_, hprobes⟩⟩ <;>
        rw [handle, keepaliveRespHandler_heard g now registered rand halive] <;>
        simp [hfailed, hstate, hregistered, heardAgain]
  | _ => cases hsucceeds

end Account

/-- One account, and the reasons failures have given. -/
def reasonAccount (g : Cfg) : Machine (OneAccount × Reasons) AcctAct AcctOut :=
  (oneAccount g).withHistory .none fun s act _ r => r.add (s.acct.reasons g act)

/-- Whether an event gives reasons of `r` only, in the state it leaves the account in. -/
def RegEvent.Explained (r : Reasons) (a : Account) (ev : RegEvent) : Prop :=
  r.hasError ev.error ∧
    match ev.errorStr with
    | .null => True
    | .acct => r.hasText a.regErrorStr
    | .buf text => r.hasText text

/-- What every success should leave behind: an account that is cleared, and whatever happens to it from
then on, each RECONNECTING or FAILED it posts gives a reason that a failure has given since. -/
def Settled (g : Cfg) (s : OneAccount) : Prop :=
  s.acct.Cleared ∧
    ∀ u q act q' os, (reasonAccount g).Steps Machine.Always (s, .none) u q →
      (reasonAccount g).step q act = some (q', os) →
      ∀ ev, .post ev ∈ os → ev.outage → ev.Explained q'.2 q'.1.acct

variable {g : Cfg} {s s' : OneAccount} {t : Trace AcctAct AcctOut} {act : AcctAct}
  {os : List AcctOut} {q q' : OneAccount × Reasons}

theorem Reasons.hasError_mono {r r' : Reasons} {err : VoxError} (h : r.hasError err) :
    (r.add r').hasError err :=
  h.imp_right (List.mem_append_left _)

theorem Reasons.hasText_mono {r r' : Reasons} {text : CStr} (h : r.hasText text) :
    (r.add r').hasText text :=
  h.imp_right (List.mem_append_left _)

theorem Account.Blames.add {r r' : Reasons} {a : Account} (h : Account.Blames r a) :
    Account.Blames (r.add r') a :=
  ⟨Reasons.hasError_mono h.error, Reasons.hasText_mono h.text, h.short, fun ev hev houtage =>
    ⟨Reasons.hasError_mono (h.posted ev hev houtage).1, fun text htext =>
      Reasons.hasText_mono ((h.posted ev hev houtage).2 text htext)⟩⟩

/-- A step of an account all of whose reasons are known. -/
theorem blames_step (halive : q.1.acct.Alive) (hblames : Account.Blames q.2 q.1.acct.idle)
    (hstep : (reasonAccount g).step q act = some (q', os)) :
    q'.1.acct.Alive ∧ Account.Blames q'.2 q'.1.acct ∧ os = q'.1.acct.out := by
  obtain ⟨hacct, hreasons⟩ := Machine.withHistory_step.mp hstep
  obtain ⟨-, hafter, -, rfl⟩ := oneAccount_step hacct
  refine ⟨?_, ?_, rfl⟩
  · rw [hafter]
    exact (Account.handle_alive g q.1.now (a := q.1.acct.idle) act halive).1
  · rw [hafter, hreasons]
    have hsame : q.1.acct.idle.reasons g act = q.1.acct.reasons g act := by
      cases act <;> rfl
    refine Account.Blames.handle g q.1.now (hblames.add) act halive ?_ ?_
    · intro err herr
      exact .inr (List.mem_append_right _ (hsame ▸ herr))
    · intro text htext
      exact .inr (List.mem_append_right _ (hsame ▸ htext))

/-- Once the account is cleared, what it reports is explained by what has failed since. -/
theorem settled_of_cleared (halive : s.acct.Alive) (hcleared : s.acct.Cleared) : Settled g s := by
  refine ⟨hcleared, fun u q act q' os hsteps hstep ev hev houtage => ?_⟩
  have hknown : q.1.acct.Alive ∧ Account.Blames q.2 q.1.acct.idle := by
    clear hstep
    induction hsteps with
    | refl =>
        refine ⟨halive, .inl hcleared.regError, .inl hcleared.regErrorStr, ?_, by simp [Account.idle]⟩
        simp [Account.idle, hcleared.regErrorStr]
    | step _ _ hnext ih =>
        obtain ⟨halive', hblames', -⟩ := blames_step ih.1 ih.2 hnext
        refine ⟨halive', hblames'.error, hblames'.text, hblames'.short, by simp [Account.idle]⟩
  obtain ⟨-, hblames, rfl⟩ := blames_step hknown.1 hknown.2 hstep
  obtain ⟨herror, hcopy⟩ := hblames.posted ev hev houtage
  refine ⟨herror, ?_⟩
  cases hptr : ev.errorStr with
  | null => trivial
  | acct => exact hblames.text
  | buf text => exact hcopy text hptr

/-- **All roads to REGISTERED.** After a success the account is settled exactly if the next probe is
armed and, where the watchdog found the account registered, there was nothing left to clear. -/
theorem settled_iff (hrun : (oneAccount g).Run Machine.Always s t)
    (hstep : (oneAccount g).step s act = some (s', os)) (hsucceeds : s.acct.succeeds act = true) :
    Settled g s' ↔ s.acct.settles g act = true := by
  have halive : s.acct.Alive := by
    refine hrun.stateInvariant (I := fun s => s.acct.Alive) ?_ ?_
    · rintro s ⟨id, cfg, pushToken, h⟩
      exact h ▸ Account.alive_create id cfg pushToken
    · rintro s act s' os halive - hstep
      rw [(oneAccount_step hstep).2.1]
      exact (Account.handle_alive g s.now (a := s.acct.idle) act halive).1
  have hiff := Account.cleared_iff g s.now (a := s.acct.idle) act halive (by cases act <;> exact hsucceeds)
  have hsettles : s.acct.idle.settles g act = s.acct.settles g act := by
    cases act <;> rfl
  obtain ⟨-, hafter, -⟩ := oneAccount_step hstep
  rw [← hafter, hsettles] at hiff
  rw [← hiff]
  refine ⟨And.left, settled_of_cleared ?_⟩
  rw [hafter]
  exact (Account.handle_alive g s.now (a := s.acct.idle) act halive).1

/-- An answer the watchdog waited for: a refused registration is retried and accepted. -/
theorem settled_iff_accepted :
    ∃ s t s' os, (oneAccount configInit).Run Machine.Always s t ∧ s.acct.regError = .server5xx ∧
      (oneAccount configInit).step s .registerOk = some (s', os) ∧ Settled configInit s' := by
  obtain ⟨s, t, hrun, hstate⟩ := Machine.exists_run_of_exec (fun _ _ => true)
    (justCreated_init configInit)
    [.register false true, .registerFail (some "503 Service Unavailable".toList) 0, .elapse 2400,
      .retryFires true]
    (fun s _ => decide (s.acct.regError = .server5xx) && s.acct.settles configInit .registerOk)
    (by decide +kernel)
  obtain ⟨herror, hsettles⟩ := Bool.and_eq_true_iff.mp hstate
  have hstep := oneAccount_step_of_enabled (g := configInit) (s := s) .registerOk rfl
  exact ⟨s, t, _, _, hrun.always, of_decide_eq_true herror, hstep,
    (settled_iff hrun.always hstep rfl).mpr hsettles⟩

/-- The same registration, but the watchdog is first to see that it was accepted: the account is
REGISTERED and still holds `503`. -/
theorem not_settled_found :
    ¬ ∀ (g : Cfg) (s s' : OneAccount) (t : Trace AcctAct AcctOut) (act : AcctAct) (os : List AcctOut),
      (oneAccount g).Run Machine.Always s t → (oneAccount g).step s act = some (s', os) →
        s.acct.succeeds act = true → Settled g s' := by
  intro h
  obtain ⟨s, t, hrun, hstate⟩ := Machine.exists_run_of_exec (fun _ _ => true)
    (justCreated_init configInit)
    [.register false true, .registerFail (some "503 Service Unavailable".toList) 0, .elapse 2400,
      .retryFires true, .elapse 500]
    (fun s _ => s.acct.enabled s.now (.watchFires true 0) && s.acct.succeeds (.watchFires true 0) &&
      decide ((s.acct.idle.handle configInit s.now (.watchFires true 0)).regError = .server5xx))
    (by decide +kernel)
  simp only [Bool.and_eq_true, decide_eq_true_eq] at hstate
  obtain ⟨⟨hen, hsucceeds⟩, herror⟩ := hstate
  have hstep := oneAccount_step_of_enabled (g := configInit) _ hen
  have hsettled := h configInit s _ t _ _ hrun.always hstep hsucceeds
  cases herror.symm.trans hsettled.1.regError

end VoxSdk
