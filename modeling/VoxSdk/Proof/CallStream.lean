import VoxSdk.CallStates

/-!
# What the application is told of a call

The CALL_STATE events of a call, read one by one: none comes after one that ends the call, and what the application
reads of the call in between is what was reported last, told or dropped, unless it has hung up itself. How a call that
is reset is reported depends on that as well: the end of a call that is on hold is not taken for the far end's hangup.
-/

namespace VoxSdk

open Reactive Machine

/-- A CALL_STATE event: the state, the error and the reason. -/
abbrev StateEvent := CallState × VoxError × Option CStr

def LineEvent.state : LineEvent → Option StateEvent
  | .callState state error reason => some (state, error, reason)
  | .dtmf _ | .transferFailed _ => none

/-- The CALL_STATE events among those the application is told. -/
def stateEvents (os : List LineOut) : List StateEvent :=
  os.filterMap fun
    | .posted ev => ev.state
    | .dropped _ => none

/-- And among all there are. -/
def stateReports (os : List LineOut) : List StateEvent :=
  os.filterMap fun
    | .posted ev | .dropped ev => ev.state

/-- An error goes with a failure or a cancellation, and a call that goes on comes with neither error nor reason. -/
def StateEvent.fitting : StateEvent → Bool
  | (state, error, reason) =>
      match state with
      | .calling => false
      | .ringing | .established | .held => decide (error = .ok) && reason.isNone
      | .ended => decide (error = .ok)
      | .cancelled | .failed => !decide (error = .ok)

/-- What is told of a call that starts as it does: fitting events, and nothing once it is over. -/
def callMonitor (outgoing : Bool) : Monitor CallState StateEvent where
  start := if outgoing then .calling else .ringing
  next told ev := if !told.isOver && ev.fitting then some ev.1 else none

/-! ### What a run has seen -/

/-- What was reported of the call, and what the application was told of it and has done. -/
structure CallPast where
  told : CallState
  /-- the state of the last CALL_STATE event, told or dropped -/
  reported : CallState
  /-- it was dropped -/
  missed : Bool
  /-- the application has hung up or rejected the call since -/
  hungUp : Bool
  /-- the last `call_hold` that worked -/
  hold : Bool
  /-- the last time the call was answered -/
  answered : Nat

namespace CallPast

def start (outgoing : Bool) : CallPast :=
  let state := if outgoing then CallState.calling else .ringing
  { told := state, reported := state, missed := false, hungUp := false, hold := false, answered := 0 }

/-- The last CALL_STATE event counts, and what was asked before it does not. -/
def hear (os : List LineOut) (past : CallPast) : CallPast :=
  match (stateReports os).getLast? with
  | none => past
  | some ev =>
      { past with
        told := (((stateEvents os).getLast?).map Prod.fst).getD past.told
        reported := ev.1
        missed := (stateEvents os).isEmpty
        hungUp := false }

def next (s : CallLine) (act : LineAct) (os : List LineOut) (past : CallPast) : CallPast :=
  match act with
  | .hangup _ => { past.hear os with hungUp := s.bc || past.hungUp }
  | .reject _ => { past.hear os with hungUp := true }
  | .callHold hold err => if s.bc && decide (err = 0) then { past with hold } else past
  | .established now _ => { past.hear os with answered := now }
  | _ => past.hear os

end CallPast

/-- The wrapper is what the past makes of it. -/
structure Reflects (s : CallLine) (past : CallPast) : Prop where
  bc : s.bc = !past.reported.isOver
  state : s.state = if past.hungUp then .ended else past.reported
  hold : s.localHold = past.hold
  answered : s.statsCallStart = past.answered
  goes : s.bc = true → past.told.isOver = false
  told : past.missed = false → past.told = past.reported

/-! ### One step -/

section Step

variable {account : Option (Nat × MediaEnc)} {globalMenc : MediaEnc} {outgoing : Bool} {s : CallLine}
  {past : CallPast} {act : LineAct} {state : CallState} {error : VoxError} {why : Option CStr} {posts : Bool}

@[simp]
theorem stateReports_postEvent :
    stateReports (postEvent posts (.callState state error why)) = [(state, error, why)] := by
  cases posts <;> rfl

@[simp]
theorem stateEvents_postEvent :
    stateEvents (postEvent posts (.callState state error why)) = if posts then [(state, error, why)] else [] := by
  cases posts <;> rfl

/-- A CALL_STATE event is heard, or missed. -/
theorem hear_postEvent (past : CallPast) :
    past.hear (postEvent posts (.callState state error why)) =
      { past with
        told := if posts then state else past.told
        reported := state
        missed := !posts
        hungUp := false } := by
  cases posts <;> rfl

theorem ClosedCall.isOver_state (c : ClosedCall) : c.state.isOver = true := by
  unfold ClosedCall.state
  simp only
  split
  · rfl
  · split
    · rfl
    · split <;> rfl

theorem ClosedCall.not_peerHangup_of_code (c : ClosedCall) (hcode : sipReasonCode c.reason ≠ 0) :
    c.peerHangup = false := by
  simp [ClosedCall.peerHangup, isTransportErr, hcode]

/-- The error of a call that closes goes with its state. -/
theorem ClosedCall.fitting (c : ClosedCall) (why : Option CStr) :
    StateEvent.fitting (c.state, c.error, why) = true := by
  unfold ClosedCall.state ClosedCall.error
  simp only
  by_cases hzero : sipReasonCode c.reason = 0
  · cases hpeer : c.peerHangup with
    | true => simp [hzero, StateEvent.fitting]
    | false => cases herr : isTransportErr c.reason <;> simp [hzero, StateEvent.fitting]
  · have herr : isTransportErr c.reason = false := by simp [isTransportErr, hzero]
    rw [c.not_peerHangup_of_code hzero, herr]
    simp only [Bool.false_eq_true, if_false, Bool.or_false, Bool.false_and, decide_eq_true_eq]
    generalize sipReasonCode c.reason = scode
    by_cases hcancel : scode = 487
    · simp [hcancel, StateEvent.fitting]
    · by_cases hfailed : 400 ≤ scode
      · rw [if_neg hcancel, if_pos hfailed]
        have herror : ∀ e : VoxError, e ≠ .ok → StateEvent.fitting (.failed, e, why) = true := by
          intro e he
          simp [StateEvent.fitting, he]
        apply herror
        split_ifs <;> nofun
      · have hok : ¬(scode = 401 ∨ scode = 403 ∨ scode = 407) ∧ scode ≠ 408 ∧ ¬(500 ≤ scode ∧ scode < 600) := by
          omega
        simp [hcancel, hfailed, hok, StateEvent.fitting]

/-- A state is reported of the call. -/
theorem Reflects.post {s' : CallLine} (h : Reflects s past) (hbc : s.bc = true) (hbc' : s'.bc = !state.isOver)
    (hstate : s'.state = state) (hhold : s'.localHold = s.localHold)
    (hanswered : s'.statsCallStart = s.statsCallStart) :
    Reflects s' (past.hear (postEvent posts (.callState state error why))) := by
  rw [hear_postEvent]
  refine ⟨hbc', hstate, hhold.trans h.hold, hanswered.trans h.answered, fun hgoes => ?_, fun hheard => ?_⟩
  · cases posts with
    | false => exact h.goes hbc
    | true => simpa [hgoes] using hbc'.symm
  · simp only [Bool.not_eq_false'] at hheard
    simp [hheard]

/-- A call that goes on. -/
theorem Reflects.report (h : Reflects s past) (hbc : s.bc = true) (hgoes : state.isOver = false) :
    Reflects (s.report state posts).1 (past.hear (s.report state posts).2) :=
  h.post hbc (by simp [CallLine.report, hbc, hgoes]) rfl rfl rfl

theorem Reflects.closed (h : Reflects s past) (hbc : s.bc = true) (closing : CallClosing) :
    Reflects (s.beventClosed account globalMenc closing).1
      (past.hear (s.beventClosed account globalMenc closing).2) :=
  h.post hbc (by simp [CallLine.beventClosed, ClosedCall.isOver_state]) rfl rfl rfl

theorem Reflects.uaEnds (h : Reflects s past) (hbc : s.bc = true) (closes : Option CallClosing) :
    Reflects (s.uaEnds account globalMenc closes).1 (past.hear (s.uaEnds account globalMenc closes).2) := by
  cases closes with
  | none => exact h
  | some closing => exact h.closed hbc closing

/-- The application has hung up, whatever it has been told of it. -/
theorem Reflects.hangUp (h : Reflects s past) :
    Reflects { s with state := .ended } { past with hungUp := true } where
  bc := h.bc
  state := rfl
  hold := h.hold
  answered := h.answered
  goes := h.goes
  told := h.told

/-- An event that says nothing of the state. -/
theorem Reflects.hear_of_silent (h : Reflects s past) {os : List LineOut} (hsilent : stateReports os = []) :
    Reflects s (past.hear os) := by
  simp only [CallPast.hear, hsilent, List.getLast?_nil]
  exact h

theorem stateReports_beventDtmf (text : Option CStr) (posts : Bool) :
    stateReports (CallLine.beventDtmf text posts) = [] := by
  unfold CallLine.beventDtmf
  split
  · rfl
  · rfl
  · cases posts <;> rfl

theorem stateReports_beventTransferFailed (reason : Option CStr) (copies posts : Bool) :
    stateReports (CallLine.beventTransferFailed reason copies posts) = [] := by
  cases posts <;> rfl

/-- Every step keeps the wrapper in line with what was told. -/
theorem Reflects.step (h : Reflects s past) (henabled : s.enabled act = true) :
    Reflects (s.act account globalMenc act).1 (CallPast.next s act (s.act account globalMenc act).2 past) := by
  cases act with
  | ringing posts => exact h.report henabled rfl
  | hold posts => exact h.report henabled rfl
  | resume posts => exact h.report henabled rfl
  | established now posts =>
      have hreport : Reflects (s.report .established posts).1 (past.hear (s.report .established posts).2) :=
        h.report henabled rfl
      exact ⟨hreport.bc, hreport.state, hreport.hold, rfl, hreport.goes, hreport.told⟩
  | dtmf text posts => exact h.hear_of_silent (stateReports_beventDtmf text posts)
  | transferFailed reason copies posts =>
      exact h.hear_of_silent (stateReports_beventTransferFailed reason copies posts)
  | closed closing => exact h.closed henabled closing
  | callHold hold err =>
      simp only [CallLine.act, CallLine.holdFn, CallPast.next]
      cases hbc : s.bc with
      | false => simpa using h
      | true =>
          by_cases herr : err = 0
          · simp only [herr, Bool.not_true, Bool.false_eq_true, if_false, if_true, decide_true, Bool.and_self]
            exact ⟨hbc.symm.trans h.bc, h.state, rfl, h.answered, fun _ => h.goes hbc, h.told⟩
          · simpa [herr] using h
  | hangup closes =>
      simp only [CallLine.act, CallLine.hangupFn, CallPast.next]
      cases hbc : s.bc with
      | false => exact h
      | true => exact (h.uaEnds hbc closes).hangUp
  | reject closes =>
      simp only [CallLine.act, CallLine.rejectFn, CallPast.next]
      cases hbc : s.bc with
      | false => exact h.hangUp
      | true => exact (h.uaEnds hbc closes).hangUp
  | answer closes =>
      simp only [CallLine.act, CallLine.answerFn, CallPast.next]
      cases hbc : s.bc with
      | false => exact h
      | true => exact h.uaEnds hbc closes
  | giveUp closes =>
      simp only [CallLine.act, CallLine.answerFn, CallPast.next]
      cases hbc : s.bc with
      | false => exact h
      | true => exact h.uaEnds hbc closes

/-! ### And is told -/

/-- What a step tells is accepted, and leads to what the past says was told. -/
def Accepted (outgoing : Bool) (past : CallPast) (os : List LineOut) : Prop :=
  (callMonitor outgoing).read past.told (stateEvents os) = some (past.hear os).told

theorem accepted_of_silent {os : List LineOut} (hsilent : stateReports os = []) : Accepted outgoing past os := by
  have hnone : stateEvents os = [] := by
    refine List.filterMap_eq_nil_iff.mpr fun o ho => ?_
    have hreport := List.filterMap_eq_nil_iff.mp hsilent o ho
    cases o with
    | posted ev => exact hreport
    | dropped ev => rfl
  simp [Accepted, CallPast.hear, hsilent, hnone]

theorem accepted_postEvent (hgoes : past.told.isOver = false)
    (hfitting : StateEvent.fitting (state, error, why) = true) :
    Accepted outgoing past (postEvent posts (.callState state error why)) := by
  rw [Accepted, hear_postEvent, stateEvents_postEvent]
  cases posts with
  | false => rfl
  | true => simp [callMonitor, hgoes, hfitting]

theorem Reflects.accepted_closed (h : Reflects s past) (hbc : s.bc = true) (closing : CallClosing) :
    Accepted outgoing past (s.beventClosed account globalMenc closing).2 :=
  accepted_postEvent (h.goes hbc) (ClosedCall.fitting _ _)

theorem Reflects.accepted_uaEnds (h : Reflects s past) (hbc : s.bc = true) (closes : Option CallClosing) :
    Accepted outgoing past (s.uaEnds account globalMenc closes).2 := by
  cases closes with
  | none => exact accepted_of_silent rfl
  | some closing => exact h.accepted_closed hbc closing

theorem Reflects.accepted_answer (h : Reflects s past) (closes : Option CallClosing) :
    Accepted outgoing past (s.answerFn account globalMenc closes).2 := by
  unfold CallLine.answerFn
  cases hbc : s.bc with
  | false => exact accepted_of_silent rfl
  | true => exact h.accepted_uaEnds hbc closes

theorem Reflects.accepted (h : Reflects s past) (henabled : s.enabled act = true) :
    Accepted outgoing past (s.act account globalMenc act).2 := by
  cases act with
  | ringing posts => exact accepted_postEvent (h.goes henabled) rfl
  | established now posts => exact accepted_postEvent (h.goes henabled) rfl
  | hold posts => exact accepted_postEvent (h.goes henabled) rfl
  | resume posts => exact accepted_postEvent (h.goes henabled) rfl
  | dtmf text posts => exact accepted_of_silent (stateReports_beventDtmf text posts)
  | transferFailed reason copies posts =>
      exact accepted_of_silent (stateReports_beventTransferFailed reason copies posts)
  | closed closing => exact h.accepted_closed henabled closing
  | callHold hold err => exact accepted_of_silent rfl
  | hangup closes =>
      simp only [CallLine.act, CallLine.hangupFn]
      cases hbc : s.bc with
      | false => exact accepted_of_silent rfl
      | true => exact h.accepted_uaEnds hbc closes
  | reject closes =>
      simp only [CallLine.act, CallLine.rejectFn]
      cases hbc : s.bc with
      | false => exact accepted_of_silent rfl
      | true => exact h.accepted_uaEnds hbc closes
  | answer closes => exact h.accepted_answer closes
  | giveUp closes => exact h.accepted_answer closes

end Step

/-! ### How a call ends -/

/-- The BEVENT_CALL_CLOSED a step brings. -/
def LineAct.closes : LineAct → Option CallClosing
  | .closed closing => some closing
  | .hangup closes | .reject closes | .answer closes | .giveUp closes => closes
  | _ => none

namespace ClosedCall

variable (c : ClosedCall)

theorem state_eq_cancelled_iff : c.state = .cancelled ↔ sipReasonCode c.reason = 487 := by
  unfold state
  simp only
  split_ifs with hcancel <;> simp [hcancel]

theorem state_eq_ended_iff :
    c.state = .ended ↔ sipReasonCode c.reason < 400 ∧ (isTransportErr c.reason = true → c.peerHangup = true) := by
  unfold state
  simp only
  by_cases hzero : sipReasonCode c.reason = 0
  · cases herr : isTransportErr c.reason <;> cases hpeer : c.peerHangup <;> simp [hzero]
  · have herr : isTransportErr c.reason = false := by simp [isTransportErr, hzero]
    rw [c.not_peerHangup_of_code hzero, herr]
    generalize sipReasonCode c.reason = scode
    by_cases hcancel : scode = 487
    · simp [hcancel]
    · by_cases hfailed : 400 ≤ scode <;> simp [hcancel, hfailed]
      omega

end ClosedCall

section Ends

variable {account : Option (Nat × MediaEnc)} {globalMenc : MediaEnc} {s : CallLine} {act : LineAct}

/-- However a live call comes to its end, BEVENT_CALL_CLOSED speaks for it. -/
theorem outs_closing {closing : CallClosing} (hbc : s.bc = true) (hcloses : act.closes = some closing) :
    (s.act account globalMenc act).2 = (s.beventClosed account globalMenc closing).2 := by
  cases act with
  | closed closing' =>
      obtain rfl := Option.some.inj hcloses
      rfl
  | hangup closes =>
      obtain rfl : closes = some closing := hcloses
      simp [CallLine.act, CallLine.hangupFn, hbc, CallLine.uaEnds]
  | reject closes =>
      obtain rfl : closes = some closing := hcloses
      simp [CallLine.act, CallLine.rejectFn, hbc, CallLine.uaEnds]
  | answer closes =>
      obtain rfl : closes = some closing := hcloses
      simp [CallLine.act, CallLine.answerFn, hbc, CallLine.uaEnds]
  | giveUp closes =>
      obtain rfl : closes = some closing := hcloses
      simp [CallLine.act, CallLine.answerFn, hbc, CallLine.uaEnds]
  | _ => cases hcloses

end Ends

/-! ### Runs -/

section Results

variable {account : Option (Nat × MediaEnc)} {globalMenc : MediaEnc} {outgoing : Bool} {id : Nat}
  {p p' : CallLine × CallPast} {t : Trace LineAct LineOut} {act : LineAct} {os : List LineOut}

theorem callLine_step {s s' : CallLine} (hstep : (callLine account globalMenc id outgoing).step s act = some (s', os)) :
    s.enabled act = true ∧ s' = (s.act account globalMenc act).1 ∧ os = (s.act account globalMenc act).2 := by
  simp only [callLine, Option.ite_none_right_eq_some, Option.some.injEq] at hstep
  obtain ⟨henabled, hact⟩ := hstep
  exact ⟨henabled, by rw [hact], by rw [hact]⟩

theorem reflects_start (id : Nat) (outgoing : Bool) :
    Reflects (.wrapNew id outgoing) (.start outgoing) := by
  cases outgoing <;> exact ⟨rfl, rfl, rfl, rfl, fun _ => rfl, fun _ => rfl⟩

theorem reflects_run
    (hrun : ((callLine account globalMenc id outgoing).withHistory (.start outgoing) CallPast.next).Run Always p t) :
    Reflects p.1 p.2 := by
  refine hrun.stateInvariant (I := fun p => Reflects p.1 p.2) ?_ ?_
  · rintro ⟨s, past⟩ ⟨rfl, rfl⟩
    exact reflects_start id outgoing
  · intro p act p' os hp _ hstep
    obtain ⟨hstep, hnext⟩ := withHistory_step.mp hstep
    obtain ⟨henabled, hs', hos⟩ := callLine_step hstep
    rw [hnext, hs', hos]
    exact hp.step henabled

/-- **How the end of a call is reported.** Whatever brings it about, there is one event for it, which the application
is told if there is memory for it and room in the queue: CANCELLED for a 487, ENDED for what is no failure. A connection
that is reset is the far end's hangup only if ESTABLISHED was reported last: with the call on hold, or still ringing, it
is a failure. -/
theorem closing_verdict {closing : CallClosing}
    (hrun : ((callLine account globalMenc id outgoing).withHistory (.start outgoing) CallPast.next).Run Always p t)
    (hstep : ((callLine account globalMenc id outgoing).withHistory (.start outgoing) CallPast.next).step p act =
      some (p', os))
    (hbc : p.1.bc = true) (hcloses : act.closes = some closing) :
    ∃ state error why, os = postEvent closing.posts (.callState state error why) ∧ state.isOver = true ∧
      (state = .cancelled ↔ sipReasonCode closing.reason = 487) ∧
      (state = .ended ↔ sipReasonCode closing.reason < 400 ∧
        (isTransportErr closing.reason = true → p.2.reported = .established ∧ p.2.hungUp = false)) := by
  have hreflects := reflects_run hrun
  obtain ⟨-, -, hos⟩ := callLine_step (withHistory_step.mp hstep).1
  have hup : p.1.state = .established ↔ p.2.reported = .established ∧ p.2.hungUp = false := by
    rw [hreflects.state]
    cases p.2.hungUp <;> simp
  let c : ClosedCall := { account, call := some (p.1.id, p.1.state), reason := closing.reason }
  refine ⟨c.state, c.error, c.told globalMenc, ?_, c.isOver_state, c.state_eq_cancelled_iff, ?_⟩
  · rw [hos, outs_closing hbc hcloses]
    rfl
  · rw [c.state_eq_ended_iff]
    refine and_congr_right fun _ => forall_congr' fun herr => ?_
    have hpeer : c.peerHangup = decide (p.1.state = .established) := by
      show (isTransportErr closing.reason && decide (p.1.state = .established)) = _
      rw [herr, Bool.true_and]
    rw [hpeer, decide_eq_true_eq, hup]

/-- The far end puts the call on hold, then hangs up. -/
theorem closing_verdict_held :
    ∃ p p' t os, ((callLine none .none 1 true).withHistory (.start true) CallPast.next).Run Always p t ∧
      ((callLine none .none 1 true).withHistory (.start true) CallPast.next).step p
        (.closed ⟨some "Connection reset by peer [104]".toList, true⟩) = some (p', os) ∧
      ∃ state error why, os = [.posted (.callState state error why)] ∧ state ≠ .ended := by
  obtain ⟨p, t, hrun, hend⟩ := exists_run_of_exec
    (M := (callLine none .none 1 true).withHistory (.start true) CallPast.next) (fun _ _ => true)
    (s := (.wrapNew 1 true, .start true)) ⟨rfl, rfl⟩ [.ringing true, .established 2000 true, .hold true]
    (fun p _ => p.1.bc && decide (p.2.reported = .held)) (by decide +kernel)
  simp only [Bool.and_eq_true, decide_eq_true_eq] at hend
  obtain ⟨hbc, hheld⟩ := hend
  have hstep : ((callLine none .none 1 true).withHistory (.start true) CallPast.next).step p
      (.closed ⟨some "Connection reset by peer [104]".toList, true⟩) = some ((_, _), _) :=
    withHistory_step.mpr ⟨by simp only [callLine, CallLine.enabled, hbc, if_true]; rfl, rfl⟩
  obtain ⟨state, error, why, hos, -, -, hended⟩ := closing_verdict hrun.always hstep hbc rfl
  refine ⟨p, _, t, _, hrun.always, hstep, state, error, why, hos, fun h => ?_⟩
  have hup := (hended.mp h).2 (by decide +kernel)
  rw [hheld] at hup
  cases hup.1

end Results

end VoxSdk
