import VoxSdk.QevClone

/-!
# The state of a call

What `bevent_handler` makes of what baresip reports of one call, and what the application does to it and reads of it
(`event.c`, `call.c`): the CALL_STATE events, `lc->state`, and the hold of our own, which is kept apart from it.

Whether a call of baresip's succeeds is an argument, and so is whether `ua_hangup` and `ua_answer` report
BEVENT_CALL_CLOSED before they return, and with which text. An event may find no memory or no room in the queue; what
it reports of the call is in the wrapper all the same.
-/

namespace VoxSdk

open Reactive

/-- The states a call does not leave. -/
def CallState.isOver : CallState → Bool
  | .ended | .cancelled | .failed => true
  | .calling | .ringing | .established | .held => false

/-- `struct voxsdk_call`, as far as its state goes. `bc` says whether baresip's call is there, and with it whether
`vox_call_find` finds the wrapper. -/
structure CallLine where
  id : Nat
  bc : Bool
  state : CallState
  localHold : Bool
  statsCallStart : Nat

/-- An event for the application. -/
inductive LineEvent where
  | callState (state : CallState) (error : VoxError) (reason : Option CStr)
  | dtmf (digit : Char)
  | transferFailed (reason : Option CStr)
  deriving DecidableEq

/-- What becomes of an event: it is queued, or dropped where `vox_qev_alloc` finds no memory for it or the queue is
full. -/
inductive LineOut where
  | posted (ev : LineEvent)
  | dropped (ev : LineEvent)
  deriving DecidableEq

/-- `vox_event_post` and `vox_event_post_qev`: `posts` is whether there is memory for the event and room for it. -/
def postEvent (posts : Bool) (ev : LineEvent) : List LineOut := [if posts then .posted ev else .dropped ev]

/-- A BEVENT_CALL_CLOSED: its text, and whether the event it leads to is queued. -/
structure CallClosing where
  reason : Option CStr
  posts : Bool
  deriving DecidableEq

/-- What baresip reports, then what the application and the SDK's timers ask for. `closes` is a BEVENT_CALL_CLOSED that
is handled on the way. -/
inductive LineAct where
  /-- BEVENT_CALL_RINGING, BEVENT_CALL_PROGRESS -/
  | ringing (posts : Bool)
  /-- BEVENT_CALL_ANSWERED, BEVENT_CALL_ESTABLISHED -/
  | established (now : Nat) (posts : Bool)
  | hold (posts : Bool)
  | resume (posts : Bool)
  | dtmf (text : Option CStr) (posts : Bool)
  /-- `copies` is whether there is memory for an event that keeps the reason -/
  | transferFailed (reason : Option CStr) (copies posts : Bool)
  | closed (closing : CallClosing)
  /-- `voxsdk_call_hold`, `voxsdk_call_resume`, and what `call_hold` answers -/
  | callHold (hold : Bool) (err : Nat)
  | hangup (closes : Option CallClosing)
  | reject (closes : Option CallClosing)
  | answer (closes : Option CallClosing)
  /-- `setup_watch_handler` and `fail_migration` -/
  | giveUp (closes : Option CallClosing)
  deriving DecidableEq

namespace CallLine

/-- `vox_call_wrap_new`, for a call that goes out or comes in. -/
def wrapNew (id : Nat) (outgoing : Bool) : CallLine where
  id := id
  bc := true
  state := if outgoing then .calling else .ringing
  localHold := false
  statsCallStart := 0

/-- The cases of `bevent_handler` that report a state of the call. -/
def report (state : CallState) (posts : Bool) (s : CallLine) : CallLine × List LineOut :=
  ({ s with state }, postEvent posts (.callState state .ok none))

/-- BEVENT_CALL_ESTABLISHED, which comes after BEVENT_CALL_ANSWERED and starts the clock again. -/
def beventEstablished (now : Nat) (posts : Bool) (s : CallLine) : CallLine × List LineOut :=
  { s with statsCallStart := now }.report .established posts

/-- BEVENT_CALL_DTMF_START and BEVENT_CALL_DTMF_END. -/
def beventDtmf (text : Option CStr) (posts : Bool) : List LineOut :=
  match text with
  | none | some [] => []
  | some (digit :: _) => postEvent posts (.dtmf digit)

/-- BEVENT_CALL_TRANSFER_FAILED: without memory for the reason, the event is posted without it. -/
def beventTransferFailed (reason : Option CStr) (copies posts : Bool) : List LineOut :=
  postEvent posts (.transferFailed (if copies then reason else none))

/-- BEVENT_CALL_CLOSED. The wrapper is done with the call before there is an event. -/
def beventClosed (account : Option (Nat × MediaEnc)) (globalMenc : MediaEnc) (closing : CallClosing) (s : CallLine) :
    CallLine × List LineOut :=
  let c : ClosedCall := { account, call := some (s.id, s.state), reason := closing.reason }
  ({ s with bc := false, state := c.state }, postEvent closing.posts (.callState c.state c.error (c.told globalMenc)))

/-- `hold_fn`. -/
def holdFn (hold : Bool) (err : Nat) (s : CallLine) : CallLine :=
  if !s.bc then s else if err = 0 then { s with localHold := hold } else s

section

variable (account : Option (Nat × MediaEnc)) (globalMenc : MediaEnc)

/-- `ua_hangup` and `ua_answer`, as far as they end the call. -/
def uaEnds (closes : Option CallClosing) (s : CallLine) : CallLine × List LineOut :=
  match closes with
  | none => (s, [])
  | some closing => s.beventClosed account globalMenc closing

/-- `answer_fn`; `setup_watch_handler` and `fail_migration` leave the state to BEVENT_CALL_CLOSED as well. -/
def answerFn (closes : Option CallClosing) (s : CallLine) : CallLine × List LineOut :=
  if !s.bc then (s, []) else s.uaEnds account globalMenc closes

/-- `hangup_fn`. -/
def hangupFn (closes : Option CallClosing) (s : CallLine) : CallLine × List LineOut :=
  if !s.bc then (s, [])
  else
    let (s, os) := s.uaEnds account globalMenc closes
    ({ s with state := .ended }, os)

/-- `reject_fn`, which says that a call has ended even when it has long failed. -/
def rejectFn (closes : Option CallClosing) (s : CallLine) : CallLine × List LineOut :=
  let (s, os) := if s.bc then s.uaEnds account globalMenc closes else (s, [])
  ({ s with state := .ended }, os)

def act (s : CallLine) : LineAct → CallLine × List LineOut
  | .ringing posts => s.report .ringing posts
  | .established now posts => s.beventEstablished now posts
  | .hold posts => s.report .held posts
  | .resume posts => s.report .established posts
  | .dtmf text posts => (s, beventDtmf text posts)
  | .transferFailed reason copies posts => (s, beventTransferFailed reason copies posts)
  | .closed closing => s.beventClosed account globalMenc closing
  | .callHold hold err => (s.holdFn hold err, [])
  | .hangup closes => s.hangupFn account globalMenc closes
  | .reject closes => s.rejectFn account globalMenc closes
  | .answer closes | .giveUp closes => s.answerFn account globalMenc closes

end

/-- baresip reports nothing of a call it has freed. -/
def enabled (s : CallLine) : LineAct → Bool
  | .ringing _ | .established .. | .hold _ | .resume _ | .dtmf .. | .transferFailed .. | .closed _ => s.bc
  | .callHold .. | .hangup _ | .reject _ | .answer _ | .giveUp _ => true

/-! ### What the application reads -/

/-- `call_info_fn`: `duration_ms`. -/
def durationMs (now : Nat) (s : CallLine) : Nat := if s.statsCallStart ≠ 0 then now - s.statsCallStart else 0

end CallLine

/-- A call of an account that is found, or is not, and which asks for the encryption named. -/
def callLine (account : Option (Nat × MediaEnc)) (globalMenc : MediaEnc) (id : Nat) (outgoing : Bool) :
    Machine CallLine LineAct LineOut where
  init s := s = .wrapNew id outgoing
  step s act := if s.enabled act then some (s.act account globalMenc act) else none

end VoxSdk
