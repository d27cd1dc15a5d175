import Mathlib.Logic.Function.Basic
import VoxSdk.Lib.CountedQueue
import VoxSdk.Lib.Machine

/-!
# Call wrappers and who owns them

`struct voxsdk_call` wraps a call of baresip. It is created with one reference, for the call list; when the
call closes that reference goes to the queued event that says so (`deref_after_deliver`), from there, in
owned mode, to the clone the application gets, and ends with the event or the clone (`call.c`, `event.c`,
`sdp.c`, `netmon.c`).

re_main runs one handler to its end before the next, so a handler is a step; the event thread and the
application take theirs in between. `ua_hangup` and `ua_answer` are baresip's: whether they report
BEVENT_CALL_CLOSED before they return is an argument, and so is whether an allocation succeeds.
-/

namespace VoxSdk

open Reactive

/-- What an event says, as far as it points to a call wrapper. -/
inductive QevKind where
  | incoming (id : Nat)
  | callState (id : Nat)
  | sdp (id : Nat)
  | closed (call : Option Nat)
  | other
  deriving DecidableEq

/-- `struct voxsdk_queued_event`: what it says, and the wrapper it owns a reference to. -/
structure Qev where
  kind : QevKind
  derefAfterDeliver : Option Nat
  deriving DecidableEq

/-- What happens to a wrapper. `touch` is an access on re_main, `refused` an INCOMING_CALL that could not be
queued, `handed` the call of `vox_event_post_qev` that takes over the reference, `ended` the delivery or the
loss of the event that ends the call. `released` is the creating reference, `unref` one that a clone of an
SDP event took. -/
inductive WrapperOut where
  | created (id : Nat)
  | touch (id : Nat)
  | refused (id : Nat)
  | handed (id : Nat)
  | ended (id : Nat)
  | released (id : Nat)
  | unref (id : Nat)
  deriving DecidableEq

/-- The wrappers, numbered as they are created, with their reference counts and whether they are on `s_calls`
and have a `bc`; the event queue, the handler, the event the event thread is delivering, and the clones the
application has not released. `out` collects what the handler now running has done. -/
structure CallWrappers where
  next : Nat
  refs : Nat → Nat
  listed : Nat → Bool
  bc : Nat → Bool
  queue : CountedQueue Qev
  cb : Bool
  owned : Bool
  delivering : Option Qev
  kept : List Qev
  out : List WrapperOut

namespace CallWrappers

def emit (o : WrapperOut) (s : CallWrappers) : CallWrappers := { s with out := s.out ++ [o] }

/-- `mem_deref` of a wrapper. -/
def memDeref (id : Nat) (s : CallWrappers) : CallWrappers :=
  { s with refs := Function.update s.refs id (s.refs id - 1) }

/-- `mem_ref` of a wrapper. -/
def memRef (id : Nat) (s : CallWrappers) : CallWrappers :=
  { s with refs := Function.update s.refs id (s.refs id + 1) }

/-- The event that ends a call is delivered, or lost. -/
def endsCall (kind : QevKind) (s : CallWrappers) : CallWrappers :=
  match kind with
  | .closed (some id) => s.emit (.ended id)
  | _ => s

/-- `mem_deref` of a queued event: `qev_destructor` releases what it owns. -/
def derefQev (ev : Qev) (s : CallWrappers) : CallWrappers :=
  match ev.derefAfterDeliver with
  | none => s
  | some id =>
      (s.memDeref id).emit (match ev.kind with | .closed _ => .released id | _ => .unref id)

/-- `vox_event_post_qev`: an event that finds the queue full is gone. -/
def postQev (ev : Qev) (s : CallWrappers) : Bool × CallWrappers :=
  match s.queue.push ev with
  | none => (false, (s.endsCall ev.kind).derefQev ev)
  | some queue => (true, { s with queue })

/-! ### Handlers on re_main -/

/-- `vox_call_wrap_new`, with `vox_call_register` at its end. -/
def wrapNew (s : CallWrappers) : CallWrappers :=
  { s with
    next := s.next + 1
    refs := Function.update s.refs s.next 1
    listed := Function.update s.listed s.next true
    bc := Function.update s.bc s.next true }.emit (.created s.next)

/-- `vox_call_unregister`. -/
def unregister (id : Nat) (s : CallWrappers) : CallWrappers :=
  { s with listed := Function.update s.listed id false }.emit (.touch id)

/-- An INCOMING_CALL that could not be queued takes its wrapper with it. -/
def dropIncoming (id : Nat) (s : CallWrappers) : CallWrappers :=
  (((s.emit (.refused id)).unregister id).memDeref id).emit (.released id)

/-- `bevent_handler`, BEVENT_CALL_INCOMING. -/
def beventIncoming (wrapOk qevOk : Bool) (s : CallWrappers) : CallWrappers :=
  if !wrapOk then s
  else
    let id := s.next
    let s := s.wrapNew
    if !qevOk then s.dropIncoming id
    else
      match s.postQev { kind := .incoming id, derefAfterDeliver := none } with
      | (true, s) => s
      | (false, s) => s.dropIncoming id

/-- `invite_fn`, once `ua_connect` has produced the call. -/
def inviteFn (wrapOk : Bool) (s : CallWrappers) : CallWrappers := if wrapOk then s.wrapNew else s

/-- `bevent_handler`, BEVENT_CALL_CLOSED of a call that is on the list. -/
def beventClosed (id : Nat) (qevOk : Bool) (s : CallWrappers) : CallWrappers :=
  let s := { s with bc := Function.update s.bc id false }.unregister id
  if qevOk then
    ((s.emit (.handed id)).postQev { kind := .closed (some id), derefAfterDeliver := some id }).2
  else s

/-- The handlers of a call's other events find the wrapper on the list, and post an event that points to
it without owning it. -/
def visit (id : Nat) (kind : QevKind) (qevOk : Bool) (s : CallWrappers) : CallWrappers :=
  let s := s.emit (.touch id)
  if qevOk then (s.postQev { kind, derefAfterDeliver := none }).2 else s

/-- `bevent_handler`, the cases that report a state of the call. -/
def beventCallState (id : Nat) (qevOk : Bool) (s : CallWrappers) : CallWrappers :=
  s.visit id (.callState id) qevOk

/-- `vox_sdp_handle_event`, when both sides of the exchange are there. -/
def sdpHandleEvent (id : Nat) (qevOk : Bool) (s : CallWrappers) : CallWrappers :=
  s.visit id (.sdp id) qevOk

/-- `ua_hangup` and `ua_answer`, as far as they end the call: BEVENT_CALL_CLOSED is handled before they
return, or not. -/
def uaEnds (id : Nat) (closesNow qevOk : Bool) (s : CallWrappers) : CallWrappers :=
  if closesNow && s.listed id then s.beventClosed id qevOk else s

/-- `setup_watch_handler`, for one call of its snapshot. -/
def setupWatchHandler (id : Nat) (closesNow qevOk : Bool) (s : CallWrappers) : CallWrappers :=
  (s.emit (.touch id)).uaEnds id closesNow qevOk

/-- `fail_migration`, with `hangup_on_fail`: the event that reports the failure comes first. -/
def failMigration (id : Nat) (emitOk closesNow qevOk : Bool) (s : CallWrappers) : CallWrappers :=
  (s.visit id .other emitOk).uaEnds id closesNow qevOk

/-- `hangup_fn`. -/
def hangupFn (id : Nat) (closesNow qevOk : Bool) (s : CallWrappers) : CallWrappers :=
  let s := s.emit (.touch id)
  if !s.bc id then s
  else
    -- `lc->state` is written after `ua_hangup` has returned
    (s.uaEnds id closesNow qevOk).emit (.touch id)

/-- `reject_fn`, which writes `lc->state` for a call that is already closed as well. -/
def rejectFn (id : Nat) (closesNow qevOk : Bool) (s : CallWrappers) : CallWrappers :=
  let s := s.emit (.touch id)
  let s := if s.bc id then s.uaEnds id closesNow qevOk else s
  s.emit (.touch id)

/-- `answer_fn`. -/
def answerFn (id : Nat) (closesNow qevOk : Bool) (s : CallWrappers) : CallWrappers :=
  let s := s.emit (.touch id)
  if !s.bc id then s else s.uaEnds id closesNow qevOk

/-- `hold_fn`, `dtmf_fn`, `transfer_fn`, `call_info_fn`: what the application asks of a call without
ending it. -/
def holdFn (id : Nat) (s : CallWrappers) : CallWrappers := s.emit (.touch id)

/-! ### The event thread and the application -/

/-- `qev_clone`: the clone takes the reference over, and one of its own for an SDP event. -/
def qevClone (old : Qev) (s : CallWrappers) : Qev × CallWrappers :=
  match old.kind, old.derefAfterDeliver with
  | .sdp id, none => ({ old with derefAfterDeliver := some id }, s.memRef id)
  | _, _ => (old, s)

/-- `event_thread_fn`, from taking an event to calling the callback, or to dropping the event if there is no
callback to call or nothing to call it with. -/
def takeEvent (cloneOk : Bool) (ev : Qev) (s : CallWrappers) : CallWrappers :=
  let s := s.endsCall ev.kind
  if !s.cb then s.derefQev ev
  else if !s.owned then { s with delivering := some ev }
  else if !cloneOk then s.derefQev ev
  else
    let (own, s) := s.qevClone ev
    { s with kept := s.kept ++ [own], delivering := some { ev with derefAfterDeliver := none } }

/-- The callback has returned: `mem_deref(qev)`. -/
def callbackReturns (ev : Qev) (s : CallWrappers) : CallWrappers :=
  { s with delivering := none }.derefQev ev

/-- `voxsdk_event_release` of the clone at place `i`. -/
def eventRelease (i : Nat) (ev : Qev) (s : CallWrappers) : CallWrappers :=
  { s with kept := s.kept.eraseIdx i }.derefQev ev

end CallWrappers

/-- What can happen to the wrappers. -/
inductive WrapperAct where
  | incoming (wrapOk qevOk : Bool)
  | invite (wrapOk : Bool)
  | closed (id : Nat) (qevOk : Bool)
  | callState (id : Nat) (qevOk : Bool)
  | sdpEvent (id : Nat) (qevOk : Bool)
  | otherEvent (kind : QevKind)
  | setupWatch (id : Nat) (closesNow qevOk : Bool)
  | failMigration (id : Nat) (emitOk closesNow qevOk : Bool)
  | hangup (id : Nat) (closesNow qevOk : Bool)
  | reject (id : Nat) (closesNow qevOk : Bool)
  | answer (id : Nat) (closesNow qevOk : Bool)
  | hold (id : Nat)
  | setEventHandler (cb owned : Bool)
  | takeEvent (cloneOk : Bool)
  | callbackReturns
  | eventRelease (i : Nat)

namespace CallWrappers

/-- A step, if it can be taken: a call's own events need it to be on the list, the application's need a
handle, and the event thread takes one event at a time. -/
def act (s : CallWrappers) : WrapperAct → Option CallWrappers
  | .incoming wrapOk qevOk => some (s.beventIncoming wrapOk qevOk)
  | .invite wrapOk => some (s.inviteFn wrapOk)
  | .closed id qevOk => if s.listed id then some (s.beventClosed id qevOk) else none
  | .callState id qevOk => if s.listed id then some (s.beventCallState id qevOk) else none
  | .sdpEvent id qevOk => if s.listed id then some (s.sdpHandleEvent id qevOk) else none
  | .otherEvent kind =>
      match kind with
      | .closed none | .other => some (s.postQev { kind, derefAfterDeliver := none }).2
      | _ => none
  | .setupWatch id closesNow qevOk =>
      if s.listed id then some (s.setupWatchHandler id closesNow qevOk) else none
  | .failMigration id emitOk closesNow qevOk =>
      if s.listed id then some (s.failMigration id emitOk closesNow qevOk) else none
  | .hangup id closesNow qevOk => if id < s.next then some (s.hangupFn id closesNow qevOk) else none
  | .reject id closesNow qevOk => if id < s.next then some (s.rejectFn id closesNow qevOk) else none
  | .answer id closesNow qevOk => if id < s.next then some (s.answerFn id closesNow qevOk) else none
  | .hold id => if id < s.next then some (s.holdFn id) else none
  | .setEventHandler cb owned => some { s with cb, owned }
  | .takeEvent cloneOk =>
      match s.delivering, s.queue.pop with
      | none, some (ev, queue) => some ({ s with queue }.takeEvent cloneOk ev)
      | _, _ => none
  | .callbackReturns => s.delivering.map fun ev => s.callbackReturns ev
  | .eventRelease i => s.kept[i]?.map fun ev => s.eventRelease i ev

/-- Nothing done yet. -/
def idle (s : CallWrappers) : CallWrappers := { s with out := [] }

end CallWrappers

/-- The runs of the wrappers, from `voxsdk_init` on. -/
def callWrappers (max : Nat) : Machine CallWrappers WrapperAct WrapperOut where
  init s := ∃ cb owned, s =
    { next := 0
      refs := fun _ => 0
      listed := fun _ => false
      bc := fun _ => false
      queue := .empty max
      cb
      owned
      delivering := none
      kept := []
      out := [] }
  step s a := (s.idle.act a).map fun s' => (s', s'.out)

end VoxSdk
