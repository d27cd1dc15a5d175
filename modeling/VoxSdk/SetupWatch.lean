import VoxSdk.Lib.Machine
import VoxSdk.Lib.Sweep
import VoxSdk.Netmon

/-!
# The call-setup watchdog

An INVITE that nobody answers is given up after `sip_timer_b_ms`. One timer serves every call: it visits
the call list under its lock, notes which calls are past their deadline in a snapshot, and cancels those
once the lock is released (`call.c`). What else happens to a call reaches the watchdog through
`lc->state` and `lc->setup_start` (`event.c`, `transfer.c`, `account.c`).

re_main runs one handler to its end before the next, so a handler is a step. Whether `ua_hangup` reports
BEVENT_CALL_CLOSED before it returns is baresip's, and an argument.
-/

namespace VoxSdk

open Reactive

/-- `VOX_SETUP_TICK_MS`. -/
def setupTickMs : Nat := 500

/-- `VOX_SETUP_MAX_SNAP`. -/
def setupMaxSnap : Nat := 64

/-- `struct voxsdk_call`, as far as the watchdog goes. `ua` says whether `lc->acct->ua` is there. -/
structure SetupCall where
  id : Nat
  acct : Nat
  state : CallState
  setupStart : Nat
  bc : Bool
  ua : Bool
  deriving DecidableEq

/-- What happens to a call: the INVITE, noted where its watch starts, each write of `lc->state`, the end of
the call, and `ua_hangup` as the watchdog calls it. -/
inductive SetupOut where
  | invited (id sentAt : Nat)
  | state (id : Nat) (state : CallState)
  | closed (id : Nat)
  | hangup (id scode : Nat)
  deriving DecidableEq

/-- baresip's events for a call that has a wrapper. -/
inductive SetupEvent where
  | ringing
  | answered
  | hold
  | resume
  | closed
  deriving DecidableEq

namespace SetupCall

variable (limit now : Nat)

/-- `vox_call_wrap_new`. -/
def wrapNew (id acct : Nat) (state : CallState) : SetupCall :=
  { id, acct, state, setupStart := 0, bc := true, ua := true }

/-- `setup_visit`, where it ends the watch. -/
def setupVisit (c : SetupCall) : SetupCall :=
  if c.setupStart = 0 then c
  else if c.state ≠ .calling then { c with setupStart := 0 }
  else if limit = 0 then { c with setupStart := 0 }
  else c

/-- `setup_visit`, for a call it leaves under watch: still inside the deadline. -/
def inDeadline (c : SetupCall) : Bool :=
  decide (c.setupStart ≠ 0) && decide (now - c.setupStart < limit)

/-- `setup_visit`, for a call it leaves under watch: a candidate for the snapshot. -/
def overdue (c : SetupCall) : Bool :=
  decide (c.setupStart ≠ 0) && !decide (now - c.setupStart < limit)

/-- `setup_watch_handler`, for one call of the snapshot. A call that is closed before `ua_hangup` returns
has lost its `bc`. -/
def cancelSetup (closesNow : Nat → Bool) (c : SetupCall) : SetupCall × List SetupOut :=
  if !c.bc || !c.ua then ({ c with setupStart := 0 }, [])
  else if closesNow c.id then
    ({ c with setupStart := 0, bc := false }, [.hangup c.id 408, .closed c.id])
  else ({ c with setupStart := 0 }, [.hangup c.id 408])

end SetupCall

/-- The clock, the call list and `s_setup_tmr`. Calls are numbered as they are created. -/
structure SetupWatch where
  now : Nat
  next : Nat
  calls : List SetupCall
  tmr : Timer

namespace SetupWatch

variable (limit : Nat)

def onCall (id : Nat) (f : SetupCall → SetupCall) (s : SetupWatch) : SetupWatch :=
  { s with calls := s.calls.map fun c => if c.id = id then f c else c }

/-- `vox_call_register`, at the end of `vox_call_wrap_new`. -/
def wrapNew (acct : Nat) (state : CallState) (s : SetupWatch) : SetupWatch :=
  { s with next := s.next + 1, calls := s.calls ++ [.wrapNew s.next acct state] }

/-- `vox_call_unregister`. -/
def unregister (id : Nat) (s : SetupWatch) : SetupWatch :=
  { s with calls := s.calls.filter fun c => decide (c.id ≠ id) }

/-- `vox_call_setup_watch_start`. An armed timer is left as it is. -/
def setupWatchStart (id : Nat) (s : SetupWatch) : SetupWatch :=
  if limit = 0 then s
  else
    let s := s.onCall id fun c => { c with setupStart := s.now }
    if s.tmr.isRunning then s else { s with tmr := Timer.start s.now setupTickMs }

/-- `vox_call_find`. -/
def listed (id : Nat) (s : SetupWatch) : Bool := s.calls.any fun c => decide (c.id = id)

/-- A write of `lc->state`. -/
def setState (id : Nat) (state : CallState) (s : SetupWatch) : SetupWatch × List SetupOut :=
  (s.onCall id fun c => { c with state }, [.state id state])

/-- `bevent_handler`, the cases of a call. -/
def beventHandler (id : Nat) (ev : SetupEvent) (s : SetupWatch) : SetupWatch × List SetupOut :=
  if !s.listed id then (s, [])
  else
    match ev with
    | .ringing => s.setState id .ringing
    | .answered =>
        let (s, os) := s.setState id .established
        -- `vox_call_setup_watch_cancel`
        (s.onCall id fun c => { c with setupStart := 0 }, os)
    | .hold => s.setState id .held
    | .resume => s.setState id .established
    | .closed => (s.unregister id, [.closed id])

/-- Several events, one after the other. -/
def beventHandlers (id : Nat) (evs : List SetupEvent) (s : SetupWatch) :
    SetupWatch × List SetupOut :=
  evs.foldl (fun (s, os) ev => let (s, os') := s.beventHandler id ev; (s, os ++ os')) (s, [])

/-- `ua_hangup` for a call of the app's: closed before it returns, or not. -/
def uaHangup (id : Nat) (closesNow : Bool) (s : SetupWatch) : SetupWatch × List SetupOut :=
  if closesNow then s.beventHandler id .closed else (s, [])

/-! ### Handlers -/

/-- `bevent_handler`, BEVENT_CALL_INCOMING. -/
def beventIncoming (acct : Nat) (s : SetupWatch) : SetupWatch × List SetupOut :=
  (s.wrapNew acct .ringing, [.state s.next .ringing])

/-- `invite_fn`, once `ua_connect` has produced the call. -/
def inviteFn (acct : Nat) (s : SetupWatch) : SetupWatch × List SetupOut :=
  ((s.wrapNew acct .calling).setupWatchStart limit s.next, [.invited s.next s.now])

/-- `transfer_accept_fn`: the wrapper is there before `call_connect`, which reports the events `evs` and may
fail. -/
def transferAcceptFn (acct : Nat) (evs : List SetupEvent) (connected : Bool) (s : SetupWatch) :
    SetupWatch × List SetupOut :=
  let id := s.next
  let (s, os) := (s.wrapNew acct .calling).beventHandlers id evs
  if connected then (s.setupWatchStart limit id, os ++ [.invited id s.now])
  else (s.unregister id, os)

/-- `hangup_fn`. -/
def hangupFn (id : Nat) (closesNow : Bool) (s : SetupWatch) : SetupWatch × List SetupOut :=
  -- a wrapper off the list has no `bc`
  if !s.listed id then (s, [])
  else
    let (s, os) := s.uaHangup id closesNow
    let (s, os') := s.setState id .ended
    (s, os ++ os')

/-- `reject_fn`, which writes `lc->state` of a closed call as well. -/
def rejectFn (id : Nat) (closesNow : Bool) (s : SetupWatch) : SetupWatch × List SetupOut :=
  let (s, os) := s.uaHangup id closesNow
  let (s, os') := s.setState id .ended
  (s, os ++ os')

/-- `destroy_fn`: baresip closes some of the account's calls, and the user agent of the others is gone. -/
def destroyFn (acct : Nat) (closesNow : Nat → Bool) (s : SetupWatch) : SetupWatch × List SetupOut :=
  let closes (c : SetupCall) := decide (c.acct = acct) && closesNow c.id
  ({ s with
    calls := (s.calls.filter fun c => !closes c).map fun c =>
      if c.acct = acct then { c with ua := false } else c },
    (s.calls.filter closes).map fun c => .closed c.id)

/-- `setup_watch_handler`. -/
def setupWatchHandler (closesNow : Nat → Bool) (s : SetupWatch) : SetupWatch × List SetupOut :=
  let calls := s.calls.map (SetupCall.setupVisit limit)
  let more := calls.any (SetupCall.inDeadline limit s.now)
  let (calls, os) := sweep (SetupCall.overdue limit s.now) (SetupCall.cancelSetup closesNow)
    setupMaxSnap calls
  -- BEVENT_CALL_CLOSED has taken the wrappers without a `bc` off the list
  ({ s with
    calls := calls.filter SetupCall.bc
    tmr := if more then Timer.start s.now setupTickMs else none }, os)

end SetupWatch

/-- What can happen while the loop runs. -/
inductive SetupAct where
  | incoming (acct : Nat)
  | invite (acct : Nat)
  | transferAccept (acct : Nat) (evs : List SetupEvent) (connected : Bool)
  | bevent (id : Nat) (ev : SetupEvent)
  | hangup (id : Nat) (closesNow : Bool)
  | reject (id : Nat) (closesNow : Bool)
  | destroyAccount (acct : Nat) (closesNow : Nat → Bool)
  | setupTimer (closesNow : Nat → Bool)
  | elapse (ms : Nat)

/-- A handler, if it can run: the timer has to be due, and the app needs a handle. -/
def SetupWatch.act (limit : Nat) (s : SetupWatch) : SetupAct → Option (SetupWatch × List SetupOut)
  | .incoming acct => some (s.beventIncoming acct)
  | .invite acct => some (s.inviteFn limit acct)
  | .transferAccept acct evs connected => some (s.transferAcceptFn limit acct evs connected)
  | .bevent id ev => some (s.beventHandler id ev)
  | .hangup id closesNow => if id < s.next then some (s.hangupFn id closesNow) else none
  | .reject id closesNow => if id < s.next then some (s.rejectFn id closesNow) else none
  | .destroyAccount acct closesNow => some (s.destroyFn acct closesNow)
  | .setupTimer closesNow =>
      if s.tmr.isDue s.now then some (s.setupWatchHandler limit closesNow) else none
  | .elapse ms => some ({ s with now := s.now + ms }, [])

/-- The runs of the watchdog with `sip_timer_b_ms` at `limit`, from the start of the loop on. `tmr_jiffies`
counts from before. -/
def setupWatch (limit : Nat) : Machine SetupWatch SetupAct SetupOut where
  init s := s.now ≠ 0 ∧ s.next = 0 ∧ s.calls = [] ∧ s.tmr = none
  step s act := s.act limit act

end VoxSdk
