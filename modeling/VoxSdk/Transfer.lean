import Mathlib.Data.List.Infix
import VoxSdk.CallWrapper
import VoxSdk.Netmon

/-!
# Transfers a peer asks for

An incoming REFER is kept in the wrapper of its call and reported to the application, which answers when it
likes: it accepts, and the SDK dials, or it declines (`transfer.c`). re_main runs one handler to its end before
the next; the event thread and the application take their steps in between.

baresip's calls, which may fail, are arguments, and so is what it reports of the new call before `call_connect`
returns. The report of a REFER goes on the event queue like any other event that owns no wrapper; what it says
is in `asked`, in the order of the queue, and may come to the application at any time.
-/

namespace VoxSdk

open Reactive

/-- What the functions of `transfer.c` return: an error of libre's or one of the SDK's. -/
inductive XferResult where
  | ok
  | errno (err : Errno)
  | sdk (err : VoxError)
  deriving DecidableEq

/-- `voxsdk_ev_transfer_req_t`, without the account. -/
structure TransferReq where
  call : Option Nat
  referToUri : Option CStr
  hasReplaces : Bool
  autoFollowed : Bool
  deriving DecidableEq

/-- What baresip reports of a new call inside `call_connect`; `qevOk` says whether there is memory for the
event. -/
inductive ConnectEvent where
  | callState (qevOk : Bool)
  | sdp (qevOk : Bool)
  | closed (qevOk : Bool)
  deriving DecidableEq

/-- What `transfer_accept_fn` finds on its way: whether the account has a UA, the error of `ua_call_alloc`,
whether there is memory for the wrapper, what is reported of the new call, the error of `call_connect`. -/
structure AcceptEnv where
  ua : Bool
  alloc : Option Errno
  wrapOk : Bool
  events : List ConnectEvent
  connect : Option Errno
  deriving DecidableEq

/-- What comes of it: a REFER is kept for the application, a report is delivered, baresip is asked for a new
call, to connect it, and has; a NOTIFY goes to whoever sent the REFER; a function returns. -/
inductive XferOut where
  | wrapper (o : WrapperOut)
  | stored (id : Nat)
  | told (req : TransferReq)
  | allocated (id : Nat)
  | connect (id : Nat) (uri : CStr)
  | placed (id new : Nat)
  | notify (id : Nat) (scode : Nat)
  | returned (r : XferResult)
  deriving DecidableEq

/-- The call wrappers with what they keep of a REFER, by the wrapper's number; the reports on their way, the
last one delivered for each call, and the calls of `voxsdk_call_transfer_accept` that re_main has not got to,
each with the report it was made on. `out` collects what the handler now running has done. -/
structure Transfers where
  calls : CallWrappers
  xferReferTo : Nat → CStr
  xferPending : Nat → Bool
  asked : List TransferReq
  told : Nat → Option TransferReq
  accepts : List (Nat × Option TransferReq)
  out : List XferOut

namespace Transfers

def emit (o : XferOut) (s : Transfers) : Transfers := { s with out := s.out ++ [o] }

/-- `ctx->result`. -/
def result (r : XferResult) (s : Transfers) : Transfers := s.emit (.returned r)

/-- `lc->xfer_pending = false`. -/
def clearPending (id : Nat) (s : Transfers) : Transfers :=
  { s with xferPending := Function.update s.xferPending id false }

/-! ### The REFER -/

/-- The wrapper's own copy of a Refer-To. -/
def keepRefer (id : Nat) (text : CStr) (s : Transfers) : Transfers :=
  { s with
    xferReferTo := Function.update s.xferReferTo id (strNcpy 256 text)
    xferPending := Function.update s.xferPending id true }.emit (.stored id)

/-- What is reported of a REFER with this Refer-To. -/
def report (call : Option Nat) (text : Option CStr) : TransferReq :=
  { call
    referToUri := text.map (strNcpy 4096)
    hasReplaces := text.any fun t =>
      decide ("?Replaces=".toList <:+: t) || decide ("&Replaces=".toList <:+: t)
    autoFollowed := false }

/-- `vox_transfer_handle_event`. -/
def transferHandleEvent (bc : Option Nat) (text : Option CStr) (qevOk : Bool) (s : Transfers) : Transfers :=
  if !qevOk then s
  else
    let lc := bc.filter s.calls.listed
    let s := match lc, text with
      | some id, some text => s.keepRefer id text
      | _, _ => s
    let (queued, calls) := s.calls.postQev { kind := .other, derefAfterDeliver := none }
    { s with calls, asked := if queued then s.asked ++ [report lc text] else s.asked }

/-! ### Accepting and declining -/

/-- A handler of the new call's events. One that has left the list is not found. -/
def connectEvent (id : Nat) (s : CallWrappers) : ConnectEvent → CallWrappers
  | .callState qevOk =>
      if s.listed id then s.beventCallState id qevOk
      else if qevOk then (s.postQev { kind := .other, derefAfterDeliver := none }).2
      else s
  | .sdp qevOk => if s.listed id then s.sdpHandleEvent id qevOk else s
  | .closed qevOk =>
      if s.listed id then s.beventClosed id qevOk
      else if qevOk then (s.postQev { kind := .closed none, derefAfterDeliver := none }).2
      else s

/-- The new call could not be connected: its wrapper is dropped if it is still on the list. -/
def dropNew (id : Nat) (s : CallWrappers) : CallWrappers :=
  if s.listed id then { s with bc := Function.update s.bc id false }.dropIncoming id else s

/-- `transfer_accept_fn` from `vox_call_wrap_new` on. -/
def connectNew (id : Nat) (env : AcceptEnv) (s : Transfers) : Transfers :=
  let new := s.calls.next
  let s := { s with calls := env.events.foldl (connectEvent new) s.calls.wrapNew }.emit
    (.connect id (s.xferReferTo id))
  match env.connect with
  | some err =>
      ({ s with calls := dropNew new s.calls }.emit (.notify id 500)).clearPending id |>.result (.errno err)
  | none =>
      -- `vox_call_setup_watch_start`
      ({ s with calls := s.calls.emit (.touch new) }.emit (.placed id new)).clearPending id |>.result .ok

/-- `transfer_accept_fn`. -/
def transferAcceptFn (id : Nat) (env : AcceptEnv) (s : Transfers) : Transfers :=
  if !(s.calls.bc id && env.ua) then s.result (.errno .noent)
  else if !s.xferPending id || (s.xferReferTo id).isEmpty then s.result (.sdk .state)
  else
    match env.alloc with
    | some err => (s.emit (.notify id 500)).clearPending id |>.result (.errno err)
    | none =>
        let s := s.emit (.allocated id)
        if env.wrapOk then s.connectNew id env
        else (s.emit (.notify id 500)).clearPending id |>.result (.errno .nomem)

/-- `voxsdk_call_transfer_accept`, as far as the application's thread takes it; `dispatch` is the error of
`vox_dispatch_sync`. -/
def transferAccept (dispatch : XferResult) (id : Nat) (s : Transfers) : Transfers :=
  if dispatch = .ok then { s with accepts := s.accepts ++ [(id, s.told id)] } else s.result dispatch

/-- `transfer_reject_fn`; `notify` is the error of `call_notify_sipfrag`. -/
def transferRejectFn (id scode : Nat) (notify : Option Errno) (s : Transfers) : Transfers :=
  if !s.calls.bc id then s.result (.errno .noent)
  else if !s.xferPending id then s.result (.sdk .state)
  else (s.emit (.notify id scode)).clearPending id |>.result (notify.elim .ok .errno)

/-- `voxsdk_call_transfer_reject`. -/
def transferReject (dispatch : XferResult) (id scode : Nat) (notify : Option Errno) (s : Transfers) : Transfers :=
  if scode < 400 ∨ 699 < scode then s.result (.sdk .inval)
  else if dispatch = .ok then s.transferRejectFn id scode notify
  else s.result dispatch

end Transfers

/-- What can happen. `deliver` takes the oldest report to the application, or loses it there; `acceptRuns` is
re_main getting to a call of `voxsdk_call_transfer_accept`. -/
inductive XferAct where
  | wrapper (act : WrapperAct)
  | refer (bc : Option Nat) (text : Option CStr) (qevOk : Bool)
  | deliver (handed : Bool)
  | accept (dispatch : XferResult) (id : Nat)
  | acceptRuns (i : Nat) (env : AcceptEnv)
  | reject (dispatch : XferResult) (id scode : Nat) (notify : Option Errno)

namespace Transfers

/-- A report reaches the application. -/
def hear (req : TransferReq) (s : Transfers) : Transfers :=
  { s with
    told := match req.call with
      | some id => Function.update s.told id (some req)
      | none => s.told }.emit (.told req)

/-- A step, if it can be taken: the application needs a handle. -/
def act (s : Transfers) : XferAct → Option Transfers
  | .wrapper act => (s.calls.act act).map fun calls => { s with calls }
  | .refer bc text qevOk => some (s.transferHandleEvent bc text qevOk)
  | .deliver handed =>
      match s.asked with
      | [] => none
      | req :: asked => some (if handed then { s with asked }.hear req else { s with asked })
  | .accept dispatch id => if id < s.calls.next then some (s.transferAccept dispatch id) else none
  | .acceptRuns i env =>
      s.accepts[i]?.map fun p => { s with accepts := s.accepts.eraseIdx i }.transferAcceptFn p.1 env
  | .reject dispatch id scode notify =>
      if id < s.calls.next then some (s.transferReject dispatch id scode notify) else none

/-- Nothing done yet. -/
def idle (s : Transfers) : Transfers := { s with calls := s.calls.idle, out := [] }

/-- What the handler has done, the wrappers first. -/
def outs (s : Transfers) : List XferOut := s.calls.out.map .wrapper ++ s.out

end Transfers

/-- The runs of the transfers, from `voxsdk_init` on. -/
def transferSystem (max : Nat) : Machine Transfers XferAct XferOut where
  init s := ∃ calls, (callWrappers max).init calls ∧ s =
    { calls
      xferReferTo := fun _ => []
      xferPending := fun _ => false
      asked := []
      told := fun _ => none
      accepts := []
      out := [] }
  step s a := (s.idle.act a).map fun s' => (s', s'.outs)

end VoxSdk
