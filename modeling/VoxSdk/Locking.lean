import VoxSdk.Lib.LockOrder

/-!
# Who has which list

The SDK runs on re_main. The app's threads hand it work and wait (`vox_dispatch_sync`), or do not wait
(`vox_dispatch`); on re_main itself the work is done on the spot. Both sides take three mutexes: that of the call
list (`call.c`), that of the account list (`account.c`) and that of the app's own audio device
(`audio_external.c`). `voxsdk_call_foreach` and `voxsdk_account_foreach` run the app's callback while they have the
mutex of their list, `voxsdk_audio_external_push` runs the encoder and its media tap while it has that of the device,
and a switch of devices opens and closes devices while it has that of the call list (`audio.c`).

A function is what it does with these three. Of the others, `g_vox.lock` is that of init, shutdown and the change of
the event handler, and the rest are released before another is taken. How often baresip opens or closes a device, and
which of its events come while a function runs, are arguments.
-/

namespace VoxSdk

open Reactive

/-- `s_calls_lock`, `g_vox.acct_lock` and `s_lock` of `audio_external.c`. -/
inductive Mutex where
  | calls
  | accounts
  | external
  deriving DecidableEq, Repr

/-- An order of the mutexes that agrees with re_main's. -/
def Mutex.rank : Mutex → Nat
  | .calls => 0
  | .accounts => 1
  | .external => 2

/-- What takes a mutex on re_main. -/
inductive ReStep where
  /-- `vox_call_find`, `vox_call_register`, `vox_call_unregister`, `snapshot_calls`, `tap_find_call`, and the visits
  of the watchdog and the statistics -/
  | calls
  /-- `vox_account_find_by_ua`, `acct_is_live`, `snapshot_accounts`, and where an account enters and leaves the list -/
  | accounts
  /-- `ext_src_alloc`, `ausrc_destructor`, `ext_play_alloc`, `auplay_destructor` -/
  | device
  /-- `vox_call_foreach` with `update_call_device`, which opens and closes so many devices of the app -/
  | updateCallDevices (devices : Nat)
  deriving DecidableEq, Repr

/-- A function on re_main. -/
abbrev ReFn := List ReStep

abbrev VoxOp := LockOp Mutex ReFn

namespace ReStep

def ops : ReStep → List VoxOp
  | .calls => LockOp.critical .calls []
  | .accounts => LockOp.critical .accounts []
  | .device => LockOp.critical .external []
  | .updateCallDevices devices =>
      LockOp.critical .calls (List.replicate devices (LockOp.critical .external [])).flatten

/-- The mutex is taken. -/
def takes (m : Mutex) : ReStep → Bool
  | .calls => m == .calls
  | .accounts => m == .accounts
  | .device => m == .external
  | .updateCallDevices devices => m == .calls || m == .external && devices != 0

end ReStep

namespace ReFn

def ops (fn : ReFn) : List VoxOp := fn.flatMap ReStep.ops

def takes (m : Mutex) (fn : ReFn) : Bool := fn.any (ReStep.takes m)

end ReFn

/-! ### Functions on re_main -/

/-- What `bevent_handler` does with an event, as far as a list is involved: an incoming call, which may get no
wrapper and whose event may be dropped, the end of a call, its SDP, a REFER, a message summary. -/
inductive BeventCase where
  | incoming (wrapped posted : Bool)
  | closed
  | sdp
  | transfer
  | mwi
  | other
  deriving DecidableEq, Repr

/-- `bevent_handler` of an event with or without a user agent and a call, and `lc` is what `vox_call_find` found. -/
def beventHandler (ua bc lc : Bool) (what : BeventCase) : ReFn :=
  let findByUa : ReFn := if ua then [.accounts] else []
  let findCall : ReFn := if bc then [.calls] else []
  findByUa ++ findCall ++
    match what with
    | .incoming wrapped posted => if !wrapped then [] else if posted then [.calls] else [.calls, .calls]
    | .closed => if lc then [.calls] else []
    | .sdp => findCall
    | .transfer => findCall ++ findByUa
    | .mwi => findByUa
    | .other => []

/-- `setup_watch_handler`: what `ua_hangup` brings about comes after the visit. -/
def setupWatchHandler (hangups : ReFn) : ReFn := .calls :: hangups

/-- `invite_fn`; `meanwhile` is what `ua_connect` brings about. -/
def inviteFn (meanwhile : ReFn) (connected : Bool) : ReFn := if connected then meanwhile ++ [.calls] else meanwhile

/-- `create_fn`, when nothing fails. -/
def createFn : ReFn := [.accounts]

/-- `destroy_fn`. -/
def destroyFn (hangups : ReFn) : ReFn := hangups ++ [.accounts]

/-- `set_input_fn`, `set_output_fn`. -/
def setDeviceFn (devices : Nat) : ReFn := [.updateCallDevices devices]

/-- `use_external_fn`. -/
def useExternalFn (enable hasPlatform : Bool) (sources players : Nat) : ReFn :=
  if enable || hasPlatform then [.updateCallDevices sources, .updateCallDevices players] else []

/-! ### The app -/

/-- What an app's thread does: it calls a function that waits for re_main or one that does not, goes through a list
with a callback, moves audio of its own device, or is the thread of a platform device that comes to the media tap.
`finds` is how often the tap has no call yet and looks for it, `inside` what the callbacks do. To ask for the format
of the device is to take its mutex as `externalPull` does. -/
inductive AppCode where
  | done
  | dispatchSync (fn : ReFn) (rest : AppCode)
  | dispatch (fn : ReFn) (rest : AppCode)
  | callForeach (inside rest : AppCode)
  | accountForeach (inside rest : AppCode)
  | externalPush (finds : Nat) (inside rest : AppCode)
  | externalPull (rest : AppCode)
  | tapEncode (finds : Nat) (inside rest : AppCode)
  deriving DecidableEq, Repr

/-- `tap_find_call`, so often. -/
def tapFindCall (finds : Nat) : List VoxOp := (List.replicate finds (LockOp.critical .calls [])).flatten

namespace AppCode

def ops : AppCode → List VoxOp
  | .done => []
  | .dispatchSync fn rest => .sync fn :: rest.ops
  | .dispatch fn rest => .post fn :: rest.ops
  | .callForeach inside rest => LockOp.critical .calls inside.ops ++ rest.ops
  | .accountForeach inside rest => LockOp.critical .accounts inside.ops ++ rest.ops
  | .externalPush finds inside rest => LockOp.critical .external (tapFindCall finds ++ inside.ops) ++ rest.ops
  | .externalPull rest => LockOp.critical .external [] ++ rest.ops
  | .tapEncode finds inside rest => tapFindCall finds ++ inside.ops ++ rest.ops

/-- Everything that is had comes before the mutex. -/
def mayTake (rank : Mutex → Nat) (held : List Mutex) (m : Mutex) : Bool := held.all fun h => rank h < rank m

/-- The app keeps to an order of the mutexes, and waits for re_main only outside every callback. -/
def orderly (rank : Mutex → Nat) : List Mutex → AppCode → Bool
  | _, .done => true
  | held, .dispatchSync _ rest => held.isEmpty && rest.orderly rank held
  | held, .dispatch _ rest => rest.orderly rank held
  | held, .callForeach inside rest =>
      mayTake rank held .calls && inside.orderly rank (.calls :: held) && rest.orderly rank held
  | held, .accountForeach inside rest =>
      mayTake rank held .accounts && inside.orderly rank (.accounts :: held) && rest.orderly rank held
  | held, .externalPush finds inside rest =>
      mayTake rank held .external && (finds == 0 || mayTake rank (.external :: held) .calls) &&
        inside.orderly rank (.external :: held) && rest.orderly rank held
  | held, .externalPull rest => mayTake rank held .external && rest.orderly rank held
  | held, .tapEncode finds inside rest =>
      (finds == 0 || mayTake rank held .calls) && inside.orderly rank held && rest.orderly rank held

/-- In a callback a mutex is needed that the thread has: by the function it waits for, or by the thread. -/
def traps : List Mutex → AppCode → Bool
  | _, .done => false
  | held, .dispatchSync fn rest => held.any (fun m => fn.takes m) || rest.traps held
  | held, .dispatch _ rest => rest.traps held
  | held, .callForeach inside rest => held.contains .calls || inside.traps (.calls :: held) || rest.traps held
  | held, .accountForeach inside rest =>
      held.contains .accounts || inside.traps (.accounts :: held) || rest.traps held
  | held, .externalPush finds inside rest =>
      held.contains .external || finds != 0 && held.contains .calls || inside.traps (.external :: held) ||
        rest.traps held
  | held, .externalPull rest => held.contains .external || rest.traps held
  | held, .tapEncode finds inside rest =>
      finds != 0 && held.contains .calls || inside.traps held || rest.traps held

end AppCode

/-! ### Runs -/

inductive VoxThread where
  | reMain
  | app (n : Nat)
  deriving DecidableEq, Repr

abbrev VoxThreads := Threads VoxThread Mutex ReFn

def idleThreads : VoxThreads where
  holder _ := none
  todo _ := []
  waits _ := false
  asked := []
  serving := none

/-- The threads of a process in which the SDK is up. -/
def voxThreads : Machine VoxThreads (LockAct VoxThread Mutex ReFn) Empty := threadRuns .reMain ReFn.ops

/-- re_main takes up functions of its own and the tap of a call whose audio it handles; everybody else what the app
does. -/
def TakesUp (P : AppCode → Prop) : LockAct VoxThread Mutex ReFn → Prop
  | .enter .reMain ops => (∃ fn, ops = ReFn.ops fn) ∨ ∃ code, P code ∧ ops = code.ops
  | .enter (.app _) ops => ∃ code, P code ∧ ops = code.ops
  | _ => True

end VoxSdk
