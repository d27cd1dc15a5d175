import Mathlib.Logic.Function.Basic
import VoxSdk.Lib.Machine

/-!
# Synchronous callers and the end of the loop

`vox_dispatch_sync` hands a function to the re loop and waits until it has run (`dispatch.c`);
`vox_re_loop_stop` asks the loop to end and joins it (`re_loop.c`); `voxsdk_shutdown` hangs up with the first,
then calls the second, and clears `initialized` as the last thing it does (`core.c`).

The check of `initialized`, the post and the wait are steps of their own, and anything may happen between
them. libre's queue is a bag: `re_thread_async_main` accepts a request or answers an error whenever it is
asked, and the loop runs the accepted requests in any order, while it polls.
-/

namespace VoxSdk

open Reactive

/-- `VOXSDK_ERR_STATE` as an `int`, beside libre's errno values. -/
def errState : Int := -3

/-- The thread `re_main` runs on, and the others. -/
inductive Caller where
  | re
  | app (n : Nat)
  deriving DecidableEq

/-- How far a call of `vox_dispatch_sync` has come: past the check, at `cnd_wait` with its request
accepted, `ctx.finished`, back at its caller. -/
inductive SyncPlace where
  | uncalled
  | checked
  | waiting
  | finished
  | returned
  deriving DecidableEq

/-- `re_main`: polling, `re_cancel` called, returned. -/
inductive ReLoop where
  | polling
  | cancelled
  | exited
  deriving DecidableEq

/-- Where `voxsdk_shutdown` is: not called, in the loop over the accounts, in the call of
`vox_dispatch_sync` it makes for one of them, at `thrd_join`, past it, done. -/
inductive ShutdownPlace where
  | uncalled
  | accounts
  | hangUp (call : Nat)
  | joining
  | closing
  | done
  deriving DecidableEq

/-- `g_vox`, as far as the three functions share it, the requests libre has accepted and not run, and where
each call is. `wakeup` says whether the message to stop is in `re_wakeup_mq`. -/
structure Dispatch where
  initialized : Bool
  reThreadRunning : Bool
  wakeup : Bool
  loop : ReLoop
  pending : List Nat
  down : ShutdownPlace
  place : Nat → SyncPlace

/-- What a call shows: on which thread its function ran, and what the caller got. -/
inductive DispatchOut where
  | ran (on : Caller) (call : Nat)
  | returned (call : Nat) (err : Int)
  deriving DecidableEq

/-- A call goes on by a step, `post` with what `re_thread_async_main` answers; the loop runs a request,
takes the message to stop, returns; `voxsdk_shutdown` goes on by a step. -/
inductive DispatchAct where
  | call (call : Nat) (thread : Caller)
  | post (call : Nat) (err : Int)
  | run (call : Nat)
  | wake (call : Nat)
  | handleWakeup
  | loopExits
  | shutdown
  | hangUp (call n : Nat)
  | hungUp
  | reLoopStop
  | joined
  | clear
  deriving DecidableEq

namespace Dispatch

def goTo (call : Nat) (p : SyncPlace) (s : Dispatch) : Dispatch :=
  { s with place := Function.update s.place call p }

/-- `vox_dispatch_sync` up to `re_thread_async_main`. On the re thread that is all of it. -/
def dispatchSync (call : Nat) (thread : Caller) (s : Dispatch) : Dispatch × List DispatchOut :=
  if !s.initialized then (s.goTo call .returned, [.returned call errState])
  else if s.reThreadRunning && thread = .re then
    (s.goTo call .returned, [.ran thread call, .returned call 0])
  else (s.goTo call .checked, [])

/-- The rest of it: an error is passed on, and an accepted request is waited for. -/
def post (call : Nat) (err : Int) (s : Dispatch) : Dispatch × List DispatchOut :=
  if err = 0 then ({ s with pending := s.pending ++ [call] }.goTo call .waiting, [])
  else (s.goTo call .returned, [.returned call err])

/-- `sync_cb`. -/
def syncCb (call : Nat) (s : Dispatch) : Dispatch × List DispatchOut :=
  ({ s with pending := s.pending.erase call }.goTo call .finished, [.ran .re call])

/-- `vox_re_loop_stop` up to `thrd_join`. -/
def reLoopStop (s : Dispatch) : Dispatch :=
  if s.reThreadRunning then { s with wakeup := true, down := .joining } else { s with down := .closing }

/-- A thread that has nothing to do at its place has no step. The re thread makes calls only while there is
one. A second `voxsdk_shutdown` finds the lock taken or the flag cleared, and does nothing. -/
def act (s : Dispatch) : DispatchAct → Option (Dispatch × List DispatchOut)
  | .call call thread =>
      if s.place call = .uncalled ∧ ¬(thread = .re ∧ s.loop = .exited) then some (s.dispatchSync call thread)
      else none
  | .post call err => if s.place call = .checked then some (s.post call err) else none
  | .run call => if s.loop = .polling ∧ call ∈ s.pending then some (s.syncCb call) else none
  | .wake call =>
      if s.place call = .finished then some (s.goTo call .returned, [.returned call 0]) else none
  | .handleWakeup =>
      if s.wakeup ∧ s.loop ≠ .exited then some ({ s with wakeup := false, loop := .cancelled }, []) else none
  | .loopExits => if s.loop = .cancelled then some ({ s with loop := .exited }, []) else none
  | .shutdown =>
      if s.down = .uncalled then some (if s.initialized then { s with down := .accounts } else s, []) else none
  | .hangUp call n =>
      if s.down = .accounts ∧ s.place call = .uncalled then
        some ({ s with down := .hangUp call }.dispatchSync call (.app n))
      else none
  | .hungUp =>
      match s.down with
      | .hangUp call => if s.place call = .returned then some ({ s with down := .accounts }, []) else none
      | _ => none
  | .reLoopStop => if s.down = .accounts then some (s.reLoopStop, []) else none
  | .joined =>
      if s.down = .joining ∧ s.loop = .exited then
        some ({ s with reThreadRunning := false, down := .closing }, [])
      else none
  | .clear =>
      if s.down = .closing then some ({ s with initialized := false, down := .done }, []) else none

end Dispatch

/-- `voxsdk_init` has returned and nobody has called yet. -/
def dispatch : Machine Dispatch DispatchAct DispatchOut where
  init s := s.initialized = true ∧ s.reThreadRunning = true ∧ s.wakeup = false ∧ s.loop = .polling ∧
    s.pending = [] ∧ s.down = .uncalled ∧ ∀ call, s.place call = .uncalled
  step := Dispatch.act

end VoxSdk
