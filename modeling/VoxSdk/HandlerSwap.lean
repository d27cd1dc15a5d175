import Mathlib.Logic.Function.Basic
import VoxSdk.Lib.CountedQueue
import VoxSdk.Lib.Machine

/-!
# Swapping the event handler

Two mutexes, a condition variable for work and one for the end of a delivery, the flag `ev_delivering` and
the join of the event thread (`core.c`, `event.c`). Every thread is at some place in one of four functions,
or outside: `voxsdk_is_initialized`, `voxsdk_set_event_handler`, `voxsdk_shutdown` and, for the producers,
`vox_event_post_qev`. The event thread has its loop as well; while its callback runs it can be inside any of
the four itself.

A step is what a thread does up to the next point at which another thread can notice: taking a mutex,
letting go of one, a section under a mutex. A thread that finds a mutex taken, or that sleeps on a condition
nobody has signalled, has no step.
-/

namespace VoxSdk

open Reactive

/-- The event thread, and all the others. -/
inductive Tid where
  | event
  | app (n : Nat)
  deriving DecidableEq

/-- `event_cb`, `event_userdata` and `deliver_owned_events`, which are swapped together. -/
structure Handler where
  cb : Option Nat
  userdata : Nat
  owned : Bool
  deriving DecidableEq

/-- Where a thread is in a function of the SDK. `ask` is `voxsdk_is_initialized`, `swap`
`voxsdk_set_event_handler`, `down` `voxsdk_shutdown` with `vox_event_close`, `post`
`vox_event_post_qev`. -/
inductive Place (ε : Type) where
  | outside
  | askLock
  | askRead
  | swapLock (h : Handler)
  | swapCheck (h : Handler)
  | swapEvLock (h : Handler)
  | swapStore (h : Handler)
  | swapDrain (h : Handler)
  | swapAsleep (h : Handler)
  | swapWoken (h : Handler)
  | swapEvUnlock (h : Handler)
  | swapUnlock (h : Handler)
  | downLock
  | downCheck
  | downEvLock
  | downSignal
  | downJoin
  | downRest
  | postEvLock (ev : ε)
  | postAppend (ev : ε)
  deriving DecidableEq

/-- Where `event_thread_fn` is: at `mtx_lock`, under the lock at the queue, in `cnd_wait`, delivering with
the handler it has read, at `mtx_lock` after the delivery, under the lock to announce its end, or gone. -/
inductive EvLoop (ε : Type) where
  | lock
  | look
  | asleep
  | deliver (h : Handler) (ev : ε)
  | relock
  | settle
  | exited
  deriving DecidableEq

/-- `g_vox`, as far as the four functions and the event thread share it, and where everyone is. A mutex is
the thread that holds it. -/
structure Shared (ε : Type) where
  initialized : Bool
  lock : Option Tid
  evLock : Option Tid
  queue : CountedQueue ε
  shutdown : Bool
  delivering : Bool
  handler : Handler
  loop : EvLoop ε
  place : Tid → Place ε

/-- The functions a thread can call. -/
inductive Api (ε : Type) where
  | isInitialized
  | setEventHandler (h : Handler)
  | shutdown
  | postQev (ev : ε)

/-- A thread calls a function or goes on in one, the event thread goes on in its loop, its callback
returns, a sleeper wakes for no reason. -/
inductive ThreadAct (ε : Type) where
  | enter (t : Tid) (fn : Api ε)
  | run (t : Tid)
  | loop
  | callbackReturns
  | wakes (t : Tid)
  | loopWakes

namespace Shared

variable {ε : Type}

def goTo (t : Tid) (p : Place ε) (s : Shared ε) : Shared ε :=
  { s with place := Function.update s.place t p }

/-- `mtx_lock(&g_vox.lock)`. -/
def takeLock (t : Tid) (p : Place ε) (s : Shared ε) : Option (Shared ε) :=
  if s.lock = none then some ({ s with lock := some t }.goTo t p) else none

/-- `mtx_lock(&g_vox.ev_lock)`. -/
def takeEvLock (t : Tid) (p : Place ε) (s : Shared ε) : Option (Shared ε) :=
  if s.evLock = none then some ({ s with evLock := some t }.goTo t p) else none

/-- `mtx_unlock(&g_vox.lock)`, on the way out. -/
def unlock (t : Tid) (s : Shared ε) : Shared ε := { s with lock := none }.goTo t .outside

/-- `cnd_signal(&g_vox.ev_cond)`: only the event thread sleeps on it. -/
def signal (s : Shared ε) : Shared ε :=
  { s with loop := match s.loop with | .asleep => .lock | loop => loop }

/-- `cnd_broadcast(&g_vox.ev_idle_cond)`. -/
def broadcast (s : Shared ε) : Shared ε :=
  { s with place := fun t => match s.place t with | .swapAsleep h => .swapWoken h | p => p }

/-- The beginning of a function. Two of them look at `initialized` before they take the lock. -/
def enter (t : Tid) (s : Shared ε) : Api ε → Shared ε
  | .isInitialized => if s.initialized then s.goTo t .askLock else s
  | .setEventHandler h => if s.initialized then s.goTo t (.swapLock h) else s
  | .shutdown => s.goTo t .downLock
  | .postQev ev => s.goTo t (.postEvLock ev)

/-- The next step of a thread inside a function, if it has one. -/
def run (t : Tid) (s : Shared ε) : Option (Shared ε) :=
  match s.place t with
  | .outside => none
  -- `voxsdk_is_initialized`
  | .askLock => s.takeLock t .askRead
  | .askRead => some (s.unlock t)
  -- `voxsdk_set_event_handler`
  | .swapLock h => s.takeLock t (.swapCheck h)
  | .swapCheck h => some (if s.initialized then s.goTo t (.swapEvLock h) else s.unlock t)
  | .swapEvLock h => s.takeEvLock t (.swapStore h)
  | .swapStore h =>
      -- inside the callback there is no delivery to wait for but one's own
      some ({ s with handler := h }.goTo t (if t = Tid.event then .swapEvUnlock h else .swapDrain h))
  | .swapDrain h =>
      some (if s.delivering then { s with evLock := none }.goTo t (.swapAsleep h)
        else s.goTo t (.swapEvUnlock h))
  | .swapAsleep _ => none
  | .swapWoken h => s.takeEvLock t (.swapDrain h)
  | .swapEvUnlock h => some ({ s with evLock := none }.goTo t (.swapUnlock h))
  | .swapUnlock _ => some (s.unlock t)
  -- `voxsdk_shutdown`, and `vox_event_close` in it
  | .downLock => s.takeLock t .downCheck
  | .downCheck => some (if s.initialized then s.goTo t .downEvLock else s.unlock t)
  | .downEvLock => s.takeEvLock t .downSignal
  | .downSignal => some ({ s with shutdown := true, evLock := none }.signal.goTo t .downJoin)
  | .downJoin => match s.loop with | .exited => some (s.goTo t .downRest) | _ => none
  | .downRest => some ({ s with initialized := false }.unlock t)
  -- `vox_event_post_qev`
  | .postEvLock ev => s.takeEvLock t (.postAppend ev)
  | .postAppend ev =>
      let s := { s with evLock := none }.goTo t .outside
      some (match s.queue.push ev with
        | none => s
        | some queue => { s with queue }.signal)

/-- The next step of the event thread in its loop, if it has one. -/
def loopRun (s : Shared ε) : Option (Shared ε) :=
  match s.loop with
  | .lock => if s.evLock = none then some { s with evLock := some .event, loop := .look } else none
  | .look =>
      match s.queue.pop with
      | some (ev, queue) =>
          some { s with
            queue
            delivering := true
            evLock := none
            loop := .deliver s.handler ev }
      | none => some { s with evLock := none, loop := if s.shutdown then .exited else .asleep }
  | .asleep => none
  | .deliver h _ => if h.cb = none then some { s with loop := .relock } else none
  | .relock => if s.evLock = none then some { s with evLock := some .event, loop := .settle } else none
  | .settle => some { s with delivering := false, loop := .look }.broadcast
  | .exited => none

/-- Whether the callback is running. -/
def inCallback (s : Shared ε) : Bool :=
  match s.loop with
  | .deliver h _ => h.cb.isSome
  | _ => false

/-- Whether the thread is in none of the functions. -/
def isOutside (s : Shared ε) (t : Tid) : Bool :=
  match s.place t with
  | .outside => true
  | _ => false

/-- A step, if it can be taken. -/
def act (s : Shared ε) : ThreadAct ε → Option (Shared ε)
  | .enter t fn =>
      if s.isOutside t && (decide (t ≠ Tid.event) || s.inCallback) then some (s.enter t fn) else none
  | .run t => s.run t
  | .loop => s.loopRun
  | .callbackReturns =>
      if s.inCallback && s.isOutside .event then some { s with loop := .relock } else none
  | .wakes t =>
      match s.place t with
      | .swapAsleep h => some (s.goTo t (.swapWoken h))
      | _ => none
  | .loopWakes =>
      match s.loop with
      | .asleep => some { s with loop := .lock }
      | _ => none

end Shared

/-- The runs of the threads, from the end of `voxsdk_init` on. -/
def threads (ε : Type) (max : Nat) (h : Handler) :
    Machine (Shared ε) (ThreadAct ε) Empty where
  init s := s =
    { initialized := true
      lock := none
      evLock := none
      queue := .empty max
      shutdown := false
      delivering := false
      handler := h
      loop := .lock
      place := fun _ => .outside }
  step s a := (s.act a).map fun s' => (s', [])

end VoxSdk
