import VoxSdk.Lib.CountedQueue
import VoxSdk.Lib.Machine

/-!
# The event queue

Events cross from re_main (and from any other thread that logs) to the event thread on
`g_vox.ev_queue`, under `ev_lock` (`event.c`, `log.c`, `trace.c`). Each critical section is one step here;
between two of them the threads interleave in any order. The application's callback runs between the event
thread's two sections, with the lock free.

`vox_event_close` lets go of the lock before it joins the event thread, and does not take it again to free
what is left and to reset the counter: those are steps of their own, which producers can get in between.
-/

namespace VoxSdk

open Reactive

/-- Where the event thread is: about to look at the queue, in `cnd_wait`, out of the lock with the event it
took, or gone. -/
inductive EvThread (ε : Type) where
  | ready
  | waiting
  | delivering (ev : ε)
  | exited
  deriving DecidableEq

/-- Where `vox_event_close` is: not called, in `thrd_join`, between freeing the list and resetting the
counter, or done. -/
inductive Closing where
  | running
  | joining
  | freed
  | closed
  deriving DecidableEq

/-- `ev_queue`, `ev_queue_len`, `ev_queue_max`, `ev_shutdown`, and the two threads that watch them. -/
structure EventLoop (ε : Type) where
  queue : CountedQueue ε
  shutdown : Bool
  thread : EvThread ε
  closing : Closing

/-- What becomes of an event: queued, refused and released, taken by the event thread, released by
`vox_event_close`. A refusal may be logged. -/
inductive EvOut (ε : Type) where
  | queued (ev : ε)
  | dropped (ev : ε)
  | warned
  | taken (ev : ε)
  | released (ev : ε)
  deriving DecidableEq

/-- What can happen to the queue. -/
inductive EvAct (ε : Type) where
  | postQev (ev : ε)
  | queueLogEvent (ev : ε)
  | sipTraceHandler (ev : ε)
  | threadRuns
  | threadWakes
  | callbackReturns
  | closeSignals
  | closeJoins
  | closeResets
  | init

namespace EventLoop

variable {ε : Type}

/-- `voxsdk_init`, up to `thrd_create`: the list is empty and the counter zero. -/
def start (max : Nat) : EventLoop ε :=
  { queue := .empty max, shutdown := false, thread := .ready, closing := .running }

/-- `cnd_signal(&g_vox.ev_cond)`. -/
def signal : EvThread ε → EvThread ε
  | .waiting => .ready
  | thread => thread

/-! ### Producers -/

/-- The section every producer has: refuse the event if the counter says the queue is full, otherwise
append it, count it and wake the event thread. -/
def enqueue (ev : ε) (refused : List (EvOut ε)) (s : EventLoop ε) : EventLoop ε × List (EvOut ε) :=
  match s.queue.push ev with
  | none => (s, refused)
  | some queue => ({ s with queue, thread := signal s.thread }, [.queued ev])

/-- `vox_event_post_qev`. -/
def postQev (ev : ε) (s : EventLoop ε) : EventLoop ε × List (EvOut ε) :=
  s.enqueue ev [.dropped ev, .warned]

/-- `queue_log_event`: the same by hand, and silent. -/
def queueLogEvent (ev : ε) (s : EventLoop ε) : EventLoop ε × List (EvOut ε) :=
  s.enqueue ev [.dropped ev]

/-- `sip_trace_handler`: the same by hand, and silent. -/
def sipTraceHandler (ev : ε) (s : EventLoop ε) : EventLoop ε × List (EvOut ε) :=
  s.enqueue ev [.dropped ev]

/-! ### The event thread -/

/-- `event_thread_fn`, from taking `ev_lock` to giving it up: an event is taken, or the thread waits, or,
when it is to shut down and finds nothing left, it ends. -/
def threadRuns (s : EventLoop ε) : EventLoop ε × List (EvOut ε) :=
  match s.queue.pop with
  | some (ev, queue) => ({ s with queue, thread := .delivering ev }, [.taken ev])
  | none => ({ s with thread := if s.shutdown then .exited else .waiting }, [])

/-! ### `vox_event_close` -/

def closeSignals (s : EventLoop ε) : EventLoop ε :=
  { s with shutdown := true, thread := signal s.thread, closing := .joining }

/-- The event thread has been joined: what is left on the list is unlinked and freed. -/
def closeJoins (s : EventLoop ε) : EventLoop ε × List (EvOut ε) :=
  ({ s with queue := { s.queue with items := [] }, closing := .freed },
    s.queue.items.map .released)

def closeResets (s : EventLoop ε) : EventLoop ε :=
  { s with queue := { s.queue with len := 0 }, closing := .closed }

/-! ### The machine -/

/-- Whether a step can be taken now. -/
def enabled (s : EventLoop ε) : EvAct ε → Bool
  | .postQev _ | .queueLogEvent _ | .sipTraceHandler _ => true
  | .threadRuns => match s.thread with | .ready => true | _ => false
  | .threadWakes => match s.thread with | .waiting => true | _ => false
  | .callbackReturns => match s.thread with | .delivering _ => true | _ => false
  | .closeSignals => decide (s.closing = .running)
  | .closeJoins =>
      decide (s.closing = .joining) && match s.thread with | .exited => true | _ => false
  | .closeResets => decide (s.closing = .freed)
  | .init => decide (s.closing = .closed)

/-- What a step does. -/
def act (s : EventLoop ε) : EvAct ε → EventLoop ε × List (EvOut ε)
  | .postQev ev => s.postQev ev
  | .queueLogEvent ev => s.queueLogEvent ev
  | .sipTraceHandler ev => s.sipTraceHandler ev
  | .threadRuns => s.threadRuns
  | .threadWakes => ({ s with thread := .ready }, [])
  | .callbackReturns => ({ s with thread := .ready }, [])
  | .closeSignals => (s.closeSignals, [])
  | .closeJoins => s.closeJoins
  | .closeResets => (s.closeResets, [])
  | .init => (start s.queue.max, [])

end EventLoop

/-- The runs of the event queue, from `voxsdk_init` on. -/
def eventLoop (ε : Type) (max : Nat) : Machine (EventLoop ε) (EvAct ε) (EvOut ε) where
  init s := s = .start max
  step s a := if s.enabled a then some (s.act a) else none

variable {ε : Type} {max : Nat} {s s' : EventLoop ε} {a : EvAct ε} {os : List (EvOut ε)}

theorem eventLoop_step (h : (eventLoop ε max).step s a = some (s', os)) :
    s.enabled a = true ∧ s.act a = (s', os) := by
  simp only [eventLoop] at h
  split at h
  · rename_i hen
    exact ⟨hen, Option.some.inj h⟩
  · cases h

end VoxSdk
