import VoxSdk.EventQueue

/-!
# The event queue's accounts

Three producers count up and the event thread counts down, each by hand. What has to hold between any two
critical sections is one equation, that the events handed over are the ones taken followed by the ones
queued, and the counter's exactness. Both are kept by every step, except that `vox_event_close` frees the
list and resets the counter without the lock, after the last one who would take anything has gone: an event
handed over from then on is lost, and may be on the list when the counter says that nothing is.
-/

namespace VoxSdk

open Reactive

variable {ε : Type}

/-- The events that were queued, in this order. -/
def handed (os : List (EvOut ε)) : List ε :=
  os.filterMap fun o => match o with | .queued ev => some ev | _ => none

/-- The events the event thread took, in this order. -/
def takenBy (os : List (EvOut ε)) : List ε :=
  os.filterMap fun o => match o with | .taken ev => some ev | _ => none

/-- The events `vox_event_close` released. -/
def releasedBy (os : List (EvOut ε)) : List ε :=
  os.filterMap fun o => match o with | .released ev => some ev | _ => none

/-- A producer's step. -/
def EvAct.handsOver : EvAct ε → Bool
  | .postQev _ | .queueLogEvent _ | .sipTraceHandler _ => true
  | _ => false

/-- A step of the event thread, or the return of the callback it waits for. -/
def EvAct.isThread : EvAct ε → Bool
  | .threadRuns | .callbackReturns => true
  | _ => false

/-- Nothing is handed over when the event thread has gone. -/
def EventLoop.handsOverInTime (s : EventLoop ε) (a : EvAct ε) : Bool :=
  !a.handsOver || match s.thread with | .exited => false | _ => true

/-- A producer is refused only when the queue is full, and the event thread counts down only from above
zero. -/
def RefusesWhenFull (max : Nat) (s : EventLoop ε) (a : EvAct ε) : Prop :=
  ∀ s' os, (eventLoop ε max).step s a = some (s', os) →
    (∀ ev, .dropped ev ∈ os → s.queue.items.length = max) ∧
      ∀ ev, .taken ev ∈ os → 0 < s.queue.len

/-- The accounts of a queue after a run. -/
structure Accounted (max : Nat) (s : EventLoop ε) (t : Trace (EvAct ε) (EvOut ε)) : Prop where
  len : s.queue.len = s.queue.items.length
  le : s.queue.items.length ≤ max
  fifo : handed t.outs = takenBy t.outs ++ s.queue.items
  kept : releasedBy t.outs = []
  asleep : s.thread = .waiting → s.queue.items = [] ∧ s.shutdown = false
  complete : s.thread = .exited → handed t.outs = takenBy t.outs

/-- What the event thread can still do, alone: take all that is queued, in order. Then it waits, for a
queue that accepts the next event, or has ended, if it was told to. -/
def Drains (max : Nat) (s : EventLoop ε) : Prop :=
  ∃ u s', (eventLoop ε max).Steps (fun _ a => a.isThread) s u s' ∧ takenBy (Trace.outs u) = s.queue.items ∧
    s'.queue.items = [] ∧ s'.thread = (if s.shutdown then .exited else .waiting) ∧
      (0 < max → ∀ ev, (s'.queue.push ev).isSome = true)

/-! ### One step -/

variable {max : Nat} {s s' : EventLoop ε} {a : EvAct ε} {os : List (EvOut ε)}
  {t : Trace (EvAct ε) (EvOut ε)}

@[simp]
theorem handed_append (os os' : List (EvOut ε)) : handed (os ++ os') = handed os ++ handed os' :=
  List.filterMap_append

@[simp]
theorem takenBy_append (os os' : List (EvOut ε)) : takenBy (os ++ os') = takenBy os ++ takenBy os' :=
  List.filterMap_append

@[simp]
theorem releasedBy_append (os os' : List (EvOut ε)) :
    releasedBy (os ++ os') = releasedBy os ++ releasedBy os' :=
  List.filterMap_append

/-- The accounts, with what they need of the rest of the state: the thread is gone before `vox_event_close`
goes on, and the shutdown it waits for was asked for. -/
structure Balanced (max : Nat) (s : EventLoop ε) (t : Trace (EvAct ε) (EvOut ε)) : Prop where
  exact : s.queue.Exact
  limit : s.queue.max = max
  fifo : handed t.outs = takenBy t.outs ++ s.queue.items
  kept : releasedBy t.outs = []
  asleep : s.thread = .waiting → s.queue.items = [] ∧ s.shutdown = false
  gone : s.thread = .exited → s.queue.items = []
  joined : s.closing = .freed ∨ s.closing = .closed → s.thread = .exited

theorem signal_ne_waiting (thread : EvThread ε) : EventLoop.signal thread ≠ .waiting := by
  cases thread <;> intro h <;> cases h

theorem signal_eq_exited {thread : EvThread ε} : EventLoop.signal thread = .exited ↔ thread = .exited := by
  cases thread <;> simp [EventLoop.signal]

/-- What a producer's section does, whichever producer it is. -/
theorem enqueue_cases (s : EventLoop ε) (ev : ε) (refused : List (EvOut ε)) :
    (s.queue.push ev = none ∧ s.enqueue ev refused = (s, refused)) ∨
      ∃ queue, s.queue.push ev = some queue ∧
        s.enqueue ev refused = ({ s with queue, thread := EventLoop.signal s.thread }, [.queued ev]) := by
  unfold EventLoop.enqueue
  cases s.queue.push ev with
  | none => exact .inl ⟨rfl, rfl⟩
  | some queue => exact .inr ⟨queue, rfl, rfl⟩

/-- A producer that is not too late keeps the accounts. -/
theorem Balanced.enqueue (h : Balanced max s t) (hin : s.thread ≠ .exited) (a : EvAct ε) (ev : ε)
    {refused : List (EvOut ε)}
    (hrefused : handed refused = [] ∧ takenBy refused = [] ∧ releasedBy refused = []) :
    Balanced max (s.enqueue ev refused).1 (t ++ [(a, (s.enqueue ev refused).2)]) := by
  obtain ⟨-, heq⟩ | ⟨queue, hpush, heq⟩ := enqueue_cases s ev refused
  · obtain ⟨hhanded, htaken, hreleased⟩ := hrefused
    rw [heq]
    refine ⟨h.exact, h.limit, ?_, ?_, h.asleep, h.gone, h.joined⟩
    · simpa [hhanded, htaken] using h.fifo
    · simpa [hreleased] using h.kept
  · obtain ⟨-, hitems, -, hmax⟩ := CountedQueue.push_some hpush
    rw [heq]
    refine ⟨h.exact.push hpush, hmax.trans h.limit, ?_, ?_, ?_, ?_, ?_⟩
    · calc
        handed (Trace.outs (t ++ [(a, [.queued ev])])) = handed t.outs ++ [ev] := by
          simp [handed]
        _ = takenBy t.outs ++ (s.queue.items ++ [ev]) := by rw [h.fifo, List.append_assoc]
        _ = takenBy (Trace.outs (t ++ [(a, [.queued ev])])) ++ queue.items := by
          simp [takenBy, hitems]
    · simpa [releasedBy] using h.kept
    · exact fun hwait => absurd hwait (signal_ne_waiting _)
    · exact fun hexit => absurd (signal_eq_exited.mp hexit) hin
    · intro hclosing
      exact absurd (h.joined hclosing) hin

theorem Balanced.threadRuns (h : Balanced max s t) (hready : s.thread = .ready) :
    Balanced max s.threadRuns.1 (t ++ [(.threadRuns, s.threadRuns.2)]) := by
  have hopen : ¬(s.closing = .freed ∨ s.closing = .closed) := by
    intro hclosing
    cases hready.symm.trans (h.joined hclosing)
  unfold EventLoop.threadRuns
  cases hpop : s.queue.pop with
  | none =>
      have hitems := CountedQueue.pop_eq_none.mp hpop
      refine ⟨h.exact, h.limit, by simpa using h.fifo, by simpa using h.kept, ?_, fun _ => hitems,
        fun hclosing => absurd hclosing hopen⟩
      intro hwait
      refine ⟨hitems, ?_⟩
      cases hshutdown : s.shutdown with
      | false => rfl
      | true => simp [hshutdown] at hwait
  | some r =>
      obtain ⟨ev, queue⟩ := r
      obtain ⟨hitems, -, hmax⟩ := CountedQueue.pop_some hpop
      refine ⟨(h.exact.pop hpop).2, hmax.trans h.limit, ?_, by simpa [releasedBy] using h.kept, ?_, ?_,
        fun hclosing => absurd hclosing hopen⟩
      · calc
          handed (Trace.outs (t ++ [(.threadRuns, [.taken ev])])) = handed t.outs := by
            simp [handed]
          _ = takenBy t.outs ++ ev :: queue.items := by rw [h.fifo, hitems]
          _ = takenBy (Trace.outs (t ++ [(.threadRuns, [.taken ev])])) ++ queue.items := by
            simp [takenBy]
      · intro hwait
        cases hwait
      · intro hexit
        cases hexit

/-- Every step keeps the accounts, unless a producer comes too late. -/
theorem Balanced.step (h : Balanced max s t) (htime : s.handsOverInTime a = true)
    (hstep : (eventLoop ε max).step s a = some (s', os)) : Balanced max s' (t ++ [(a, os)]) := by
  obtain ⟨hen, hact⟩ := eventLoop_step hstep
  have hin (hhands : a.handsOver = true) : s.thread ≠ .exited := by
    intro hexit
    simp [EventLoop.handsOverInTime, hhands, hexit] at htime
  have hquiet {r : EventLoop ε} (hr : s.act a = (r, [])) (hqueue : r.queue = s.queue)
      (hasleep : r.thread = .waiting → s.queue.items = [] ∧ r.shutdown = false)
      (hgone : r.thread = .exited → s.queue.items = [])
      (hjoined : r.closing = .freed ∨ r.closing = .closed → r.thread = .exited) :
      Balanced max s' (t ++ [(a, os)]) := by
    obtain ⟨rfl, rfl⟩ := Prod.mk.inj (hr.symm.trans hact)
    exact ⟨hqueue ▸ h.exact, hqueue ▸ h.limit, by simpa [hqueue] using h.fifo, by simpa using h.kept,
      hqueue ▸ hasleep, hqueue ▸ hgone, hjoined⟩
  cases a with
  | postQev ev =>
      obtain ⟨rfl, rfl⟩ := Prod.mk.inj hact.symm
      exact h.enqueue (hin rfl) _ ev ⟨rfl, rfl, rfl⟩
  | queueLogEvent ev =>
      obtain ⟨rfl, rfl⟩ := Prod.mk.inj hact.symm
      exact h.enqueue (hin rfl) _ ev ⟨rfl, rfl, rfl⟩
  | sipTraceHandler ev =>
      obtain ⟨rfl, rfl⟩ := Prod.mk.inj hact.symm
      exact h.enqueue (hin rfl) _ ev ⟨rfl, rfl, rfl⟩
  | threadRuns =>
      obtain ⟨rfl, rfl⟩ := Prod.mk.inj hact.symm
      refine h.threadRuns ?_
      simp only [EventLoop.enabled] at hen
      split at hen
      · assumption
      · cases hen
  | threadWakes =>
      simp only [EventLoop.enabled] at hen
      split at hen
      · rename_i hwait
        refine hquiet rfl rfl (fun hw => by cases hw) (fun he => by cases he) ?_
        intro hclosing
        cases hwait.symm.trans (h.joined hclosing)
      · cases hen
  | callbackReturns =>
      simp only [EventLoop.enabled] at hen
      split at hen
      · rename_i ev hdelivering
        refine hquiet rfl rfl (fun hw => by cases hw) (fun he => by cases he) ?_
        intro hclosing
        cases hdelivering.symm.trans (h.joined hclosing)
      · cases hen
  | closeSignals =>
      refine hquiet rfl rfl (fun hw => absurd hw (signal_ne_waiting _))
        (fun he => h.gone (signal_eq_exited.mp he)) ?_
      intro hclosing
      rcases hclosing with hclosing | hclosing <;> cases hclosing
  | closeJoins =>
      obtain ⟨rfl, rfl⟩ := Prod.mk.inj hact.symm
      simp only [EventLoop.enabled, Bool.and_eq_true] at hen
      have hexit : s.thread = .exited := by
        have hthread := hen.2
        split at hthread
        · assumption
        · cases hthread
      have hitems := h.gone hexit
      have hqueue : { s.queue with items := [] } = s.queue := by
        rw [← hitems]
      refine ⟨?_, h.limit, ?_, ?_, ?_, fun _ => rfl, fun _ => hexit⟩
      · exact hqueue ▸ h.exact
      · simpa [hitems] using h.fifo
      · simpa [hitems, EventLoop.closeJoins] using h.kept
      · intro hwait
        cases hexit.symm.trans hwait
  | closeResets =>
      have hexit := h.joined (.inl (of_decide_eq_true hen))
      have hlen : s.queue.len = 0 := by
        rw [h.exact.len, h.gone hexit, List.length_nil]
      have hqueue : { s.queue with len := 0 } = s.queue := by
        rw [← hlen]
      refine hquiet rfl hqueue (fun hwait => ?_) (fun _ => h.gone hexit) fun _ => hexit
      cases hexit.symm.trans hwait
  | init =>
      have hexit := h.joined (.inr (of_decide_eq_true hen))
      have hitems := h.gone hexit
      obtain ⟨rfl, rfl⟩ := Prod.mk.inj hact.symm
      refine ⟨CountedQueue.exact_empty h.exact.lt, h.limit, ?_, by simpa using h.kept, ?_, ?_, ?_⟩
      · simpa [hitems, EventLoop.start, CountedQueue.empty] using h.fifo
      · intro hwait
        cases hwait
      · intro hexit'
        cases hexit'
      · intro hclosing
        rcases hclosing with hclosing | hclosing <;> cases hclosing

/-- And no step that keeps the accounts refuses an event for which there is room. -/
theorem Balanced.refusesWhenFull (h : Balanced max s t) (a : EvAct ε) : RefusesWhenFull max s a := by
  intro s' os hstep
  obtain ⟨-, hact⟩ := eventLoop_step hstep
  have hsection (ev : ε) {refused : List (EvOut ε)} (hnone : ∀ ev', .taken ev' ∉ refused)
      (hsec : s.enqueue ev refused = (s', os)) :
      (∀ ev', .dropped ev' ∈ os → s.queue.items.length = max) ∧ ∀ ev', .taken ev' ∈ os → 0 < s.queue.len := by
    obtain ⟨hpush, heq⟩ | ⟨queue, -, heq⟩ := enqueue_cases s ev refused
    · obtain ⟨rfl, rfl⟩ := Prod.mk.inj (heq.symm.trans hsec)
      exact ⟨fun _ _ => (h.exact.full hpush).trans h.limit, fun ev' htaken => absurd htaken (hnone ev')⟩
    · obtain ⟨rfl, rfl⟩ := Prod.mk.inj (heq.symm.trans hsec)
      exact ⟨fun _ hdropped => by simp at hdropped, fun _ htaken => by simp at htaken⟩
  cases a with
  | postQev ev => exact hsection ev (by simp) hact
  | queueLogEvent ev => exact hsection ev (by simp) hact
  | sipTraceHandler ev => exact hsection ev (by simp) hact
  | threadRuns =>
      simp only [EventLoop.act, EventLoop.threadRuns] at hact
      cases hpop : s.queue.pop with
      | none =>
          rw [hpop] at hact
          obtain ⟨rfl, rfl⟩ := Prod.mk.inj hact
          exact ⟨fun _ hdropped => by simp at hdropped, fun _ htaken => by simp at htaken⟩
      | some r =>
          rw [hpop] at hact
          obtain ⟨rfl, rfl⟩ := Prod.mk.inj hact
          exact ⟨fun _ hdropped => by simp at hdropped, fun _ _ => (h.exact.pop hpop).1⟩
  | closeJoins =>
      obtain ⟨rfl, rfl⟩ := Prod.mk.inj hact
      exact ⟨fun _ hdropped => by simp at hdropped, fun _ htaken => by simp at htaken⟩
  | _ =>
      obtain ⟨rfl, rfl⟩ := Prod.mk.inj hact
      exact ⟨fun _ hdropped => by simp at hdropped, fun _ htaken => by simp at htaken⟩

/-! ### The event thread alone -/

/-- From where the event thread is about to look at the queue: each turn takes one event and delivers it,
and the last one finds nothing. -/
theorem drains_of_ready (hexact : s.queue.Exact) (hlimit : s.queue.max = max) (hready : s.thread = .ready) :
    Drains max s := by
  have hrun : s.enabled .threadRuns = true := by simp [EventLoop.enabled, hready]
  have hstep : (eventLoop ε max).step s .threadRuns = some s.threadRuns := if_pos hrun
  generalize hitems : s.queue.items = items
  induction items generalizing s with
  | nil =>
      have hpop : s.queue.pop = none := CountedQueue.pop_eq_none.mpr hitems
      simp only [EventLoop.threadRuns, hpop] at hstep
      refine ⟨_, _, .step .refl rfl hstep, ?_, hitems, rfl, fun hmax ev => ?_⟩
      · simpa [takenBy] using hitems.symm
      · exact hexact.push_isSome hitems (hlimit ▸ hmax)
  | cons ev rest ih =>
      obtain ⟨⟨ev', queue⟩, hpop⟩ : ∃ r, s.queue.pop = some r := by
        unfold CountedQueue.pop
        rw [hitems]
        exact ⟨_, rfl⟩
      obtain ⟨hcons, -, hmax⟩ := CountedQueue.pop_some hpop
      obtain ⟨rfl, hrest⟩ := List.cons.inj (hitems.symm.trans hcons)
      simp only [EventLoop.threadRuns, hpop] at hstep
      obtain ⟨u, s', hsteps, htaken, hend⟩ := @ih { s with queue, thread := .ready } (hexact.pop hpop).2
        (hmax.trans hlimit) rfl rfl rfl hrest.symm
      have hreturn : (eventLoop ε max).step { s with queue, thread := .delivering ev } .callbackReturns =
          some ({ s with queue, thread := .ready }, []) := rfl
      refine ⟨_, s', .head rfl hstep (.head rfl hreturn hsteps), ?_, hend⟩
      calc
        takenBy (Trace.outs ((.threadRuns, [.taken ev]) :: (.callbackReturns, []) :: u)) =
            ev :: takenBy (Trace.outs u) := rfl
        _ = s.queue.items := by rw [htaken, hitems, hrest]

/-- While the event thread runs, it can empty the queue, whatever the other threads have done. -/
theorem Balanced.drains (h : Balanced max s t) (hrunning : s.thread ≠ .exited) : Drains max s := by
  cases hthread : s.thread with
  | ready => exact drains_of_ready h.exact h.limit hthread
  | waiting =>
      obtain ⟨hitems, hshutdown⟩ := h.asleep hthread
      refine ⟨[], s, .refl, hitems.symm, hitems, ?_, fun hmax ev => ?_⟩
      · rw [hthread, hshutdown]
        rfl
      · exact h.exact.push_isSome hitems (h.limit ▸ hmax)
  | delivering ev =>
      have hreturn : (eventLoop ε max).step s .callbackReturns = some ({ s with thread := .ready }, []) :=
        if_pos (by simp [EventLoop.enabled, hthread])
      obtain ⟨u, s', hsteps, htaken, hend⟩ :=
        @drains_of_ready _ max { s with thread := .ready } h.exact h.limit rfl
      exact ⟨_, s', .head rfl hreturn hsteps, htaken, hend⟩
  | exited => exact absurd hthread hrunning

/-! ### Every run -/

theorem balanced_run (hmax : max < wordSize)
    (hrun : (eventLoop ε max).Run (fun s a => s.handsOverInTime a) s t) : Balanced max s t := by
  refine hrun.invariant (I := Balanced max) ?_ ?_
  · rintro s rfl
    refine ⟨CountedQueue.exact_empty hmax, rfl, rfl, rfl, ?_, ?_, ?_⟩
    · intro hwait
      cases hwait
    · intro hexit
      cases hexit
    · intro hclosing
      rcases hclosing with hclosing | hclosing <;> cases hclosing
  · intro s t a s' os h htime hstep
    exact h.step htime hstep

/-- **The event queue keeps its accounts.** As long as nothing is handed over after the event thread has
gone, the counter is exact in every state of a run and never above the limit, events are refused only by a
full queue, those accepted are taken once and in order, and all of them when the event thread ends; until
then it can always take what is there. -/
theorem queue_accounted (hmax : max < wordSize)
    (hrun : (eventLoop ε max).Run (fun s a => s.handsOverInTime a) s t) :
    (eventLoop ε max).Run (RefusesWhenFull max) s t ∧ Accounted max s t ∧
      (s.thread ≠ .exited → Drains max s) := by
  refine ⟨?_, ?_, (balanced_run hmax hrun).drains⟩
  · induction hrun with
    | start hinit => exact .start hinit
    | step hprev _ hstep ih => exact ih.step ((balanced_run hmax hprev).refusesWhenFull _) hstep
  · have h := balanced_run hmax hrun
    refine ⟨h.exact.len, h.limit ▸ h.exact.le, h.fifo, h.kept, h.asleep, fun hexit => ?_⟩
    rw [h.fifo, h.gone hexit, List.append_nil]

/-- Three events on a queue for two, then the shutdown. -/
theorem queue_accounted_shutdown :
    ∃ (s : EventLoop Nat) (t : Trace (EvAct Nat) (EvOut Nat)), Accounted 2 s t ∧
      takenBy t.outs = [1, 2] ∧ s.thread = .exited := by
  obtain ⟨s, t, hrun, hend⟩ := Machine.exists_run_of_exec
    (M := eventLoop Nat 2) (s := .start 2) (fun s a => s.handsOverInTime a) rfl
    [.threadRuns, .postQev 1, .queueLogEvent 2, .sipTraceHandler 3, .closeSignals, .threadRuns,
      .callbackReturns, .threadRuns, .callbackReturns, .threadRuns, .closeJoins, .closeResets]
    (fun s t => decide (takenBy t.outs = [1, 2]) && decide (s.thread = .exited)) (by decide)
  simp only [Bool.and_eq_true, decide_eq_true_eq] at hend
  exact ⟨s, t, (queue_accounted (by decide) hrun).2.1, hend⟩

/-- A line logged between the freeing of the list and the reset of the counter is on the list, and not
counted. -/
theorem queue_unaccounted :
    ¬ ∀ (max : Nat) (s : EventLoop Unit) (t : Trace (EvAct Unit) (EvOut Unit)), max < wordSize →
      (eventLoop Unit max).Run Machine.Always s t → Accounted max s t := by
  intro h
  obtain ⟨s, t, hrun, hend⟩ := Machine.exists_run_of_exec
    (M := eventLoop Unit 4096) (s := .start 4096) (fun _ _ => true) rfl
    [.closeSignals, .threadRuns, .closeJoins, .queueLogEvent (), .closeResets]
    (fun s _ => decide (s.queue.len ≠ s.queue.items.length)) (by decide)
  exact of_decide_eq_true hend (h 4096 s t (by decide) hrun.always).len

end VoxSdk
