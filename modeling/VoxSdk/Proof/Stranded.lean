import VoxSdk.Dispatch

/-!
# Who is left waiting

Everything a call shows is determined by how far it has come, in `SoFar`: a function that has run has run on
the re thread, once, and an error is returned in place of a run. So no caller is ever told the wrong thing.
Being told anything is another matter. A request that is accepted after the loop has returned, or that is
still there when it returns, is never run, and its caller waits for ever; no other caller does.
-/

namespace VoxSdk

open Reactive

/-- The call an output is about. -/
def DispatchOut.call : DispatchOut → Nat
  | .ran _ call => call
  | .returned call _ => call

/-- What the call has shown. -/
def outsOf (call : Nat) (outs : List DispatchOut) : List DispatchOut :=
  outs.filter fun o => o.call = call

@[simp]
theorem outsOf_append (call : Nat) (outs outs' : List DispatchOut) :
    outsOf call (outs ++ outs') = outsOf call outs ++ outsOf call outs' :=
  List.filter_append _ _

theorem outsOf_eq_self {call : Nat} {outs : List DispatchOut} (h : ∀ o ∈ outs, o.call = call) :
    outsOf call outs = outs :=
  List.filter_eq_self.mpr fun o ho => decide_eq_true (h o ho)

theorem outsOf_eq_nil {call call' : Nat} {outs : List DispatchOut} (h : ∀ o ∈ outs, o.call = call)
    (hne : call' ≠ call) : outsOf call' outs = [] := by
  apply List.filter_eq_nil_iff.mpr
  intro o ho heq
  exact hne ((of_decide_eq_true heq).symm.trans (h o ho))

/-- What a call has shown when it has come so far. -/
inductive SoFar (call : Nat) : SyncPlace → List DispatchOut → Prop where
  | uncalled : SoFar call .uncalled []
  | checked : SoFar call .checked []
  | waiting : SoFar call .waiting []
  | finished : SoFar call .finished [.ran .re call]
  | served : SoFar call .returned [.ran .re call, .returned call 0]
  | refused (err : Int) : err ≠ 0 → SoFar call .returned [.returned call err]

/-- Before it runs, a call shows nothing. -/
theorem SoFar.eq_nil {call : Nat} {p : SyncPlace} {outs : List DispatchOut} (h : SoFar call p outs)
    (hfinished : p ≠ .finished) (hreturned : p ≠ .returned) : outs = [] := by
  cases h with
  | uncalled | checked | waiting => rfl
  | finished => exact absurd rfl hfinished
  | served | refused => exact absurd rfl hreturned

theorem SoFar.eq_ran {call : Nat} {outs : List DispatchOut} (h : SoFar call .finished outs) :
    outs = [.ran .re call] := by
  cases h
  rfl

theorem SoFar.answered {call : Nat} {p : SyncPlace} {outs : List DispatchOut} {err : Int}
    (h : SoFar call p outs) (hmem : .returned call err ∈ outs) :
    outs = if err = 0 then [.ran .re call, .returned call 0] else [.returned call err] := by
  cases h with
  | uncalled | checked | waiting => cases hmem
  | finished => cases List.mem_singleton.mp hmem
  | served =>
      obtain rfl : err = 0 := by simpa using hmem
      rfl
  | refused err' hne =>
      obtain rfl : err = err' := by simpa using hmem
      rw [if_neg hne]

namespace Dispatch

variable {s s' : Dispatch} {outs os : List DispatchOut} {call : Nat} {p : SyncPlace}

/-- Every call has shown what it should have, and the requests not run are those of the callers that
wait. -/
structure Held (s : Dispatch) (outs : List DispatchOut) : Prop where
  calls : ∀ call, SoFar call (s.place call) (outsOf call outs)
  nodup : s.pending.Nodup
  pending : ∀ call, call ∈ s.pending ↔ s.place call = .waiting

@[simp, grind =]
theorem goTo_place (s : Dispatch) (call : Nat) (p : SyncPlace) (call' : Nat) :
    (s.goTo call p).place call' = if call' = call then p else s.place call' := by
  simp only [goTo, Function.update_apply]

@[simp]
theorem goTo_pending (s : Dispatch) (call : Nat) (p : SyncPlace) : (s.goTo call p).pending = s.pending := rfl

/-- A step that is about one call leaves the others as they were. -/
theorem Held.move (h : s.Held outs)
    (hplace : ∀ call', s'.place call' = if call' = call then p else s.place call') (hos : ∀ o ∈ os, o.call = call)
    (hcall : SoFar call p (outsOf call outs ++ os))
    (hnodup : s'.pending.Nodup) (hpending : ∀ call, call ∈ s'.pending ↔ s'.place call = .waiting) :
    s'.Held (outs ++ os) := by
  refine ⟨fun call' => ?_, hnodup, hpending⟩
  rw [hplace, outsOf_append]
  by_cases heq : call' = call
  · rw [if_pos heq, heq, outsOf_eq_self hos]
    exact hcall
  · rw [if_neg heq, outsOf_eq_nil hos heq, List.append_nil]
    exact h.calls call'

/-- A step that is about no call. -/
theorem Held.of_eq (h : s.Held outs) (hplace : s'.place = s.place) (hpending : s'.pending = s.pending) :
    s'.Held (outs ++ []) := by
  rw [List.append_nil]
  refine ⟨fun call => ?_, ?_, fun call => ?_⟩
  · rw [hplace]
    exact h.calls call
  · rw [hpending]
    exact h.nodup
  · rw [hpending, hplace]
    exact h.pending call

/-- A call that does not wait, and goes where it does not wait. -/
theorem pending_goTo (h : s.Held outs) (hnot : s.place call ≠ .waiting) (hp : p ≠ .waiting) (call' : Nat) :
    call' ∈ (s.goTo call p).pending ↔ (s.goTo call p).place call' = .waiting := by
  rw [goTo_pending, goTo_place, h.pending]
  split_ifs with heq
  · rw [heq]
    exact iff_of_false hnot hp
  · rfl

theorem Held.outs_nil (h : s.Held outs) (hplace : s.place call = p) (hfinished : p ≠ .finished)
    (hreturned : p ≠ .returned) : outsOf call outs = [] :=
  (h.calls call).eq_nil (hplace.symm ▸ hfinished) (hplace.symm ▸ hreturned)

theorem Held.dispatchSync (h : s.Held outs) (thread : Caller) (hplace : s.place call = .uncalled)
    {r : Dispatch × List DispatchOut} (hr : s.dispatchSync call thread = r) : r.1.Held (outs ++ r.2) := by
  have hnil : outsOf call outs = [] := h.outs_nil hplace SyncPlace.noConfusion SyncPlace.noConfusion
  have hnot : s.place call ≠ .waiting := by
    rw [hplace]
    exact SyncPlace.noConfusion
  unfold Dispatch.dispatchSync at hr
  split_ifs at hr with hinit hthread <;> subst hr
  · -- `VOXSDK_ERR_STATE`
    refine h.move (goTo_place s call .returned) (by simp [DispatchOut.call]) ?_ h.nodup
      (pending_goTo h hnot SyncPlace.noConfusion)
    rw [hnil]
    exact .refused errState (by decide)
  · -- inline
    obtain rfl : thread = .re := (by simpa using hthread : _ ∧ _).2
    refine h.move (goTo_place s call .returned) (by simp [DispatchOut.call]) ?_ h.nodup
      (pending_goTo h hnot SyncPlace.noConfusion)
    rw [hnil]
    exact .served
  · refine h.move (goTo_place s call .checked) (by simp) ?_ h.nodup
      (pending_goTo h hnot SyncPlace.noConfusion)
    rw [hnil]
    exact .checked

theorem Held.post (h : s.Held outs) (err : Int) (hplace : s.place call = .checked) :
    (s.post call err).1.Held (outs ++ (s.post call err).2) := by
  have hnil : outsOf call outs = [] := h.outs_nil hplace SyncPlace.noConfusion SyncPlace.noConfusion
  have hnot : s.place call ≠ .waiting := by
    rw [hplace]
    exact SyncPlace.noConfusion
  unfold Dispatch.post
  split_ifs with herr
  · have hmem : call ∉ s.pending := fun hmem => hnot ((h.pending call).mp hmem)
    refine h.move (goTo_place _ call .waiting) (by simp) ?_ ?_ fun call' => ?_
    · rw [hnil]
      exact .waiting
    · exact List.nodup_append.mpr ⟨h.nodup, List.pairwise_singleton _ call, by
        rintro a ha b hb rfl
        exact hmem (List.mem_singleton.mp hb ▸ ha)⟩
    · rw [goTo_pending, goTo_place, List.mem_append, h.pending, List.mem_singleton]
      split_ifs with heq
      · exact iff_of_true (.inr heq) rfl
      · exact or_iff_left heq
  · refine h.move (goTo_place s call .returned) (by simp [DispatchOut.call]) ?_ h.nodup
      (pending_goTo h hnot SyncPlace.noConfusion)
    rw [hnil]
    exact .refused err herr

theorem Held.syncCb (h : s.Held outs) (hmem : call ∈ s.pending) :
    (s.syncCb call).1.Held (outs ++ (s.syncCb call).2) := by
  have hplace : s.place call = .waiting := (h.pending call).mp hmem
  have hnil : outsOf call outs = [] := h.outs_nil hplace SyncPlace.noConfusion SyncPlace.noConfusion
  refine h.move (goTo_place _ call .finished) (by simp [Dispatch.syncCb, DispatchOut.call]) ?_
    (h.nodup.erase call) fun call' => ?_
  · rw [hnil]
    exact .finished
  · have herase : call' ∈ s.pending.erase call ↔ call' ≠ call ∧ call' ∈ s.pending := h.nodup.mem_erase_iff
    rw [Dispatch.syncCb, goTo_pending, goTo_place, herase, h.pending]
    split_ifs with heq
    · exact iff_of_false (fun hne => hne.1 heq) (by decide)
    · exact and_iff_right heq

theorem Held.wake (h : s.Held outs) (hplace : s.place call = .finished) :
    (s.goTo call .returned).Held (outs ++ [.returned call 0]) := by
  have hnot : s.place call ≠ .waiting := by
    rw [hplace]
    exact SyncPlace.noConfusion
  have hran : outsOf call outs = [.ran .re call] := SoFar.eq_ran (hplace ▸ h.calls call)
  refine h.move (goTo_place s call .returned) (by simp [DispatchOut.call]) ?_ h.nodup
    (pending_goTo h hnot SyncPlace.noConfusion)
  rw [hran]
  exact .served

/-- Whatever happens, the calls show what they should. -/
theorem Held.act (h : s.Held outs) (act : DispatchAct) (hstep : s.act act = some (s', os)) :
    s'.Held (outs ++ os) := by
  cases act with
  | call call thread =>
      obtain ⟨⟨hplace, -⟩, hr⟩ := Option.ite_none_right_eq_some.mp hstep
      exact h.dispatchSync thread hplace (Option.some.inj hr)
  | post call err =>
      obtain ⟨hplace, hr⟩ := Option.ite_none_right_eq_some.mp hstep
      have hpost := h.post err hplace
      rw [Option.some.inj hr] at hpost
      exact hpost
  | run call =>
      obtain ⟨⟨-, hmem⟩, hr⟩ := Option.ite_none_right_eq_some.mp hstep
      have hcb := h.syncCb hmem
      rw [Option.some.inj hr] at hcb
      exact hcb
  | wake call =>
      obtain ⟨hplace, hr⟩ := Option.ite_none_right_eq_some.mp hstep
      obtain ⟨rfl, rfl⟩ := Prod.mk.inj (Option.some.inj hr)
      exact h.wake hplace
  | hangUp call n =>
      obtain ⟨⟨-, hplace⟩, hr⟩ := Option.ite_none_right_eq_some.mp hstep
      have hown : Held { s with down := .hangUp call } outs := ⟨h.calls, h.nodup, h.pending⟩
      exact hown.dispatchSync (.app n) hplace (Option.some.inj hr)
  | hungUp =>
      simp only [Dispatch.act] at hstep
      split at hstep
      · obtain ⟨-, hr⟩ := Option.ite_none_right_eq_some.mp hstep
        obtain ⟨rfl, rfl⟩ := Prod.mk.inj (Option.some.inj hr)
        exact h.of_eq rfl rfl
      · cases hstep
  | shutdown =>
      obtain ⟨-, hr⟩ := Option.ite_none_right_eq_some.mp hstep
      obtain ⟨rfl, rfl⟩ := Prod.mk.inj (Option.some.inj hr)
      split_ifs <;> exact h.of_eq rfl rfl
  | reLoopStop =>
      obtain ⟨-, hr⟩ := Option.ite_none_right_eq_some.mp hstep
      obtain ⟨rfl, rfl⟩ := Prod.mk.inj (Option.some.inj hr)
      unfold Dispatch.reLoopStop
      split_ifs <;> exact h.of_eq rfl rfl
  | handleWakeup | loopExits | joined | clear =>
      obtain ⟨-, hr⟩ := Option.ite_none_right_eq_some.mp hstep
      obtain ⟨rfl, rfl⟩ := Prod.mk.inj (Option.some.inj hr)
      exact h.of_eq rfl rfl

/-- Nobody waits for a loop that has returned. -/
def NobodyStranded (s : Dispatch) : Prop := s.loop = .exited → ∀ call, s.place call ≠ .waiting

/-- The condition: the loop returns when it has run every request it was given, and no request is accepted
after that. -/
def serves (s : Dispatch) : DispatchAct → Bool
  | .loopExits => s.pending.isEmpty
  | .post _ err => !decide (err = 0 ∧ s.loop = .exited)
  | _ => true

/-- A step after which more callers wait only for a loop that has not returned. -/
theorem NobodyStranded.keep (h : s.NobodyStranded) (hloop : s'.loop = .exited → s.loop = .exited)
    (hplace : ∀ call, s'.place call = .waiting → s.place call = .waiting) : s'.NobodyStranded :=
  fun hexited call hwaiting => h (hloop hexited) call (hplace call hwaiting)

/-- A call that does not come to wait. -/
theorem NobodyStranded.goTo (h : s.NobodyStranded) (call : Nat) (hp : p ≠ .waiting) :
    (s.goTo call p).NobodyStranded := by
  refine h.keep id fun call' hwaiting => ?_
  rw [goTo_place] at hwaiting
  split_ifs at hwaiting with heq
  · exact absurd hwaiting hp
  · exact hwaiting

theorem NobodyStranded.dispatchSync (h : s.NobodyStranded) (call : Nat) (thread : Caller)
    {r : Dispatch × List DispatchOut} (hr : s.dispatchSync call thread = r) : r.1.NobodyStranded := by
  unfold Dispatch.dispatchSync at hr
  split_ifs at hr <;> subst hr <;> exact h.goTo call SyncPlace.noConfusion

/-- A request that is accepted is stranded exactly if the loop has returned. -/
theorem nobodyStranded_post (h : s.NobodyStranded) (call : Nat) (err : Int) :
    (s.post call err).1.NobodyStranded ↔ ¬(err = 0 ∧ s.loop = .exited) := by
  unfold Dispatch.post
  split_ifs with herr
  · constructor
    · rintro hstranded ⟨-, hexited⟩
      exact hstranded hexited call (by rw [goTo_place, if_pos rfl])
    · intro hnot hexited
      exact absurd ⟨herr, hexited⟩ hnot
  · exact iff_of_true (h.goTo call SyncPlace.noConfusion) fun hboth => herr hboth.1

/-- The loop leaves nobody behind exactly if there is nothing left to run. -/
theorem nobodyStranded_loopExits (hheld : s.Held outs) :
    NobodyStranded { s with loop := .exited } ↔ s.pending = [] := by
  constructor
  · intro hstranded
    apply List.eq_nil_iff_forall_not_mem.mpr
    intro call hmem
    exact hstranded rfl call ((hheld.pending call).mp hmem)
  · intro hnil _ call hwaiting
    have hmem : call ∈ s.pending := (hheld.pending call).mpr hwaiting
    rw [hnil] at hmem
    cases hmem

/-- One step: nobody is stranded by it exactly if it meets the condition. -/
theorem nobodyStranded_act (hheld : s.Held outs) (h : s.NobodyStranded) (act : DispatchAct)
    (hstep : s.act act = some (s', os)) : s'.NobodyStranded ↔ s.serves act = true := by
  cases act with
  | post call err =>
      obtain ⟨-, hr⟩ := Option.ite_none_right_eq_some.mp hstep
      have hpost := nobodyStranded_post h call err
      rw [Option.some.inj hr] at hpost
      calc s'.NobodyStranded ↔ ¬(err = 0 ∧ s.loop = .exited) := hpost
        _ ↔ s.serves (.post call err) = true := by
          simp only [serves, Bool.not_eq_true', decide_eq_false_iff_not]
  | loopExits =>
      obtain ⟨-, hr⟩ := Option.ite_none_right_eq_some.mp hstep
      obtain ⟨rfl, rfl⟩ := Prod.mk.inj (Option.some.inj hr)
      calc NobodyStranded { s with loop := .exited } ↔ s.pending = [] := nobodyStranded_loopExits hheld
        _ ↔ s.serves .loopExits = true := List.isEmpty_iff.symm
  | call call thread =>
      obtain ⟨-, hr⟩ := Option.ite_none_right_eq_some.mp hstep
      exact iff_of_true (h.dispatchSync call thread (Option.some.inj hr)) rfl
  | run call =>
      obtain ⟨-, hr⟩ := Option.ite_none_right_eq_some.mp hstep
      have hcb : (s.syncCb call).1.NobodyStranded :=
        NobodyStranded.goTo (s := { s with pending := s.pending.erase call }) h call SyncPlace.noConfusion
      rw [Option.some.inj hr] at hcb
      exact iff_of_true hcb rfl
  | wake call =>
      obtain ⟨-, hr⟩ := Option.ite_none_right_eq_some.mp hstep
      obtain ⟨rfl, rfl⟩ := Prod.mk.inj (Option.some.inj hr)
      exact iff_of_true (h.goTo call SyncPlace.noConfusion) rfl
  | hangUp call n =>
      obtain ⟨-, hr⟩ := Option.ite_none_right_eq_some.mp hstep
      have hown : NobodyStranded { s with down := .hangUp call } := h
      exact iff_of_true (hown.dispatchSync call (.app n) (Option.some.inj hr)) rfl
  | hungUp =>
      simp only [Dispatch.act] at hstep
      split at hstep
      · obtain ⟨-, hr⟩ := Option.ite_none_right_eq_some.mp hstep
        obtain ⟨rfl, rfl⟩ := Prod.mk.inj (Option.some.inj hr)
        exact iff_of_true h rfl
      · cases hstep
  | handleWakeup =>
      obtain ⟨-, hr⟩ := Option.ite_none_right_eq_some.mp hstep
      obtain ⟨rfl, rfl⟩ := Prod.mk.inj (Option.some.inj hr)
      exact iff_of_true (fun hexited => by cases hexited) rfl
  | shutdown =>
      obtain ⟨-, hr⟩ := Option.ite_none_right_eq_some.mp hstep
      obtain ⟨rfl, rfl⟩ := Prod.mk.inj (Option.some.inj hr)
      refine iff_of_true ?_ rfl
      split_ifs <;> exact h
  | reLoopStop =>
      obtain ⟨-, hr⟩ := Option.ite_none_right_eq_some.mp hstep
      obtain ⟨rfl, rfl⟩ := Prod.mk.inj (Option.some.inj hr)
      refine iff_of_true ?_ rfl
      unfold Dispatch.reLoopStop
      split_ifs <;> exact h
  | joined | clear =>
      obtain ⟨-, hr⟩ := Option.ite_none_right_eq_some.mp hstep
      obtain ⟨rfl, rfl⟩ := Prod.mk.inj (Option.some.inj hr)
      exact iff_of_true h rfl

end Dispatch

open Dispatch

variable {s : Dispatch} {t : Trace DispatchAct DispatchOut}

/-- What a caller is told: 0 when its function has run on the re thread, once, and an error when it has not
and never will. -/
def Answered (outs : List DispatchOut) : Prop :=
  ∀ call err, .returned call err ∈ outs →
    outsOf call outs = if err = 0 then [.ran .re call, .returned call 0] else [.returned call err]

/-- What a step is asked for. -/
def StrandsNobody (s : Dispatch) (act : DispatchAct) : Prop :=
  ∀ s' os, dispatch.step s act = some (s', os) → s'.NobodyStranded

theorem held_of_init (hinit : dispatch.init s) : s.Held [] := by
  obtain ⟨-, -, -, -, hpending, -, hplace⟩ := hinit
  refine ⟨fun call => ?_, ?_, fun call => ?_⟩
  · rw [hplace]
    exact .uncalled
  · rw [hpending]
    exact List.nodup_nil
  · rw [hpending, hplace]
    exact iff_of_false (List.not_mem_nil) SyncPlace.noConfusion

theorem nobodyStranded_of_init (hinit : dispatch.init s) : s.NobodyStranded := by
  obtain ⟨-, -, -, hloop, -⟩ := hinit
  intro hexited
  rw [hloop] at hexited
  cases hexited

theorem held_of_run (hrun : dispatch.Run Machine.Always s t) : s.Held t.outs := by
  refine hrun.invariant (I := fun s t => s.Held (Trace.outs t)) (fun s hinit => held_of_init hinit) ?_
  intro s t act s' os hheld _ hstep
  rw [Trace.outs_append, Trace.outs_singleton]
  exact hheld.act act hstep

theorem answered_of_held {outs : List DispatchOut} (hheld : s.Held outs) : Answered outs := by
  intro call err hmem
  have hshown : .returned call err ∈ outsOf call outs :=
    List.mem_filter.mpr ⟨hmem, decide_eq_true rfl⟩
  exact (hheld.calls call).answered hshown

theorem nobodyStranded_of_run (hrun : dispatch.Run (fun s act => s.serves act) s t) : s.NobodyStranded := by
  induction hrun with
  | start hinit => exact nobodyStranded_of_init hinit
  | step hprev hserves hstep ih =>
      exact (nobodyStranded_act (held_of_run hprev.always) ih _ hstep).mpr hserves

/-- **Nobody is stranded** in the runs whose steps meet the condition, and in no others; and whoever is
answered, in any run, is answered as promised. -/
theorem sync_callers_not_stranded (hrun : dispatch.Run Machine.Always s t) :
    Answered t.outs ∧
      (dispatch.Run StrandsNobody s t ↔ dispatch.Run (fun s act => s.serves act) s t) := by
  refine ⟨answered_of_held (held_of_run hrun), ?_, ?_⟩
  · clear hrun
    intro hrun
    induction hrun with
    | start hinit => exact .start hinit
    | step hprev hnobody hstep ih =>
        have hserves := (nobodyStranded_act (held_of_run hprev.always) (nobodyStranded_of_run ih) _ hstep).mp
          (hnobody _ _ hstep)
        exact ih.step hserves hstep
  · clear hrun
    intro hrun
    induction hrun with
    | start hinit => exact .start hinit
    | step hprev hserves hstep ih =>
        refine ih.step (fun s' os hstep' => ?_) hstep
        exact (nobodyStranded_act (held_of_run hprev.always) (nobodyStranded_of_run hprev) _ hstep').mpr hserves

/-- `voxsdk_init` has returned. -/
def dispatchIdle : Dispatch where
  initialized := true
  reThreadRunning := true
  wakeup := false
  loop := .polling
  pending := []
  down := .uncalled
  place _ := .uncalled

theorem dispatchIdle_init : dispatch.init dispatchIdle := ⟨rfl, rfl, rfl, rfl, rfl, rfl, fun _ => rfl⟩

/-- A call that is served, one that `voxsdk_shutdown` makes, and one that comes too late. -/
theorem sync_callers_not_stranded_three : ∃ s t,
    dispatch.Run StrandsNobody s t ∧ outsOf 0 t.outs = [.ran .re 0, .returned 0 0] ∧
      .ran .re 1 ∈ t.outs ∧ .returned 2 errState ∈ t.outs ∧ s.loop = .exited := by
  obtain ⟨s, t, hrun, hend⟩ := Machine.exists_run_of_exec serves dispatchIdle_init
    [.call 0 (.app 1), .post 0 0, .shutdown, .hangUp 1 0, .run 0, .post 1 0, .wake 0, .run 1, .wake 1,
      .hungUp, .reLoopStop, .handleWakeup, .loopExits, .joined, .clear, .call 2 (.app 1)]
    (fun s t => decide (.returned 0 0 ∈ t.outs ∧ .ran .re 1 ∈ t.outs ∧ .returned 2 errState ∈ t.outs ∧
      s.loop = .exited)) (by decide +kernel)
  obtain ⟨hanswered, hiff⟩ := sync_callers_not_stranded hrun.always
  obtain ⟨hzero, hown, hlate, hexited⟩ := of_decide_eq_true hend
  exact ⟨s, t, hiff.mpr hrun, hanswered 0 0 hzero, hown, hlate, hexited⟩

/-- A caller checks `initialized`, `voxsdk_shutdown` stops the loop, and libre takes the caller's request:
nobody is left to run it. -/
theorem sync_caller_stranded :
    ¬ ∀ (s : Dispatch) (t : Trace DispatchAct DispatchOut), dispatch.Run Machine.Always s t →
      s.NobodyStranded ∧ Answered t.outs := by
  intro h
  obtain ⟨s, t, hrun, hend⟩ := Machine.exists_run_of_exec (fun _ _ => true) dispatchIdle_init
    [.call 0 (.app 1), .shutdown, .reLoopStop, .handleWakeup, .loopExits, .post 0 0]
    (fun s _ => decide (s.loop = .exited ∧ s.place 0 = .waiting)) (by decide +kernel)
  obtain ⟨hexited, hwaiting⟩ := of_decide_eq_true hend
  exact (h s t hrun.always).1 hexited 0 hwaiting

end VoxSdk
