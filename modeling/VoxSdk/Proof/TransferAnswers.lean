import VoxSdk.Proof.TransferCalls

/-!
# Answers to a REFER

A REFER is answered by a NOTIFY or by the call that is placed for it, which takes over whoever waits for one.
When an accepted transfer fails, what was built for it is taken down again; a new call that ended on the way has
already given its wrapper to the event that says so.
-/

namespace VoxSdk

open Reactive

/-- What happens to the REFERs of one call. -/
inductive ReferMark where
  | stored
  | answered
  deriving DecidableEq

def XferOut.mark (id : Nat) : XferOut → Option ReferMark
  | .stored i => if i = id then some .stored else none
  | .notify i _ | .placed i _ => if i = id then some .answered else none
  | _ => none

/-- What a run did about the REFERs of the call `id`. -/
def marksOf (id : Nat) (os : List XferOut) : List ReferMark := os.filterMap (XferOut.mark id)

/-- A REFER is answered once. One that comes before the last was answered takes its place. -/
def answering : Monitor Bool ReferMark where
  start := false
  next
    | _, .stored => some true
    | true, .answered => some false
    | false, .answered => none

def XferOut.wrapper? : XferOut → Option WrapperOut
  | .wrapper o => some o
  | _ => none

/-- What a step did to the wrappers. -/
def wrappersOf (os : List XferOut) : List WrapperOut := os.filterMap XferOut.wrapper?

/-! ### One step -/

namespace Transfers

variable {s s' : Transfers} {act : XferAct} {os : List XferOut} {id : Nat} {env : AcceptEnv}

theorem marksOf_outs : marksOf id s.outs = marksOf id s.out := by
  have hnone : marksOf id (s.calls.out.map .wrapper) = [] := by
    refine List.filterMap_eq_nil_iff.mpr fun o hmem => ?_
    obtain ⟨w, -, rfl⟩ := List.mem_map.mp hmem
    rfl
  rw [outs, marksOf, List.filterMap_append]
  exact congrArg (· ++ _) hnone

theorem wrappersOf_outs (h : wrappersOf s.out = []) : wrappersOf s.outs = s.calls.out := by
  have hcalls : wrappersOf (s.calls.out.map .wrapper) = s.calls.out := by
    rw [wrappersOf, List.filterMap_map]
    exact List.filterMap_some
  rw [outs, wrappersOf, List.filterMap_append, ← wrappersOf, ← wrappersOf, h, hcalls, List.append_nil]

/-- The answers of a step are in order, and `xfer_pending` says what is to be answered after it. -/
def Reads (id : Nat) (s s' : Transfers) : Prop :=
  answering.read (s.xferPending id) (marksOf id s'.out) = some (s'.xferPending id)

theorem reads_of_mark {m : ReferMark} {j : Nat} {value : Bool}
    (hpending : s'.xferPending = Function.update s.xferPending j value)
    (hmarks : marksOf id s'.out = if j = id then [m] else [])
    (hnext : answering.next (s.xferPending j) m = some value) :
    Reads id s s' := by
  unfold Reads
  rw [hmarks, hpending]
  by_cases hj : j = id
  · subst hj
    rw [if_pos rfl, Monitor.read_cons, hnext, Function.update_self]
    rfl
  · rw [if_neg hj, Function.update_of_ne (Ne.symm hj)]
    rfl

theorem reads_of_none (hpending : s'.xferPending = s.xferPending) (hmarks : marksOf id s'.out = []) :
    Reads id s s' := by
  unfold Reads
  rw [hmarks, hpending]
  rfl

theorem pending_of_outstanding (h : s.outstanding id env = true) : s.xferPending id = true := by
  simp only [outstanding, Bool.and_eq_true] at h
  exact h.2.1

theorem AcceptStep.reads {i : Nat} (h : AcceptStep i env s s') (hout : s.out = []) : Reads id s s' := by
  cases h with
  | closed _ | nothing _ _ => exact reads_of_none rfl (by simp [hout, marksOf, XferOut.mark])
  | unallocated _ hwaiting _ | unwrapped hwaiting _ _ | failed _ hwaiting _ _ _ | placed hwaiting _ _ _ =>
      refine reads_of_mark (m := .answered) rfl ?_ (by rw [pending_of_outstanding hwaiting]; rfl)
      simp only [hout, marksOf, List.nil_append, List.filterMap_cons, XferOut.mark, List.filterMap_nil]
      split <;> split <;> simp_all

theorem ReferStep.reads {bc : Option Nat} {text : Option CStr} {qevOk : Bool} (h : ReferStep bc text s qevOk s')
    (hout : s.out = []) : Reads id s s' := by
  cases h with
  | lost => exact reads_of_none rfl (by rw [hout]; rfl)
  | @kept _ j _ _ _ _ =>
      refine reads_of_mark (m := .stored) rfl ?_ (by cases s.xferPending j <;> rfl)
      simp only [hout, marksOf, List.nil_append, List.filterMap_cons, XferOut.mark, List.filterMap_nil]
      split <;> split <;> simp_all
  | noted _ _ => exact reads_of_none rfl (by rw [hout]; rfl)

theorem ReferStep.created {bc : Option Nat} {text : Option CStr} {qevOk : Bool} (hstep : ReferStep bc text s qevOk s')
    (h : Created s.calls) : Created s'.calls := by
  cases hstep with
  | lost => exact h
  | kept _ _ _ _ | noted _ _ => exact h.postQev nofun

theorem reads_act (hact : s.act act = some s') (hout : s.out = []) : Reads id s s' := by
  cases act with
  | wrapper a =>
      obtain ⟨calls, -, rfl⟩ := Option.map_eq_some_iff.mp hact
      exact reads_of_none rfl (by rw [hout]; rfl)
  | refer bc text qevOk =>
      obtain rfl := Option.some.inj hact
      exact (referStep bc text qevOk s).reads hout
  | deliver handed =>
      simp only [Transfers.act] at hact
      split at hact
      · cases hact
      · obtain rfl := Option.some.inj hact
        cases handed <;> exact reads_of_none rfl (by simp [hear, emit, hout, marksOf, XferOut.mark])
  | accept dispatch j =>
      obtain ⟨-, heq⟩ := Option.ite_none_right_eq_some.mp hact
      obtain rfl := Option.some.inj heq
      rcases transferAccept_cases dispatch j s with heq | heq <;> rw [heq] <;>
        exact reads_of_none rfl (by simp [result, emit, hout, marksOf, XferOut.mark])
  | acceptRuns i env =>
      obtain ⟨q, -, rfl⟩ := Option.map_eq_some_iff.mp hact
      exact (acceptStep q.1 env { s with accepts := s.accepts.eraseIdx i }).reads hout
  | reject dispatch j scode notify =>
      obtain ⟨-, heq⟩ := Option.ite_none_right_eq_some.mp hact
      obtain rfl := Option.some.inj heq
      rcases transferReject_cases dispatch j scode notify s with ⟨r, heq⟩ | ⟨hpending, r, heq⟩
      · rw [heq]
        exact reads_of_none rfl (by simp [result, emit, hout, marksOf, XferOut.mark])
      · rw [heq]
        refine reads_of_mark (m := .answered) rfl ?_ (by rw [hpending]; rfl)
        simp only [result, emit, clearPending, hout, marksOf, List.nil_append, List.singleton_append,
          List.filterMap_cons, XferOut.mark, List.filterMap_nil]
        split <;> split <;> simp_all

theorem created_act (h : Created s.calls) (hact : s.act act = some s') : Created s'.calls := by
  cases act with
  | wrapper a =>
      obtain ⟨calls, hcalls, rfl⟩ := Option.map_eq_some_iff.mp hact
      exact h.act hcalls
  | refer bc text qevOk =>
      obtain rfl := Option.some.inj hact
      exact (referStep bc text qevOk s).created h
  | deliver handed =>
      simp only [Transfers.act] at hact
      split at hact
      · cases hact
      · obtain rfl := Option.some.inj hact
        cases handed <;> exact h
  | accept dispatch j =>
      obtain ⟨-, heq⟩ := Option.ite_none_right_eq_some.mp hact
      obtain rfl := Option.some.inj heq
      rcases transferAccept_cases dispatch j s with heq | heq <;> rw [heq] <;> exact h
  | acceptRuns i env =>
      obtain ⟨q, -, rfl⟩ := Option.map_eq_some_iff.mp hact
      exact Created.acceptStep (t := { s with accepts := s.accepts.eraseIdx i }) h (acceptStep q.1 env _)
  | reject dispatch j scode notify =>
      obtain ⟨-, heq⟩ := Option.ite_none_right_eq_some.mp hact
      obtain rfl := Option.some.inj heq
      rcases transferReject_cases dispatch j scode notify s with ⟨r, heq⟩ | ⟨-, r, heq⟩ <;> rw [heq] <;> exact h

end Transfers

/-! ### Every run -/

/-- What an answer returns that finds no REFER to answer. -/
def nothingToAnswer (s : Transfers) (id : Nat) (reachable : Bool) : XferResult :=
  if s.calls.bc id && reachable then .sdk .state else .errno .noent

/-- Without a REFER to answer the functions return an error, and do nothing else. -/
structure Refuses (s : Transfers) (act : XferAct) (s' : Transfers) (os : List XferOut) : Prop where
  accept : ∀ i env id approved, act = .acceptRuns i env → s.accepts[i]? = some (id, approved) →
    s.xferPending id = false →
    os = [.returned (nothingToAnswer s id env.ua)] ∧
      s'.calls = s.calls.idle ∧ s'.xferReferTo = s.xferReferTo ∧ s'.xferPending = s.xferPending
  reject : ∀ dispatch id scode notify, act = .reject dispatch id scode notify → s.xferPending id = false →
    os = [.returned (if scode < 400 ∨ 699 < scode then .sdk .inval
      else if dispatch = .ok then nothingToAnswer s id true else dispatch)] ∧
      s'.calls = s.calls.idle ∧ s'.xferReferTo = s.xferReferTo ∧ s'.xferPending = s.xferPending

/-- What is left of the call `new` that was to be placed for the call `id`: no wrapper on the list, the wrapper's
reference released in this step, or with the one queued event that owns it; and the call `id` as it was. -/
structure LeavesNothing (id : Nat) (s s' : Transfers) (os : List XferOut) : Prop where
  unlisted : s'.calls.listed s.calls.next = false
  released : s'.calls.next = s.calls.next ∨
    (lifeOf s.calls.next (wrappersOf os)).count .released = 1 ∧ s'.calls.refs s.calls.next = 0 ∧
      s'.calls.queue.items.countP (Qev.owns s.calls.next) = 0 ∨
    (lifeOf s.calls.next (wrappersOf os)).count .released = 0 ∧ s'.calls.refs s.calls.next = 1 ∧
      s'.calls.queue.items.countP (Qev.owns s.calls.next) = 1
  pending : s'.xferPending = Function.update s.xferPending id false
  original : s'.xferReferTo = s.xferReferTo ∧ SameCall id s.calls.idle s'.calls

namespace Transfers

variable {s s' : Transfers} {act : XferAct} {os : List XferOut} {id : Nat} {env : AcceptEnv}

theorem AcceptStep.refuses (h : AcceptStep id env s s') (hpending : s.xferPending id = false) (hout : s.out = []) :
    s' = { s with out := [.returned (nothingToAnswer s id env.ua)] } := by
  have hidle (hwaiting : s.outstanding id env = true) : False := by
    rw [pending_of_outstanding hwaiting] at hpending
    cases hpending
  unfold nothingToAnswer
  cases h with
  | closed hclosed => rw [hclosed, hout]; rfl
  | nothing hopen _ => rw [hopen, hout]; rfl
  | unallocated _ hwaiting _ | unwrapped hwaiting _ _ | failed _ hwaiting _ _ _ | placed hwaiting _ _ _ =>
      exact (hidle hwaiting).elim

theorem transferReject_refuses (dispatch : XferResult) (scode : Nat) (notify : Option Errno)
    (hpending : s.xferPending id = false) :
    s.transferReject dispatch id scode notify =
      s.result (if scode < 400 ∨ 699 < scode then .sdk .inval
        else if dispatch = .ok then nothingToAnswer s id true else dispatch) := by
  unfold transferReject transferRejectFn nothingToAnswer
  rw [hpending, Bool.and_true]
  split
  · rfl
  · split
    · cases s.calls.bc id <;> rfl
    · rfl

/-- `transfer_accept_fn` has failed after `ua_call_alloc`. -/
theorem AcceptStep.leavesNothing {accepts : List (Nat × Option TransferReq)} {r : XferResult}
    (h : AcceptStep id env { s.idle with accepts } s') (hroot : Created s.calls) (halloc : .allocated id ∈ s'.out)
    (hreturned : .returned r ∈ s'.out) (hr : r ≠ .ok) (hevents : .closed false ∉ env.events) :
    LeavesNothing id s s' s'.outs := by
  have hidle : Created s.calls.idle := hroot.congr rfl rfl rfl rfl
  cases h with
  | closed _ | nothing _ _ | unallocated _ _ _ => simp [idle] at halloc
  | placed _ _ _ _ =>
      simp only [idle, List.nil_append, List.mem_cons, reduceCtorEq, XferOut.returned.injEq, false_or, or_false,
        List.not_mem_nil] at hreturned
      exact absurd hreturned hr
  | unwrapped _ _ _ =>
      refine ⟨?_, .inl rfl, rfl, rfl, .refl⟩
      exact Bool.eq_false_iff.mpr fun hlist => absurd (hroot.listed _ hlist) (Nat.lt_irrefl _)
  | failed err hwaiting _ _ _ =>
      have hne : s.calls.next ≠ id := by
        have hbc : s.calls.bc id = true := by
          simp only [outstanding, Bool.and_eq_true] at hwaiting
          exact hwaiting.1.1
        exact (hroot.bc id hbc).ne'
      obtain ⟨q, hnew⟩ := (Share.NewCall.wrapNew hidle rfl).connectEvents hevents
      obtain ⟨q', hdropped, hunlisted⟩ := hnew.dropNew
      have hmarks := released_once hdropped.read
      refine ⟨?_, .inr ?_, rfl, rfl, ?_⟩
      · exact Bool.eq_false_iff.mpr fun hlist => hunlisted (hdropped.listed.mp hlist)
      · rw [wrappersOf_outs rfl]
        rcases hdropped.place with hq | rfl | rfl
        · exact absurd hq hunlisted
        · exact .inr ⟨hmarks, hdropped.refs, hdropped.queued⟩
        · exact .inl ⟨hmarks, hdropped.refs, hdropped.queued⟩
      · have hsame : SameCall id s.calls.idle s.calls.idle.wrapNew := .wrapNew hne
        exact (hsame.trans (.connectEvents hne env.events)).trans (.dropNew hne)

end Transfers

open Transfers

/-- **Each REFER is answered at most once, and a failed accept leaves nothing behind.** In every run the answers
to the REFERs of a call come one to a REFER; a step that finds none to answer only returns an error; and one that
fails to place the new call takes it down again, if there was memory for the event that ends it. -/
theorem transfer_answered {max : Nat} {s : Transfers} {t : Trace XferAct XferOut}
    (hrun : (transferSystem max).Run Machine.Always s t) :
    (∀ id, answering.read false (marksOf id t.outs) = some (s.xferPending id)) ∧
      ∀ act s' os, (transferSystem max).step s act = some (s', os) → Refuses s act s' os ∧
        ∀ i env id approved r, act = .acceptRuns i env → s.accepts[i]? = some (id, approved) →
          .allocated id ∈ os → .returned r ∈ os → r ≠ .ok → .closed false ∉ env.events →
          LeavesNothing id s s' os := by
  constructor
  · intro id
    refine hrun.invariant (I := fun s t => answering.read false (marksOf id (Trace.outs t)) =
      some (s.xferPending id)) ?_ ?_
    · rintro s ⟨calls, -, rfl⟩
      rfl
    · intro s t act s' os h _ hs
      obtain ⟨hact, rfl⟩ := transferSystem_step hs
      have hreads : Reads id s.idle s' := reads_act hact rfl
      rw [Trace.outs_append, Trace.outs_singleton, marksOf, List.filterMap_append, Monitor.read_append, ← marksOf,
        ← marksOf, h, Option.bind_some, marksOf_outs]
      exact hreads
  · have hroot : Created s.calls := by
      refine hrun.stateInvariant (I := fun s => Created s.calls) ?_ ?_
      · rintro s ⟨calls, ⟨cb, owned, rfl⟩, rfl⟩
        exact ⟨by simp [CountedQueue.empty], by simp, by simp⟩
      · intro s act s' os h _ hs
        have hidle : Created s.idle.calls := h.congr rfl rfl rfl rfl
        exact created_act hidle (transferSystem_step hs).1
    intro act s' os hs
    obtain ⟨hact, rfl⟩ := transferSystem_step hs
    refine ⟨⟨?_, ?_⟩, ?_⟩
    · rintro i env id approved rfl hi hpending
      obtain ⟨q, hq, heq⟩ := Option.map_eq_some_iff.mp hact
      obtain rfl : q = (id, approved) := Option.some.inj (hq.symm.trans hi)
      have hrefuses := (acceptStep id env { s.idle with accepts := s.idle.accepts.eraseIdx i }).refuses hpending rfl
      rw [← heq, hrefuses]
      exact ⟨rfl, rfl, rfl, rfl⟩
    · rintro dispatch id scode notify rfl hpending
      obtain ⟨-, heq⟩ := Option.ite_none_right_eq_some.mp hact
      obtain rfl := Option.some.inj heq
      rw [transferReject_refuses (s := s.idle) dispatch scode notify hpending]
      exact ⟨rfl, rfl, rfl, rfl⟩
    · rintro i env id approved r rfl hi halloc hreturned hr hevents
      obtain ⟨q, hq, heq⟩ := Option.map_eq_some_iff.mp hact
      obtain rfl : q = (id, approved) := Option.some.inj (hq.symm.trans hi)
      have hstep := acceptStep id env { s.idle with accepts := s.idle.accepts.eraseIdx i }
      rw [heq] at hstep
      have hout {o : XferOut} (ho : o.wrapper? = none) (hmem : o ∈ s'.outs) : o ∈ s'.out := by
        rcases List.mem_append.mp hmem with hwrapper | hmem
        · obtain ⟨w, -, rfl⟩ := List.mem_map.mp hwrapper
          cases ho
        · exact hmem
      exact hstep.leavesNothing hroot (hout rfl halloc) (hout rfl hreturned) hr hevents

/-- A REFER is accepted; the new call ends while it is being connected, and then cannot be. -/
theorem transfer_answered_failed :
    ∃ (s s' : Transfers) (os : List XferOut), .returned (.errno .other) ∈ os ∧ LeavesNothing 0 s s' os := by
  let env : AcceptEnv := { AcceptEnv.good with events := [.callState true, .closed true], connect := some .other }
  obtain ⟨s, t, hrun, hend⟩ := Machine.exists_run_of_exec (M := transferSystem 4096) (s := .fresh)
    (fun _ _ => true) ⟨_, ⟨true, false, rfl⟩, rfl⟩
    [.wrapper (.invite true), .refer (some 0) (some ['s', 'i', 'p', ':', 'b']) true, .deliver true, .accept .ok 0]
    (fun s _ => decide (s.accepts[0]?.map Prod.fst = some 0) &&
      ((transferSystem 4096).step s (.acceptRuns 0 env)).any fun r : Transfers × List XferOut =>
        decide (.allocated 0 ∈ r.2 ∧ .returned (.errno .other) ∈ r.2)) (by decide +kernel)
  obtain ⟨haccept, hstep⟩ := Bool.and_eq_true_iff.mp hend
  obtain ⟨⟨id, approved⟩, hi, hid⟩ := Option.map_eq_some_iff.mp (of_decide_eq_true haccept)
  obtain rfl : id = 0 := hid
  obtain ⟨⟨s', os⟩, hs', hfound⟩ := (Option.any_eq_true _ _).mp hstep
  obtain ⟨halloc, hreturned⟩ := of_decide_eq_true hfound
  have hanswered := ((transfer_answered hrun.always).2 _ _ _ hs').2
  exact ⟨s, s', os, hreturned, hanswered 0 env 0 approved _ rfl hi halloc hreturned nofun (by decide)⟩

/-- The application accepts a transfer of a call that has ended before it heard of that. -/
theorem accept_after_close :
    ¬∀ (max : Nat) (s s' : Transfers) (t : Trace XferAct XferOut) (os : List XferOut) (i id : Nat)
      (env : AcceptEnv) (approved : Option TransferReq), (transferSystem max).Run Machine.Always s t →
      s.accepts[i]? = some (id, approved) → s.xferPending id = false →
      (transferSystem max).step s (.acceptRuns i env) = some (s', os) → .returned (.sdk .state) ∈ os := by
  intro h
  obtain ⟨s, t, hrun, hend⟩ := Machine.exists_run_of_exec (M := transferSystem 4096) (s := .fresh)
    (fun _ _ => true) ⟨_, ⟨true, false, rfl⟩, rfl⟩
    [.wrapper (.invite true), .wrapper (.closed 0 true), .accept .ok 0]
    (fun s _ => decide (s.accepts[0]?.map Prod.fst = some 0) && decide (s.xferPending 0 = false) &&
      ((transferSystem 4096).step s (.acceptRuns 0 .good)).any fun r : Transfers × List XferOut =>
        decide (r.2 = [.returned (.errno .noent)])) (by decide +kernel)
  simp only [Bool.and_eq_true, decide_eq_true_eq, and_assoc] at hend
  obtain ⟨haccept, hpending, hstep⟩ := hend
  obtain ⟨⟨id, approved⟩, hi, hid⟩ := Option.map_eq_some_iff.mp haccept
  obtain rfl : id = 0 := hid
  obtain ⟨⟨s', os⟩, hs', hos⟩ := (Option.any_eq_true _ _).mp hstep
  have hstate := h _ _ _ _ _ _ _ _ _ hrun.always hi hpending hs'
  obtain rfl : os = [.returned (.errno .noent)] := of_decide_eq_true hos
  exact absurd hstate (by decide)

end VoxSdk
