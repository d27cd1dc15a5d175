import VoxSdk.Locking

/-!
# No thread waits in a ring

re_main takes the mutex of the call list before that of a device and never the other way, and no mutex is had while
it looks at an account. So if the app takes them in some order that agrees, and waits for re_main only outside its
callbacks, nobody is held up for good. If it waits inside one, it may be; and if what it waits for needs the list
that the callback is called from, it is, on every schedule.
-/

namespace VoxSdk

open Reactive Threads

variable {rank : Mutex → Nat} {held : List Mutex} {m : Mutex}

/-! ### In order -/

theorem nested_critical_nil (hlt : ∀ h ∈ held, rank h < rank m) :
    Nested rank held (LockOp.critical m [] : List VoxOp) := .critical hlt .nil

theorem nested_tapFindCall {finds : Nat} (hlt : finds = 0 ∨ ∀ h ∈ held, rank h < rank .calls) :
    Nested rank held (tapFindCall finds) := by
  rcases hlt with rfl | hlt
  · exact .nil
  · exact (nested_critical_nil hlt).replicate finds

/-- Whatever re_main does, it takes the call list before a device. -/
theorem ReStep.nested_ops (hrank : rank .calls < rank .external) (step : ReStep) : Nested rank [] step.ops := by
  cases step with
  | calls | accounts | device => exact nested_critical_nil (List.forall_mem_nil _)
  | updateCallDevices devices =>
      refine .critical (List.forall_mem_nil _) ((nested_critical_nil ?_).replicate devices)
      simpa using hrank

theorem ReFn.ordered_ops (hrank : rank .calls < rank .external) (fn : ReFn) : Ordered rank [] fn.ops :=
  (Nested.flatMap (ReStep.nested_ops hrank) fn).ordered

theorem AppCode.mayTake_iff : AppCode.mayTake rank held m = true ↔ ∀ h ∈ held, rank h < rank m := by
  simp [AppCode.mayTake]

theorem AppCode.nested_ops {code : AppCode} (h : code.orderly rank held = true) : Nested rank held code.ops := by
  induction code generalizing held with
  | done => exact .nil
  | dispatchSync fn rest ih =>
      simp only [orderly, Bool.and_eq_true, List.isEmpty_iff] at h
      exact (Nested.sync h.1).append (ih h.2)
  | dispatch fn rest ih => exact Nested.post.append (ih h)
  | callForeach inside rest ihInside ih | accountForeach inside rest ihInside ih =>
      simp only [orderly, Bool.and_eq_true, mayTake_iff] at h
      exact (Nested.critical h.1.1 (ihInside h.1.2)).append (ih h.2)
  | externalPush finds inside rest ihInside ih =>
      simp only [orderly, Bool.and_eq_true, Bool.or_eq_true, beq_iff_eq, mayTake_iff] at h
      obtain ⟨⟨⟨hlt, hfinds⟩, hinside⟩, hrest⟩ := h
      exact (Nested.critical hlt ((nested_tapFindCall hfinds).append (ihInside hinside))).append (ih hrest)
  | externalPull rest ih =>
      simp only [orderly, Bool.and_eq_true, mayTake_iff] at h
      exact (nested_critical_nil h.1).append (ih h.2)
  | tapEncode finds inside rest ihInside ih =>
      simp only [orderly, Bool.and_eq_true, Bool.or_eq_true, beq_iff_eq, mayTake_iff] at h
      obtain ⟨⟨hfinds, hinside⟩, hrest⟩ := h
      exact ((nested_tapFindCall hfinds).append (ihInside hinside)).append (ih hrest)

/-- What is taken up is in order. -/
theorem polite_of_takesUp (hrank : rank .calls < rank .external) {a : LockAct VoxThread Mutex ReFn}
    (h : TakesUp (fun code => code.orderly rank [] = true) a) : Polite rank a := by
  cases a with
  | run | serve | finish => trivial
  | enter t ops =>
      cases t with
      | reMain =>
          rcases h with ⟨fn, rfl⟩ | ⟨code, hcode, rfl⟩
          · exact fn.ordered_ops hrank
          · exact (AppCode.nested_ops hcode).ordered
      | app n =>
          obtain ⟨code, hcode, rfl⟩ := h
          exact (AppCode.nested_ops hcode).ordered

/-- No function on re_main waits for re_main. -/
theorem ReFn.steps_eq_one {size : ReFn → Nat} (fn : ReFn) : ∀ op ∈ fn.ops, op.steps size = 1 := by
  intro op hop
  obtain ⟨step, -, hop⟩ := List.mem_flatMap.mp hop
  cases step with
  | calls | accounts | device => exact LockOp.steps_critical (List.forall_mem_nil _) op hop
  | updateCallDevices devices =>
      refine LockOp.steps_critical (fun op hop => ?_) op hop
      obtain ⟨device, hdevice, hop⟩ := List.mem_flatten.mp hop
      rw [List.eq_of_mem_replicate hdevice] at hop
      exact LockOp.steps_critical (List.forall_mem_nil _) op hop

/-- **What an orderly app takes up, it comes through with**, whatever re_main does besides. From every state that the
threads can get to there are only so many steps before something new is taken up, on every schedule; and where there
is none, nobody waits, nobody is at anything, and nothing is handed to re_main. -/
theorem orderly_app_comes_through (hrank : rank .calls < rank .external) {s : VoxThreads}
    {u : Trace (LockAct VoxThread Mutex ReFn) Empty}
    (hrun : voxThreads.Run (fun _ a => TakesUp (fun code => code.orderly rank [] = true) a) s u) :
    ∃ bound, ∀ v s', voxThreads.Steps (fun _ a => a.isNew = false) s v s' →
      v.length ≤ bound ∧
        ((∃ a s'', a.isNew = false ∧ voxThreads.step s' a = some (s'', [])) ∨ ∀ t, ¬ s'.IsBusy .reMain t) := by
  have hsize (fn : ReFn) : LockOp.cost (fun fn => fn.ops.length) fn.ops ≤ fn.ops.length :=
    Nat.le_of_eq (LockOp.cost_eq_length fn.steps_eq_one)
  have hbound (m : Mutex) : rank m < rank .calls + rank .accounts + rank .external + 1 := by
    cases m <;> omega
  have hpolite : voxThreads.Run (fun _ a => Polite rank a) s u := hrun.mono fun _ _ => polite_of_takesUp hrank
  obtain ⟨bound, hwork⟩ := work_run hsize hpolite
  refine ⟨bound, fun v s' hsteps => ⟨hwork.length_le hsize hsteps, ?_⟩⟩
  -- what follows takes up nothing, so it is in order too
  have hsteps' : voxThreads.Steps (fun _ a => Polite rank a) s v s' := by
    refine hsteps.mono fun _ a hnew => ?_
    cases a with
    | enter => cases hnew
    | run | serve | finish => trivial
  have hrun' := hpolite.trans hsteps'
  refine or_iff_not_imp_right.mpr fun hbusy => ?_
  obtain ⟨t, hbusy⟩ := not_forall_not.mp hbusy
  have hinOrder : s'.InOrder rank := inOrder_run (ReFn.ordered_ops hrank) hrun'
  obtain ⟨t', -, hgoes⟩ := hinOrder.exists_canGo (booked_run hrun') hbound hbusy
  exact hgoes.exists_step

/-- The app that goes through the accounts and the calls, and then places a call. -/
theorem orderly_app_comes_through_reattached :
    ∃ bound, ∀ v s', voxThreads.Steps (fun _ a => a.isNew = false)
        (idleThreads.doNext (.app 0)
          (AppCode.accountForeach .done (.callForeach .done (.dispatchSync (inviteFn [] true) .done))).ops) v s' →
      v.length ≤ bound ∧
        ((∃ a s'', a.isNew = false ∧ voxThreads.step s' a = some (s'', [])) ∨ ∀ t, ¬ s'.IsBusy .reMain t) := by
  have hrank : Mutex.rank .calls < Mutex.rank .external := by decide
  refine orderly_app_comes_through hrank (.step (a := .enter (.app 0) _) (.start rfl) ?_ rfl)
  exact ⟨_, rfl, rfl⟩

/-! ### Traps -/

theorem ReStep.mem_ops_of_takes {step : ReStep} (h : step.takes m = true) : .lock m ∈ step.ops := by
  cases step with
  | calls | accounts | device =>
      obtain rfl := beq_iff_eq.mp h
      exact List.mem_cons_self
  | updateCallDevices devices =>
      simp only [takes, Bool.or_eq_true, Bool.and_eq_true, beq_iff_eq, bne_iff_ne] at h
      rcases h with rfl | ⟨rfl, hdevices⟩
      · exact List.mem_cons_self
      · obtain ⟨n, rfl⟩ := Nat.exists_eq_succ_of_ne_zero hdevices
        exact List.mem_cons_of_mem _ List.mem_cons_self

theorem ReFn.mem_ops_of_takes {fn : ReFn} (h : fn.takes m = true) : .lock m ∈ fn.ops := by
  obtain ⟨step, hstep, htakes⟩ := List.any_eq_true.mp h
  exact List.mem_flatMap.mpr ⟨step, hstep, ReStep.mem_ops_of_takes htakes⟩

theorem leavesTraps_tapFindCall (finds : Nat) : LeavesTraps ReFn.ops held (tapFindCall finds) :=
  (LeavesTraps.critical .nil).replicate finds

theorem AppCode.leavesTraps_ops (code : AppCode) : LeavesTraps ReFn.ops held code.ops := by
  induction code generalizing held with
  | done => exact .nil
  | dispatchSync fn rest ih => exact LeavesTraps.sync.append ih
  | dispatch fn rest ih => exact LeavesTraps.post.append ih
  | callForeach inside rest ihInside ih | accountForeach inside rest ihInside ih =>
      exact (LeavesTraps.critical ihInside).append ih
  | externalPush finds inside rest ihInside ih =>
      exact (LeavesTraps.critical ((leavesTraps_tapFindCall finds).append ihInside)).append ih
  | externalPull rest ih => exact (LeavesTraps.critical .nil).append ih
  | tapEncode finds inside rest ihInside ih =>
      exact ((leavesTraps_tapFindCall finds).append ihInside).append ih

/-- The tap looks for its call on a thread that goes through the call list. -/
theorem traps_tapFindCall {finds : Nat} (hfinds : finds ≠ 0) (hcalls : .calls ∈ held) :
    Traps ReFn.ops held (tapFindCall finds) := by
  obtain ⟨n, rfl⟩ := Nat.exists_eq_succ_of_ne_zero hfinds
  exact Traps.append (traps_critical (.inl hcalls))

theorem AppCode.traps_ops {code : AppCode} (h : code.traps held = true) : Traps ReFn.ops held code.ops := by
  induction code generalizing held with
  | done => cases h
  | dispatchSync fn rest ih =>
      simp only [traps, Bool.or_eq_true, List.any_eq_true] at h
      rcases h with ⟨m, hm, htakes⟩ | hrest
      · exact .inl ⟨m, hm, ReFn.mem_ops_of_takes htakes⟩
      · exact .inr (ih hrest)
  | dispatch fn rest ih => exact ih h
  | callForeach inside rest ihInside ih | accountForeach inside rest ihInside ih =>
      simp only [traps, Bool.or_eq_true, List.contains_iff_mem, or_assoc] at h
      rcases h with hmem | hinside | hrest
      · exact (traps_critical (.inl hmem)).append
      · exact (traps_critical (.inr (ihInside hinside))).append
      · exact (LeavesTraps.critical inside.leavesTraps_ops) _ (ih hrest)
  | externalPush finds inside rest ihInside ih =>
      simp only [traps, Bool.or_eq_true, Bool.and_eq_true, bne_iff_ne, List.contains_iff_mem, or_assoc] at h
      rcases h with hmem | ⟨hfinds, hcalls⟩ | hinside | hrest
      · exact (traps_critical (.inl hmem)).append
      · have hfind := traps_tapFindCall hfinds (List.mem_cons_of_mem Mutex.external hcalls)
        exact (traps_critical (.inr hfind.append)).append
      · exact (traps_critical (.inr (leavesTraps_tapFindCall finds _ (ihInside hinside)))).append
      · exact LeavesTraps.critical ((leavesTraps_tapFindCall finds).append inside.leavesTraps_ops) _ (ih hrest)
  | externalPull rest ih =>
      simp only [traps, Bool.or_eq_true, List.contains_iff_mem] at h
      rcases h with hmem | hrest
      · exact (traps_critical (.inl hmem)).append
      · exact LeavesTraps.critical .nil _ (ih hrest)
  | tapEncode finds inside rest ihInside ih =>
      simp only [traps, Bool.or_eq_true, Bool.and_eq_true, bne_iff_ne, List.contains_iff_mem, or_assoc] at h
      rw [AppCode.ops, List.append_assoc]
      rcases h with ⟨hfinds, hcalls⟩ | hinside | hrest
      · exact (traps_tapFindCall hfinds hcalls).append
      · exact leavesTraps_tapFindCall finds _ (ihInside hinside).append
      · exact leavesTraps_tapFindCall finds _ (inside.leavesTraps_ops _ (ih hrest))

/-- **A callback that needs what its caller has never returns**, on any schedule, whatever everybody else does: once
an app's thread has taken up code in which a callback of `voxsdk_call_foreach`, `voxsdk_account_foreach` or the media
tap waits for a function that takes the mutex the callback is run with, or takes that mutex again, it is not through
with it in any state that follows. -/
theorem trapped_callback_never_returns {C : VoxThreads → LockAct VoxThread Mutex ReFn → Prop} {s : VoxThreads}
    {u : Trace (LockAct VoxThread Mutex ReFn) Empty} (hrun : voxThreads.Run C s u) {n : Nat} {code : AppCode}
    {os : List Empty} (htaken : (.enter (.app n) code.ops, os) ∈ u) (htraps : code.traps [] = true) :
    s.isIdle .reMain (.app n) = false := by
  have hclient : VoxThread.app n ≠ .reMain := by simp
  exact (trapped_run hclient (AppCode.traps_ops htraps) hrun htaken).busy

theorem trapped_callback_never_returns_switch :
    (idleThreads.doNext (.app 0)
      (AppCode.callForeach (.dispatchSync (setDeviceFn 1) .done) .done).ops).isIdle .reMain (.app 0) = false := by
  have hrun : voxThreads.Run Machine.Always
      (idleThreads.doNext (.app 0) (AppCode.callForeach (.dispatchSync (setDeviceFn 1) .done) .done).ops)
      [(.enter (.app 0) (AppCode.callForeach (.dispatchSync (setDeviceFn 1) .done) .done).ops, [])] :=
    .step (.start rfl) trivial rfl
  exact trapped_callback_never_returns hrun (List.mem_singleton_self _) rfl

/-- What `voxsdk.h` forbids in a callback of `voxsdk_account_foreach` is a trap. -/
theorem traps_create_destroy (hangups : ReFn) (more rest : AppCode) :
    (AppCode.accountForeach (.dispatchSync createFn more) rest).traps [] = true ∧
      (AppCode.accountForeach (.dispatchSync (destroyFn hangups) more) rest).traps [] = true := by
  constructor
  · simp [AppCode.traps, ReFn.takes, ReStep.takes, createFn]
  · simp [AppCode.traps, ReFn.takes, ReStep.takes, destroyFn]

/-- It forbids nothing in one of `voxsdk_call_foreach`, where these are traps. -/
theorem traps_invite_switch (meanwhile : ReFn) (devices sources players : Nat) (hasPlatform : Bool)
    (more rest : AppCode) :
    (AppCode.callForeach (.dispatchSync (inviteFn meanwhile true) more) rest).traps [] = true ∧
      (AppCode.callForeach (.dispatchSync (setDeviceFn devices) more) rest).traps [] = true ∧
      (AppCode.callForeach (.dispatchSync (useExternalFn true hasPlatform sources players) more) rest).traps [] =
        true := by
  refine ⟨?_, ?_, ?_⟩
  · simp [AppCode.traps, ReFn.takes, ReStep.takes, inviteFn]
  · simp [AppCode.traps, ReFn.takes, ReStep.takes, setDeviceFn]
  · simp [AppCode.traps, ReFn.takes, ReStep.takes, useExternalFn]

/-! ### Rings -/

/-- One app's thread takes up the code, re_main the function, and nobody anything else. -/
def TakesUpOnly (n : Nat) (code : AppCode) (fn : ReFn) : LockAct VoxThread Mutex ReFn → Prop
  | .enter .reMain ops => ops = fn.ops
  | .enter (.app k) ops => k = n ∧ ops = code.ops
  | _ => True

section Hangs

variable {n : Nat} {code : AppCode} {fn : ReFn} {s s' : VoxThreads} {a : LockAct VoxThread Mutex ReFn}
  {holder : Mutex → Option VoxThread} {ops appOps : List VoxOp}

/-- Such runs get to the state. -/
def Reached (n : Nat) (code : AppCode) (fn : ReFn) (s : VoxThreads) : Prop :=
  ∃ u, voxThreads.Run (fun _ a => TakesUpOnly n code fn a) s u

theorem Reached.step (h : Reached n code fn s) (htakes : TakesUpOnly n code fn a)
    (hstep : Step .reMain ReFn.ops s a s') : Reached n code fn s' := by
  obtain ⟨u, hrun⟩ := h
  exact ⟨_, hrun.step htakes hstep.machine⟩

theorem Reached.run (h : Reached n code fn s) {t : VoxThread} (hstep : Step .reMain ReFn.ops s (.run t) s') :
    Reached n code fn s' := h.step (a := .run t) trivial hstep

/-- Nobody waits, and only re_main and the app's thread may be at something. -/
structure TwoAt (n : Nat) (holder : Mutex → Option VoxThread) (ops appOps : List VoxOp) (s : VoxThreads) : Prop where
  holder : s.holder = holder
  reMain : s.todo .reMain = ops
  app : s.todo (.app n) = appOps
  waits : ∀ t, s.waits t = false
  serving : s.serving = none

theorem TwoAt.enter (n : Nat) (code : AppCode) (fn : ReFn) :
    ∃ s, Reached n code fn s ∧ TwoAt n (fun _ => none) fn.ops [] s := by
  have hstart : Reached n code fn idleThreads := ⟨[], .start rfl⟩
  have hstep := hstart.step (a := .enter .reMain fn.ops) rfl (.enters rfl rfl fun _ => rfl)
  exact ⟨_, hstep, rfl, by simp [doNext], by simp [doNext, idleThreads], fun _ => rfl, rfl⟩

theorem TwoAt.lock (h : TwoAt n holder (.lock m :: ops) appOps s) (hreached : Reached n code fn s)
    (hfree : holder m = none) :
    ∃ s', Reached n code fn s' ∧ TwoAt n (Function.update holder m (some .reMain)) ops appOps s' := by
  have hstep : Step .reMain ReFn.ops s (.run .reMain) _ := .locks (h.waits .reMain) h.reMain (h.holder ▸ hfree)
  exact ⟨_, hreached.run hstep, by simp [h.holder], by simp [doNext], by simp [doNext, h.app], h.waits,
    h.serving⟩

theorem TwoAt.unlock (h : TwoAt n holder (.unlock m :: ops) appOps s) (hreached : Reached n code fn s)
    (hmine : holder m = some .reMain) :
    ∃ s', Reached n code fn s' ∧ TwoAt n (Function.update holder m none) ops appOps s' := by
  have hstep : Step .reMain ReFn.ops s (.run .reMain) _ := .unlocks (h.waits .reMain) h.reMain (h.holder ▸ hmine)
  exact ⟨_, hreached.run hstep, by simp [h.holder], by simp [doNext], by simp [doNext, h.app], h.waits,
    h.serving⟩

/-- The app's thread takes up its code and comes to its first mutex. -/
theorem TwoAt.appLock (h : TwoAt n holder ops [] s) (hreached : Reached n code fn s)
    (hcode : code.ops = .lock m :: appOps) (hfree : holder m = none) :
    ∃ s', Reached n code fn s' ∧ TwoAt n (Function.update holder m (some (.app n))) ops appOps s' := by
  have henter := hreached.step (a := .enter (.app n) code.ops) ⟨rfl, rfl⟩ (.enters h.app (h.waits _) (by simp))
  have hstep : Step .reMain ReFn.ops (s.doNext (.app n) code.ops) (.run (.app n)) _ :=
    .locks (h.waits (.app n)) (((doNext_todo _).trans (if_pos rfl)).trans hcode) (h.holder ▸ hfree)
  exact ⟨_, henter.run hstep, by simp [doNext, h.holder], by simp [doNext, h.reMain], by simp [doNext],
    h.waits, h.serving⟩

theorem hangs_of_ring (h : s.Ring .reMain fun t => t = .reMain ∨ t = .app n)
    (C : VoxThreads → LockAct VoxThread Mutex ReFn → Prop) (v : Trace (LockAct VoxThread Mutex ReFn) Empty)
    (s' : VoxThreads) (hsteps : voxThreads.Steps C s v s') :
    s'.isIdle .reMain .reMain = false ∧ s'.isIdle .reMain (.app n) = false :=
  ⟨(h.steps hsteps).busy (.inl rfl), (h.steps hsteps).busy (.inr rfl)⟩

/-- re_main needs a mutex of the app's thread, and that waits for re_main. -/
theorem TwoAt.exists_ring_of_sync {fn' : ReFn} (h : TwoAt n holder (.lock m :: ops) (.sync fn' :: appOps) s)
    (hreached : Reached n code fn s) (hholder : holder m = some (.app n)) :
    ∃ s', Reached n code fn s' ∧ s'.Ring .reMain fun t => t = .reMain ∨ t = .app n := by
  have hstep : Step .reMain ReFn.ops s (.run (.app n)) _ := .asks (h.waits (.app n)) h.app (by simp)
  refine ⟨_, hreached.run hstep, ?_⟩
  rintro t (rfl | rfl)
  · have hlock : (s.doNext (.app n) appOps).todo .reMain = .lock m :: ops := by simp [doNext, h.reMain]
    exact ⟨.app n, .mutex (by simp [h.waits]) hlock (h.holder ▸ hholder), .inr rfl⟩
  · exact ⟨.reMain, .server (by simp) (by simp), .inl rfl⟩

/-- Each of the two needs a mutex of the other's. -/
theorem TwoAt.ring {m' : Mutex} (h : TwoAt n holder (.lock m :: ops) (.lock m' :: appOps) s)
    (hholder : holder m = some (.app n)) (hholder' : holder m' = some .reMain) :
    s.Ring .reMain fun t => t = .reMain ∨ t = .app n := by
  rintro t (rfl | rfl)
  · exact ⟨.app n, .mutex (h.waits _) h.reMain (h.holder ▸ hholder), .inr rfl⟩
  · exact ⟨.reMain, .mutex (h.waits _) h.app (h.holder ▸ hholder'), .inl rfl⟩

/-- **Any call that waits, made in a callback of `voxsdk_call_foreach`, can hang**, whatever function it waits for:
if re_main has an event about any call at hand, some schedule leads to where neither ever goes on. -/
theorem waiting_callback_can_hang (n : Nat) (fn : ReFn) (more rest : AppCode) (ua lc : Bool) (what : BeventCase) :
    ∃ s u, voxThreads.Run
        (fun _ a => TakesUpOnly n (.callForeach (.dispatchSync fn more) rest) (beventHandler ua true lc what) a) s u ∧
      ∀ C v s', voxThreads.Steps C s v s' →
        s'.isIdle .reMain .reMain = false ∧ s'.isIdle .reMain (.app n) = false := by
  obtain ⟨s₁, h₁, hat₁⟩ := TwoAt.enter n (.callForeach (.dispatchSync fn more) rest) (beventHandler ua true lc what)
  obtain ⟨ops, s₂, holder, h₂, hat₂, hfree⟩ : ∃ ops s₂ holder,
      Reached n (.callForeach (.dispatchSync fn more) rest) (beventHandler ua true lc what) s₂ ∧
        TwoAt n holder (.lock .calls :: ops) [] s₂ ∧ holder .calls = none := by
    cases ua with
    | false => exact ⟨_, s₁, _, h₁, hat₁, rfl⟩
    | true =>
        obtain ⟨s₂, h₂, hat₂⟩ := hat₁.lock h₁ rfl
        obtain ⟨s₃, h₃, hat₃⟩ := hat₂.unlock h₂ rfl
        exact ⟨_, s₃, _, h₃, hat₃, rfl⟩
  obtain ⟨s₃, h₃, hat₃⟩ := hat₂.appLock h₂ rfl hfree
  obtain ⟨s₄, ⟨u, hrun⟩, hring⟩ := hat₃.exists_ring_of_sync h₃ (Function.update_self _ _ _)
  exact ⟨s₄, u, hrun, hangs_of_ring hring⟩

/-- **A push whose tap still looks for its call can hang with a switch of devices**: some schedule of
`voxsdk_audio_external_push` and `set_input_fn` leads to where neither ever goes on. -/
theorem push_can_hang (n finds devices : Nat) (inside rest : AppCode) :
    ∃ s u, voxThreads.Run
        (fun _ a => TakesUpOnly n (.externalPush (finds + 1) inside rest) (setDeviceFn (devices + 1)) a) s u ∧
      ∀ C v s', voxThreads.Steps C s v s' →
        s'.isIdle .reMain .reMain = false ∧ s'.isIdle .reMain (.app n) = false := by
  obtain ⟨s₁, h₁, hat₁⟩ := TwoAt.enter n (.externalPush (finds + 1) inside rest) (setDeviceFn (devices + 1))
  obtain ⟨s₂, h₂, hat₂⟩ := hat₁.lock h₁ rfl
  obtain ⟨s₃, ⟨u, hrun⟩, hat₃⟩ := hat₂.appLock h₂ rfl rfl
  exact ⟨s₃, u, hrun, hangs_of_ring (hat₃.ring rfl rfl)⟩

end Hangs

end VoxSdk
