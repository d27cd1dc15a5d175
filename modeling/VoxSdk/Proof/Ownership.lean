import VoxSdk.Proof.CallLemmas
import VoxSdk.Proof.HandoverLemmas

/-!
# Who judges a migration

A call in the middle of a migration is judged by `verify_handler`, which goes by the generation and
looks at the first `netMaxSnap` calls. `keepsOwners` says of a step, from the state before it, that no
such call is left behind: by a generation that is bumped without migrating calls, or past the
snapshot.
-/

namespace VoxSdk

open Reactive

/-- The fields the verify timer goes by. -/
structure VerifyPart where
  started : Bool
  gen : Nat
  tmrVerify : Timer

def Netmon.verifyPart (nm : Netmon) : VerifyPart :=
  { started := nm.started, gen := nm.gen, tmrVerify := nm.tmrVerify }

namespace Call

variable {g : Cfg} {nm : Netmon} {now : Nat} {env : NetEnv} {c : Call}

/-- A pending call is of the current generation, and the verify timer is armed for it. -/
structure Owned (p : VerifyPart) (c : Call) : Prop where
  live : c.bc = true
  gen : c.netMigState.isPending = true → c.netMigGen = p.gen
  armed : c.netMigState.isPending = true → p.tmrVerify.isRunning = true

theorem Owned.of_not_pending {p : VerifyPart} (hbc : c.bc = true)
    (h : c.netMigState.isPending = false) : c.Owned p :=
  ⟨hbc, fun hp => absurd (h.symm.trans hp) (by decide), fun hp => absurd (h.symm.trans hp) (by decide)⟩

theorem Owned.of_same {p : VerifyPart} {d : Call} (h : c.Owned p) (hbc : d.bc = c.bc)
    (hstate : d.netMigState = c.netMigState) (hgen : d.netMigGen = c.netMigGen) : d.Owned p :=
  ⟨hbc.trans h.live, fun hp => hgen.trans (h.gen (hstate ▸ hp)), fun hp => h.armed (hstate ▸ hp)⟩

theorem startMigration_gen (hbc : c.bc = true) :
    (c.startMigration g nm now env).netMigGen = nm.gen :=
  (claim_migrates hbc).gen_eq.trans (claim_frame nm now c).2.2.2

/-- Judging stays in the generation. -/
theorem verify_gen (hbc : c.bc = true) (hgen : c.netMigGen = nm.gen) :
    (c.verify g nm now env).netMigGen = nm.gen := by
  have hcharge : c.Migrates c.charge := .update .refl rfl rfl rfl
  unfold verify
  rw [if_neg (not_not.mpr hgen), if_neg (by simp [hbc])]
  split
  · exact startMigration_gen hbc
  · simp only
    split
    · exact (hcharge.failMigration _).gen_eq.trans hgen
    · exact startMigration_gen hbc
  · split
    · exact Migrates.refl.sendMigration.gen_eq.trans hgen
    · simp only
      split
      · exact (hcharge.failMigration _).gen_eq.trans hgen
      · exact hgen
  · exact Migrates.refl.judge.gen_eq.trans hgen
  all_goals exact hgen

/-- A call of another generation is not looked at, and if none of them is pending, then what is
pending after the judging is of this one. -/
theorem verify_owed (hbc : c.bc = true)
    (hgen : c.netMigState.isPending = true → c.netMigGen = nm.gen)
    (hp : (c.verify g nm now env).netMigState.isPending = true) :
    (c.verify g nm now env).netMigGen = nm.gen := by
  by_cases hsame : c.netMigGen = nm.gen
  · exact verify_gen hbc hsame
  · have hleft : c.verify g nm now env = c := if_pos hsame
    rw [hleft] at hp ⊢
    exact hgen hp

theorem failMigration_state (err : Errno) :
    (c.failMigration g nm now env err).netMigState = .failed := by
  simp only [failMigration]
  split <;> rfl

theorem failPending_not_pending (hbc : c.bc = true) (err : Errno) :
    (c.failPending g nm now env err).netMigState.isPending = false := by
  unfold failPending
  split
  · rename_i hover
    simp only [hbc, Bool.not_true, Bool.false_or, Bool.or_eq_true, decide_eq_true_eq] at hover
    rcases hover with h | h <;> rw [h] <;> rfl
  · rw [failMigration_state]
    rfl

theorem stallRepair_frame {packets : Nat} {setupPending : Bool}
    (h : (c.stallRepair g nm now env packets setupPending).2 = false) :
    (c.stallRepair g nm now env packets setupPending).1.bc = c.bc ∧
      (c.stallRepair g nm now env packets setupPending).1.netMigState = c.netMigState ∧
      (c.stallRepair g nm now env packets setupPending).1.netMigGen = c.netMigGen := by
  obtain heq | ⟨-, heq⟩ := stallRepair_cases g nm now env c packets setupPending
  · rw [heq]
    exact stallTick_frame packets setupPending
  · rw [heq] at h
    cases h

/-- A repair is of the current generation, and only for a live call. -/
theorem stallRepair_started {packets : Nat} {setupPending : Bool}
    (h : (c.stallRepair g nm now env packets setupPending).2 = true) :
    (c.stallRepair g nm now env packets setupPending).1.bc = true ∧
      (c.stallRepair g nm now env packets setupPending).1.netMigGen = nm.gen := by
  obtain heq | ⟨hdeclines, heq⟩ := stallRepair_cases g nm now env c packets setupPending
  · rw [heq] at h
    cases h
  · have hbc : (c.stallTick g now env packets setupPending).1.bc = true := by
      by_contra hbc
      simp [declinesRepair, hbc] at hdeclines
    rw [heq]
    exact ⟨hbc, rfl⟩

theorem stallRepair_owed {packets : Nat} {setupPending : Bool} (hbc : c.bc = true)
    (hgen : c.netMigState.isPending = true → c.netMigGen = nm.gen) :
    (c.stallRepair g nm now env packets setupPending).1.bc = true ∧
      ((c.stallRepair g nm now env packets setupPending).1.netMigState.isPending = true →
        (c.stallRepair g nm now env packets setupPending).1.netMigGen = nm.gen) := by
  cases hasked : (c.stallRepair g nm now env packets setupPending).2 with
  | false =>
      obtain ⟨hbc', hstate, hgen'⟩ := stallRepair_frame hasked
      rw [hbc', hstate, hgen']
      exact ⟨hbc, hgen⟩
  | true =>
      obtain ⟨hbc', hgen'⟩ := stallRepair_started hasked
      exact ⟨hbc', fun _ => hgen'⟩

end Call

namespace Sys

variable {g : Cfg} {env : NetEnv} {s : Sys}

/-! ### The verify timer's fields -/

theorem linkDown_verifyPart (curLaddr : CStr) :
    (s.linkDown curLaddr).nm.verifyPart = s.nm.verifyPart := by
  unfold linkDown
  split <;> rfl

theorem noteLink_verifyPart : (s.noteLink env).nm.verifyPart = s.nm.verifyPart := by
  unfold noteLink
  split
  · exact linkDown_verifyPart _
  · unfold linkUp
    split <;> rfl

theorem netmonTrigger_verifyPart (forced : Bool) :
    (s.netmonTrigger env forced).nm.verifyPart = s.nm.verifyPart := by
  unfold netmonTrigger
  split
  · rfl
  · simp only
    split
    · rfl
    · change ((s.noteChange env forced).announce env).nm.verifyPart = s.nm.verifyPart
      unfold announce
      split <;> rfl

theorem netmonTrigger_calls (forced : Bool) : (s.netmonTrigger env forced).calls = s.calls := by
  unfold netmonTrigger
  split
  · rfl
  · simp only
    split
    · rfl
    · exact (announce_frame env _).2.1

/-! ### Every pending call has an owner -/

/-- Each call of the list is live, and if pending, it will be judged. -/
structure Owned (s : Sys) : Prop where
  started : s.nm.started = true
  calls : ∀ c ∈ s.calls, c.Owned s.nm.verifyPart

theorem Owned.congr {s' : Sys} (h : s.Owned) (hcalls : s'.calls = s.calls)
    (hpart : s'.nm.verifyPart = s.nm.verifyPart) : s'.Owned := by
  refine ⟨(congrArg VerifyPart.started hpart).trans h.started, ?_⟩
  rw [hcalls, hpart]
  exact h.calls

/-- Arming the timer, whenever it is, takes nothing from a call. -/
theorem Owned.bounceVerify (h : s.Owned) : s.bounceVerify.Owned :=
  ⟨h.started, fun c hc => ⟨(h.calls c hc).live, (h.calls c hc).gen, fun _ => rfl⟩⟩

theorem Owned.onCall (h : s.Owned) {id : Nat} {work : Call → Call}
    (hbc : ∀ c, (work c).bc = c.bc := by exact fun _ => rfl)
    (hstate : ∀ c, (work c).netMigState = c.netMigState := by exact fun _ => rfl)
    (hgen : ∀ c, (work c).netMigGen = c.netMigGen := by exact fun _ => rfl) :
    (s.onCall id work).Owned := by
  refine ⟨h.started, forall_mem_sweep_of_keeps (fun c _ hc => ?_) h.calls⟩
  exact hc.of_same (hbc c.idle) (hstate c.idle) (hgen c.idle)

/-- The calls past the snapshot that are in the middle of a migration. -/
def pendingPastSnapshot (s : Sys) : Bool :=
  (s.calls.drop netMaxSnap).any fun c => c.netMigState.isPending

theorem not_pending_of_mem_drop (hpast : s.pendingPastSnapshot = false) {c : Call}
    (hc : c ∈ s.calls.drop netMaxSnap) : c.netMigState.isPending = false := by
  simp only [pendingPastSnapshot, List.any_eq_false, Bool.not_eq_true] at hpast
  exact hpast c hc

/-- A loop that leaves its calls in the generation or at rest, followed by `arm_verify`, leaves them
owned, if no call past the snapshot needs it. -/
theorem owned_armVerify {work : Call → Call} (hstarted : s.nm.started = true)
    (hwork : ∀ c ∈ s.calls.take netMaxSnap,
      (work c.idle).netMigState.isPending = true → (work c.idle).netMigGen = s.nm.gen)
    (hpast : s.pendingPastSnapshot = false) : (s.sweepCalls work).armVerify.Owned := by
  refine ⟨hstarted, fun d hd => ?_⟩
  obtain ⟨hbc, ⟨c, hc, rfl⟩ | hrest⟩ := mem_sweepCalls hd
  · refine ⟨hbc, hwork c hc, fun hp => isRunning_nextVerify (mem_take_sweepCalls hc hbc) ?_⟩
    exact Bool.and_eq_true_iff.mpr ⟨decide_eq_true (hwork c hc hp), hp⟩
  · exact .of_not_pending hbc (not_pending_of_mem_drop hpast hrest)

theorem Owned.verifyHandler (h : s.Owned) (hpast : s.pendingPastSnapshot = false) :
    (({ s with nm.tmrVerify := none }).verifyHandler g env).Owned := by
  unfold Sys.verifyHandler
  rw [if_neg (by simp [h.started])]
  refine owned_armVerify h.started (fun c hc hp => ?_) hpast
  have hc := h.calls c (List.mem_of_mem_take hc)
  exact Call.verify_owed (c := c.idle) hc.live hc.gen hp

theorem owned_migrateCalls (hstarted : s.nm.started = true) (hlive : ∀ c ∈ s.calls, c.bc = true)
    (hpast : s.pendingPastSnapshot = false) : (s.migrateCalls g env).Owned :=
  owned_armVerify hstarted
    (fun c hc _ => Call.startMigration_gen (c := c.idle) (hlive c (List.mem_of_mem_take hc))) hpast

theorem Owned.failPendingMigrations (h : s.Owned) (err : Errno) :
    (s.failPendingMigrations g env err).Owned := by
  refine ⟨h.started, fun d hd => ?_⟩
  obtain ⟨hbc, ⟨c, hc, rfl⟩ | hrest⟩ := mem_sweepCalls hd
  · exact .of_not_pending hbc
      (Call.failPending_not_pending (c := c.idle) (h.calls c (List.mem_of_mem_take hc)).live err)
  · exact h.calls d (List.mem_of_mem_drop hrest)

theorem Owned.giveUp (h : s.Owned) (err : Errno) : (s.giveUp g env err).Owned := by
  have hretry : (({ s with nm.attempt := 0 }).handoverAccountsToRetry g env).Owned :=
    h.congr rfl rfl
  exact (hretry.failPendingMigrations err).congr rfl rfl

theorem Owned.resetFailed (h : s.Owned) (err : Errno) : (s.resetFailed g env err).Owned := by
  simp only [Sys.resetFailed]
  split
  · exact h.congr rfl rfl
  · have hreported : (({ s with nm.attempt := s.nm.attempt + 1 }).emitNet .handoverFailed
        (some err) (s.nm.attempt + 1)).Owned := h.congr rfl rfl
    exact hreported.giveUp err

/-- A generation that starts now leaves a call behind: past the snapshot, or, without re-INVITEs,
wherever it is. -/
def leavesPending (s : Sys) : Bool :=
  if s.nm.reinviteCalls then s.pendingPastSnapshot
  else s.calls.any fun c => c.netMigState.isPending

theorem Owned.resetDone (h : s.Owned) (hleaves : s.leavesPending = false) :
    (s.resetDone g env).Owned := by
  unfold leavesPending at hleaves
  rw [resetDone_eq]
  cases hreinvite : s.nm.reinviteCalls with
  | true =>
      rw [hreinvite, if_pos rfl] at hleaves
      exact owned_migrateCalls h.started (fun c hc => (h.calls c hc).live) hleaves
  | false =>
      simp only [hreinvite, Bool.false_eq_true, if_false, List.any_eq_false] at hleaves
      exact ⟨h.started, fun c hc =>
        .of_not_pending (h.calls c hc).live (by simpa using hleaves c hc)⟩

theorem Owned.resetTransports (h : s.Owned)
    (hreset : env.resetTransp = none → s.leavesPending = false) :
    (s.resetTransports g env).Owned := by
  obtain ⟨os, heq, -⟩ := resetTransports_eq g env s
  have hemit : (s.emit os).Owned := h.congr rfl rfl
  rw [heq, Sys.resetOutcome]
  cases htransp : env.resetTransp with
  | some err => exact hemit.resetFailed err
  | none => exact hemit.resetDone (hreset htransp)

theorem Owned.applyHandover (h : s.Owned)
    (hreset : (env.routable || env.linklocal) = true → env.resetTransp = none →
      s.leavesPending = false) : (s.applyHandover g env).Owned := by
  unfold Sys.applyHandover
  split
  · exact h.congr (linkDown_frame _).2.1 (linkDown_verifyPart _)
  · rename_i hbind
    have hbind : (env.routable || env.linklocal) = true := by
      simpa only [← Bool.not_or, Bool.not_eq_true', Bool.not_eq_false] using hbind
    have hlink : (({ s with nm.waitTicks := 0 }).noteLink env).Owned :=
      h.congr noteLink_frame.2 noteLink_verifyPart
    refine hlink.resetTransports fun htransp => ?_
    simp only [leavesPending, pendingPastSnapshot, noteLink_policy.2, noteLink_frame]
    exact hreset hbind htransp

/-- The steps that leave no call behind. -/
def keepsOwners (s : Sys) : SysAct → Bool
  | .settleFires env => !(s.startsGeneration env && s.leavesPending)
  | .verifyFires _ => !s.pendingPastSnapshot
  | _ => true

theorem Owned.settleHandler (h : s.Owned)
    (hkeeps : (s.startsGeneration env && s.leavesPending) = false) :
    (({ s with nm.tmrSettle := none }).settleHandler g env).Owned := by
  unfold Sys.settleHandler
  split
  · exact ⟨h.started, h.calls⟩
  · split
    · exact ⟨h.started, h.calls⟩
    · rename_i hscan
      split
      · exact ⟨h.started, h.calls⟩
      · rename_i howed
        refine Owned.applyHandover (s := { s with nm.tmrSettle := none }) ⟨h.started, h.calls⟩
          fun hbind htransp => ?_
        replace howed : ¬(!s.isOwed) = true := howed
        rw [Bool.not_eq_true', Bool.not_eq_false] at howed
        have hstarts : s.startsGeneration env = true := by
          simp [startsGeneration, not_not.mp hscan, howed, hbind, htransp]
        rwa [hstarts, Bool.true_and] at hkeeps

/-- A repair that is started is of the current generation, and the timer is armed for it. -/
theorem Owned.statsTick (h : s.Owned) (id packets : Nat) (setupPending : Bool) :
    (s.statsTick g env id packets setupPending).Owned := by
  simp only [Sys.statsTick]
  split
  · refine ⟨h.started, fun d hd => ?_⟩
    obtain ⟨hbc, hgen⟩ := forall_mem_sweep_of_keeps
      (P := fun c : Call => c.bc = true ∧ (c.netMigState.isPending = true → c.netMigGen = s.nm.gen))
      (fun c _ hc => Call.stallRepair_owed (c := c.idle) hc.1 hc.2)
      (fun c hc => ⟨(h.calls c hc).live, (h.calls c hc).gen⟩) d hd
    exact ⟨hbc, hgen, fun _ => rfl⟩
  · rename_i hasked
    simp only [hasCall, Bool.not_eq_true, List.any_eq_false, Bool.and_eq_true, decide_eq_true_eq,
      not_and] at hasked
    refine ⟨h.started, forall_mem_sweep (fun c hc hown => ?_) (fun _ _ _ hown => hown)
      (fun _ _ hown => hown) h.calls⟩
    obtain ⟨hmem, hid⟩ := mem_reached hc
    obtain ⟨hbc, hstate, hgen⟩ :=
      Call.stallRepair_frame (by simpa using hasked c hmem (of_decide_eq_true hid))
    exact hown.of_same hbc hstate hgen

theorem owned_step {s' : Sys} {act : SysAct} {os : List SysOut} (h : s.Owned)
    (hkeeps : s.keepsOwners act = true) (hstep : (system g).step s act = some (s', os)) :
    s'.Owned := by
  obtain ⟨-, rfl, -⟩ := system_step hstep
  have hidle : s.idle.Owned := ⟨h.started, h.calls⟩
  cases act with
  | createCall id acct state =>
      refine ⟨h.started, fun c hc => ?_⟩
      rcases List.mem_append.mp hc with hc | hc
      · exact h.calls c hc
      · obtain rfl := List.mem_singleton.mp hc
        exact .of_not_pending rfl rfl
  | callClosed id => exact ⟨h.started, fun c hc => h.calls c (List.mem_filter.mp hc).1⟩
  | callRinging id | callHeld id | callLocalHold id _ =>
      simp only [handle]
      exact hidle.onCall
  | callEstablished id | callResumed id =>
      simp only [handle]
      rcases callRefreshable_eq (s := s.idle.onCall id _) id with heq | heq <;> rw [heq]
      · exact hidle.onCall
      · exact hidle.onCall.bounceVerify
  | callSdpAnswer id env =>
      refine hidle.onCall ?_ ?_ ?_
      all_goals
        intro c
        unfold Call.sdpAnswer
        repeat' split
        all_goals rfl
  | statsTick id packets setupPending env => exact hidle.statsTick id packets setupPending
  | networkChanged env =>
      exact hidle.congr (netmonTrigger_calls true) (netmonTrigger_verifyPart true)
  | pollFires env =>
      have hpoll : ({ s.idle with nm.tmrPoll := none }).Owned := hidle.congr rfl rfl
      obtain ⟨tmrPoll, heq⟩ := pollHandler_eq env hpoll.started
      simp only [handle]
      rw [heq]
      exact hpoll.congr (netmonTrigger_calls false)
        (netmonTrigger_verifyPart (s := { s.idle with nm.tmrPoll := none }) false)
  | settleFires env => exact hidle.settleHandler ((Bool.not_eq_true' _).mp hkeeps)
  | verifyFires env => exact hidle.verifyHandler ((Bool.not_eq_true' _).mp hkeeps)
  | _ => exact ⟨h.started, h.calls⟩

end Sys

/-- **No pending call without an owner.** In a run that never starts a generation or judges while a call
it does not reach is pending, every pending call is of the current generation with the verify timer
armed, so stall detection is suppressed only for a call on hold or with a repair that will be judged. -/
theorem pending_calls_owned {g : Cfg} {s : Sys} {t : Trace SysAct SysOut}
    (hrun : (system g).Run (fun s act => s.keepsOwners act) s t) :
    ∀ c ∈ s.calls,
      (c.netMigState.isPending = true →
        c.netMigGen = s.nm.gen ∧ s.nm.tmrVerify.isRunning = true) ∧
      ∀ env, c.stallSuppressed env = true →
        c.onHold env = true ∨ (c.isOwed s.nm = true ∧ s.nm.tmrVerify.isRunning = true) := by
  have howned : s.Owned := by
    refine hrun.stateInvariant ?_ fun s act s' os hs hkeeps hstep => Sys.owned_step hs hkeeps hstep
    rintro _ ⟨now, up, curLaddr, rfl⟩
    exact ⟨rfl, by simp⟩
  intro c hc
  obtain ⟨-, hgen, harmed⟩ := howned.calls c hc
  refine ⟨fun hp => ⟨hgen hp, harmed hp⟩, fun env hsuppressed => ?_⟩
  rcases Bool.or_eq_true_iff.mp hsuppressed with hhold | hp
  · exact .inl hhold
  · exact .inr ⟨Bool.and_eq_true_iff.mpr ⟨decide_eq_true (hgen hp), hp⟩, harmed hp⟩

/-- The network of `calm` while each call has a transaction of its own in progress, and still the
session of the address before. -/
def NetEnv.busy : NetEnv :=
  { NetEnv.calm with
    call := fun id =>
      { NetEnv.calm.call id with refreshAllowed := false, laddr := some (.v4 0xc0000208) } }

/-- A call that stalls just before a handover moves to the handover's generation. -/
theorem pending_calls_owned_stalled :
    ∃ (s : Sys) (c : Call), c ∈ s.calls ∧ c.netMigState = .deferred ∧ c.netMigGen = 1 ∧
      s.nm.gen = 1 ∧ s.nm.tmrVerify.isRunning = true := by
  obtain ⟨s, t, hrun, hend⟩ := Machine.exists_run_of_exec Sys.keepsOwners (justStarted_init configInit)
    [.createCall 1 none .calling, .callEstablished 1, .elapse 3000, .networkChanged .calm,
      .elapse 1000, .statsTick 1 0 false .calm, .elapse 1, .verifyFires .busy, .elapse 499,
      .settleFires .busy]
    (fun s _ => s.calls.any fun c => decide (c.netMigState = .deferred) && decide (s.nm.gen = 1))
    (by decide +kernel)
  simp only [List.any_eq_true, Bool.and_eq_true, decide_eq_true_eq] at hend
  obtain ⟨c, hc, hdeferred, hone⟩ := hend
  obtain ⟨hgen, harmed⟩ := (pending_calls_owned hrun c hc).1 (by rw [hdeferred]; rfl)
  exact ⟨s, c, hc, hdeferred, hgen.trans hone, hone, harmed⟩

/-- The same with re-INVITEs switched off: the generation moves on, the deferred call does not, and the
next time the verify timer fires is the last. -/
theorem handover_orphans_repair :
    ¬ ∀ (g : Cfg) (s : Sys) (t : Trace SysAct SysOut), (system g).Run Machine.Always s t →
      ∀ c ∈ s.calls, c.netMigState.isPending = true →
        c.netMigGen = s.nm.gen ∧ s.nm.tmrVerify.isRunning = true := by
  intro h
  obtain ⟨s, t, hrun, hend⟩ := Machine.exists_run_of_exec (fun _ _ => true)
    (justStarted_init configInit)
    [.setPolicy false false, .createCall 1 none .calling, .callEstablished 1, .elapse 3000,
      .networkChanged .calm, .elapse 1000, .statsTick 1 0 false .calm, .elapse 1,
      .verifyFires .busy, .elapse 499, .settleFires .calm, .elapse 1001, .verifyFires .calm]
    (fun s _ => s.calls.any fun c => c.netMigState.isPending && decide (s.nm.tmrVerify = none))
    (by decide +kernel)
  simp only [List.any_eq_true, Bool.and_eq_true, decide_eq_true_eq] at hend
  obtain ⟨c, hc, hp, hnone⟩ := hend
  obtain ⟨-, harmed⟩ := h configInit s t hrun.always c hc hp
  simp [hnone] at harmed

end VoxSdk
