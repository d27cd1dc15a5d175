import VoxSdk.Proof.CallLemmas
import VoxSdk.Proof.HandoverLemmas

/-!
# A step as one call sees it

Calls have numbers of their own, and what a handler puts out about a call carries its number. So a
step is, for each call, its own turn in some loop, or no turn at all.
-/

namespace VoxSdk

open Reactive

theorem SysOut.ofCall_eq {o : SysOut} {id : Nat} (h : o.ofCall id = true) (k : Nat) :
    o.ofCall k = decide (k = id) := by
  cases o with
  | net r =>
      simp only [ofCall, Bool.and_eq_true, decide_eq_true_eq] at h
      simp [ofCall, h.1, h.2, eq_comm]
  | iceRestart call _ | callResetTransp call _ | uaHangup call | mediaStall call _ _ =>
      obtain rfl : call = id := of_decide_eq_true h
      simp [ofCall, eq_comm]
  | acct _ _ | dnsRefresh | uagResetTransp => cases h

/-- The fields that work on a call goes by. -/
structure MigrationPart where
  started : Bool
  gen : Nat
  verifyMs : Nat
  maxAttempts : Nat
  reinviteCalls : Bool
  hangupOnFail : Bool
  iceHandover : IceHandover

def Netmon.migrationPart (nm : Netmon) : MigrationPart :=
  { started := nm.started
    gen := nm.gen
    verifyMs := nm.verifyMs
    maxAttempts := nm.maxAttempts
    reinviteCalls := nm.reinviteCalls
    hangupOnFail := nm.hangupOnFail
    iceHandover := nm.iceHandover }

namespace Sys

variable {g : Cfg} {env : NetEnv} {s s' s'' : Sys} {c : Call} {work : Call → Call}

/-- The calls with the id: one, or none. -/
def ofId (id : Nat) (s : Sys) : List Call := s.calls.filter fun c => decide (c.id = id)

/-- What has been put out about the call with the id. -/
def said (id : Nat) (s : Sys) : List SysOut := s.out.filter (SysOut.ofCall id)

/-- Between two steps: every call has its own number, and baresip's call with it. -/
structure Tidy (s : Sys) : Prop where
  started : s.nm.started = true
  nodup : (s.calls.map Call.id).Nodup
  live : ∀ c ∈ s.calls, c.bc = true

theorem ofId_eq (hnodup : (s.calls.map Call.id).Nodup) (hc : c ∈ s.calls) : s.ofId c.id = [c] :=
  filter_key hnodup hc

theorem hasCall_eq (id : Nat) (test : Call → Bool) (s : Sys) :
    s.hasCall id test = (s.ofId id).any test := by
  rw [hasCall, ofId, List.any_filter]

/-! ### Turns -/

theorem adds_id (hadds : ∀ c : Call, c.Adds (work c)) (c : Call) :
    (work c.idle).flush.1.id = c.id := (hadds c.idle).1

theorem adds_owns (hadds : ∀ c : Call, c.Adds (work c)) (c : Call) :
    ∀ o ∈ (work c.idle).flush.2, ∀ k, o.ofCall k = decide (k = c.id) := by
  intro o ho k
  obtain ⟨-, os, hos, hall⟩ := hadds c.idle
  rw [Call.flush_snd, hos] at ho
  exact SysOut.ofCall_eq (hall o ho) k

/-- A loop over calls, as each of them sees it. -/
theorem sweep_turn {test : Call → Bool} {limit : Nat} {calls : List Call}
    (hnodup : (calls.map Call.id).Nodup) (hadds : ∀ c : Call, c.Adds (work c)) (hc : c ∈ calls) :
    let swept := sweep test (fun c => (work c.idle).flush) limit calls
    (c ∈ reached test limit calls →
      swept.1.filter (fun d => decide (d.id = c.id)) = [(work c.idle).idle] ∧
        swept.2.filter (SysOut.ofCall c.id) = (work c.idle).out) ∧
      (c ∉ reached test limit calls →
        swept.1.filter (fun d => decide (d.id = c.id)) = [c] ∧
          swept.2.filter (SysOut.ofCall c.id) = []) := by
  intro swept
  have hcalls := @filter_sweep _ _ test _ limit _ _ _ _ _ hnodup (adds_id hadds) hc
  have houts := @filter_sweep_outs _ _ test _ limit _ _ _ _ _ _ hnodup (adds_owns hadds) hc
  exact ⟨fun h => ⟨hcalls.1 h, houts.1 h⟩, fun h => ⟨hcalls.2 h, houts.2 h⟩⟩

theorem sweepCalls_turn (h : s.Tidy) (hadds : ∀ c : Call, c.Adds (work c))
    (hc : c ∈ s.calls.take netMaxSnap) :
    (s.sweepCalls work).ofId c.id = [(work c.idle).idle].filter Call.bc ∧
      (s.sweepCalls work).said c.id = s.said c.id ++ (work c.idle).out := by
  have hreached : c ∈ reached (fun _ => true) netMaxSnap s.calls := by simpa [reached] using hc
  obtain ⟨hcalls, houts⟩ := (sweep_turn h.nodup hadds (List.mem_of_mem_take hc)).1 hreached
  constructor
  · unfold ofId
    rw [show (s.sweepCalls work).calls = List.filter Call.bc _ from rfl, List.filter_comm, hcalls]
  · exact (List.filter_append _ _).trans (congrArg _ houts)

theorem sweepCalls_past (h : s.Tidy) (hadds : ∀ c : Call, c.Adds (work c)) (hc : c ∈ s.calls)
    (hpast : c ∉ s.calls.take netMaxSnap) :
    (s.sweepCalls work).ofId c.id = [c] ∧ (s.sweepCalls work).said c.id = s.said c.id := by
  have hmissed : c ∉ reached (fun _ => true) netMaxSnap s.calls := by simpa [reached] using hpast
  obtain ⟨hcalls, houts⟩ := (sweep_turn h.nodup hadds hc).2 hmissed
  constructor
  · unfold ofId
    rw [show (s.sweepCalls work).calls = List.filter Call.bc _ from rfl, List.filter_comm, hcalls]
    exact List.filter_cons_of_pos (h.live c hc)
  · exact (List.filter_append _ _).trans ((congrArg _ houts).trans (List.append_nil _))

theorem mem_reached_id (hnodup : (s.calls.map Call.id).Nodup) (hc : c ∈ s.calls) :
    c ∈ reached (fun d => decide (d.id = c.id)) 1 s.calls := by
  have hself : s.calls.filter (fun d => decide (d.id = c.id)) = [c] := filter_key hnodup hc
  simp [reached, hself]

theorem onCall_turn (h : s.Tidy) (hadds : ∀ c : Call, c.Adds (work c)) (hc : c ∈ s.calls) :
    (s.onCall c.id work).ofId c.id = [(work c.idle).idle] ∧
      (s.onCall c.id work).said c.id = s.said c.id ++ (work c.idle).out := by
  obtain ⟨hcalls, houts⟩ := (sweep_turn h.nodup hadds hc).1 (mem_reached_id h.nodup hc)
  exact ⟨hcalls, (List.filter_append _ _).trans (congrArg _ houts)⟩

theorem onCall_other (h : s.Tidy) (hadds : ∀ c : Call, c.Adds (work c)) (hc : c ∈ s.calls) {id : Nat}
    (hne : id ≠ c.id) :
    (s.onCall id work).ofId c.id = [c] ∧ (s.onCall id work).said c.id = s.said c.id := by
  have hmissed : c ∉ reached (fun d => decide (d.id = id)) 1 s.calls := fun hmem =>
    hne (of_decide_eq_true (mem_reached hmem).2).symm
  obtain ⟨hcalls, houts⟩ := (sweep_turn h.nodup hadds hc).2 hmissed
  exact ⟨hcalls, (List.filter_append _ _).trans ((congrArg _ houts).trans (List.append_nil _))⟩

/-! ### Work that is not about calls -/

/-- `s'` is `s` after work that no call notices. -/
structure Quiet (s s' : Sys) : Prop where
  now : s'.now = s.now
  calls : s'.calls = s.calls
  part : s'.nm.migrationPart = s.nm.migrationPart
  said : ∀ id, s'.said id = s.said id

theorem Quiet.of_eq (hnow : s'.now = s.now) (hcalls : s'.calls = s.calls)
    (hpart : s'.nm.migrationPart = s.nm.migrationPart) (hout : s'.out = s.out) : s.Quiet s' :=
  ⟨hnow, hcalls, hpart, fun id => congrArg (List.filter (SysOut.ofCall id)) hout⟩

theorem Quiet.refl : s.Quiet s := .of_eq rfl rfl rfl rfl

theorem Quiet.trans (h : s.Quiet s') (h' : s'.Quiet s'') : s.Quiet s'' where
  now := h'.now.trans h.now
  calls := h'.calls.trans h.calls
  part := h'.part.trans h.part
  said id := (h'.said id).trans (h.said id)

theorem said_append {os : List SysOut} (hout : s'.out = s.out ++ os)
    (hos : ∀ o ∈ os, ∀ id, o.ofCall id = false) (id : Nat) : s'.said id = s.said id := by
  have hnone : os.filter (SysOut.ofCall id) = [] :=
    List.filter_eq_nil_iff.mpr fun o ho => by simp [hos o ho id]
  rw [said, hout, List.filter_append, hnone, List.append_nil, said]

theorem Quiet.emit {os : List SysOut} (hos : ∀ o ∈ os, ∀ id, o.ofCall id = false) :
    s.Quiet (s.emit os) := ⟨rfl, rfl, rfl, said_append rfl hos⟩

theorem quiet_emitNet (what : NetEvent) (err : Option Errno) (attempt : Nat) :
    s.Quiet (s.emitNet what err attempt) :=
  .emit fun o ho id => by
    obtain rfl := List.mem_singleton.mp ho
    rfl

/-- What is done about an account is about no call. -/
theorem quiet_sweepAccounts {work : Account → Account × List SysOut}
    (hwork : ∀ a, ∀ o ∈ (work a).2, ∀ id, o.ofCall id = false) : s.Quiet (s.sweepAccounts work) := by
  refine ⟨rfl, rfl, rfl, said_append rfl fun o ho id => ?_⟩
  rw [sweep_outs] at ho
  obtain ⟨a, -, ho⟩ := List.mem_flatMap.mp ho
  exact hwork a o ho id

theorem ofCall_flush (a : Account) : ∀ o ∈ a.flush.2, ∀ id, o.ofCall id = false := by
  intro o ho id
  obtain ⟨o', -, rfl⟩ := List.mem_map.mp ho
  rfl

theorem quiet_markAccountsReconnecting : s.Quiet s.markAccountsReconnecting :=
  quiet_sweepAccounts fun a => ofCall_flush a.idle.regReconnecting

theorem quiet_handoverAccountsToRetry (g : Cfg) (env : NetEnv) :
    s.Quiet (s.handoverAccountsToRetry g env) :=
  quiet_sweepAccounts fun a => ofCall_flush (a.idle.handoverToRetry g s.now (env.rand a.id))

theorem quiet_reregisterAccounts (env : NetEnv) : s.Quiet (s.reregisterAccounts env) := by
  refine quiet_sweepAccounts fun a o ho id => ?_
  have hflush := ofCall_flush (a.idle.reregister s.now (env.reporting a.id))
  simp only at ho
  split at ho
  · exact hflush o ho id
  · rcases List.mem_cons.mp ho with rfl | ho
    · rfl
    · exact hflush o ho id

theorem quiet_onAccount (id : Nat) (act : AcctAct) : s.Quiet (s.onAccount g id act) := by
  refine ⟨rfl, rfl, rfl, said_append rfl fun o ho id' => ?_⟩
  rw [sweep_outs] at ho
  obtain ⟨a, -, ho⟩ := List.mem_flatMap.mp ho
  exact ofCall_flush (a.idle.handle g s.now act) o ho id'

theorem quiet_linkDown (curLaddr : CStr) : s.Quiet (s.linkDown curLaddr) := by
  unfold linkDown
  split
  · exact .refl
  · have hdown : s.Quiet { s with nm.down := true, nm.curLaddr := curLaddr } := .of_eq rfl rfl rfl rfl
    exact hdown.trans ((quiet_emitNet _ _ _).trans quiet_markAccountsReconnecting)

theorem quiet_noteLink : s.Quiet (s.noteLink env) := by
  unfold noteLink
  split
  · exact quiet_linkDown _
  · unfold linkUp
    split
    · have hup : s.Quiet (({ s with nm.down := false }).updateCurLaddr env) := .of_eq rfl rfl rfl rfl
      exact hup.trans (quiet_emitNet _ _ _)
    · exact .refl

theorem quiet_announce : s.Quiet (s.announce env) := by
  unfold announce
  split
  · exact .refl
  · have hmarked : s.Quiet
        (({ s with nm.announced := true, nm.handoverStart := s.now }).updateCurLaddr env) :=
      .of_eq rfl rfl rfl rfl
    exact hmarked.trans ((quiet_emitNet _ _ _).trans quiet_markAccountsReconnecting)

theorem quiet_netmonTrigger (env : NetEnv) (forced : Bool) : s.Quiet (s.netmonTrigger env forced) := by
  have hnote : s.Quiet (s.noteChange env forced) := .of_eq rfl rfl rfl rfl
  unfold netmonTrigger
  split
  · exact .refl
  · simp only
    split
    · exact hnote
    · exact (hnote.trans quiet_announce).trans (.of_eq rfl rfl rfl rfl)

theorem quiet_callRefreshable (id : Nat) : s.Quiet (s.callRefreshable id) := by
  rcases callRefreshable_eq (s := s) id with heq | heq <;> rw [heq]
  · exact .refl
  · exact .of_eq rfl rfl rfl rfl

theorem Quiet.newGeneration (h : s.Quiet s') : s.newGeneration.Quiet s'.newGeneration where
  now := h.now
  calls := h.calls
  part := by
    have hpart := h.part
    simp only [Netmon.migrationPart, MigrationPart.mk.injEq] at hpart
    simp only [Sys.newGeneration, Netmon.migrationPart, hpart]
  said := h.said

/-- Settling finds the transports unresettable for the last time. -/
def runsOut (env : NetEnv) (s : Sys) : Bool :=
  decide (env.scanned = 0) && s.isOwed && (env.routable || env.linklocal) && env.resetTransp.isSome &&
    decide (s.nm.maxAttempts ≤ s.nm.attempt + 1)

variable (env s) in
theorem noteLink_roundPart : (s.noteLink env).nm.roundPart = s.nm.roundPart := by
  unfold noteLink linkDown linkUp
  repeat' split
  all_goals rfl

variable (g env s) in
/-- Settling is work that no call notices, or ends in a handover given up, or starts a generation. -/
theorem settleHandler_turns (hstarted : s.nm.started = true) :
    s.startsGeneration env = false ∧ s.runsOut env = false ∧ s.Quiet (s.settleHandler g env) ∨
      s.startsGeneration env = false ∧ s.runsOut env = true ∧
        (∃ r err, s.Quiet r ∧ (r.failPendingMigrations g env err).Quiet (s.settleHandler g env)) ∨
      s.startsGeneration env = true ∧ s.runsOut env = false ∧ ∃ r, s.newGeneration.Quiet r ∧
        s.settleHandler g env = if s.nm.reinviteCalls then r.migrateCalls g env else r := by
  unfold settleHandler
  rw [if_neg (by simp [hstarted])]
  split
  · rename_i hscan
    exact .inl ⟨by simp [startsGeneration, hscan], by simp [runsOut, hscan], .of_eq rfl rfl rfl rfl⟩
  · rename_i hscan
    split
    · rename_i howed
      have howed : s.isOwed = false := by simpa using howed
      exact .inl ⟨by simp [startsGeneration, howed], by simp [runsOut, howed], .refl⟩
    · rename_i howed
      have howed : s.isOwed = true := by simpa using howed
      unfold applyHandover
      split
      · rename_i hbind
        have hbind : (env.routable || env.linklocal) = false := by simpa [Bool.not_or] using hbind
        have hwait : (s.linkDown []).Quiet (s.linkDown []).waitForAddress := .of_eq rfl rfl rfl rfl
        exact .inl ⟨by simp [startsGeneration, hbind], by simp [runsOut, hbind],
          (quiet_linkDown []).trans hwait⟩
      · rename_i hbind
        have hbind : (env.routable || env.linklocal) = true := by
          simpa only [← Bool.not_or, Bool.not_eq_true', Bool.not_eq_false] using hbind
        have hscan : env.scanned = 0 := not_not.mp hscan
        obtain ⟨os, heq, hos⟩ := resetTransports_eq g env (({ s with nm.waitTicks := 0 }).noteLink env)
        have hwaits : s.Quiet { s with nm.waitTicks := 0 } := .of_eq rfl rfl rfl rfl
        have hreset : s.Quiet ((({ s with nm.waitTicks := 0 }).noteLink env).emit os) := by
          refine (hwaits.trans quiet_noteLink).trans (.emit fun o ho id => ?_)
          rcases hos o ho with rfl | rfl <;> rfl
        have hround : ((({ s with nm.waitTicks := 0 }).noteLink env).emit os).nm.roundPart =
            s.nm.roundPart := noteLink_roundPart env { s with nm.waitTicks := 0 }
        rw [heq]
        generalize (({ s with nm.waitTicks := 0 }).noteLink env).emit os = q at hreset hround
        have hattempt : q.nm.attempt = s.nm.attempt := congrArg RoundPart.attempt hround
        have hmax : q.nm.maxAttempts = s.nm.maxAttempts := congrArg RoundPart.maxAttempts hround
        unfold resetOutcome
        split
        · rename_i err htransp
          have hstarts : s.startsGeneration env = false := by simp [startsGeneration, htransp]
          have hruns : s.runsOut env = decide (s.nm.maxAttempts ≤ s.nm.attempt + 1) := by
            simp [runsOut, hscan, howed, hbind, htransp]
          have hcounted : s.Quiet { q with nm.attempt := q.nm.attempt + 1 } :=
            hreset.trans (.of_eq rfl rfl rfl rfl)
          have hfailed := hcounted.trans
            (quiet_emitNet .handoverFailed (some err) (q.nm.attempt + 1))
          simp only [resetFailed]
          split
          · rename_i hleft
            have hleft : q.nm.attempt + 1 < q.nm.maxAttempts := hleft
            refine .inl ⟨hstarts, ?_, hfailed.trans (.of_eq rfl rfl rfl rfl)⟩
            rw [hruns, decide_eq_false_iff_not]
            omega
          · rename_i hleft
            have hleft : ¬ q.nm.attempt + 1 < q.nm.maxAttempts := hleft
            have hzeroed : s.Quiet { ({ q with nm.attempt := q.nm.attempt + 1 }).emitNet
                .handoverFailed (some err) (q.nm.attempt + 1) with nm.attempt := 0 } :=
              hfailed.trans (.of_eq rfl rfl rfl rfl)
            refine .inr (.inl ⟨hstarts, ?_, _, err,
              hzeroed.trans (quiet_handoverAccountsToRetry g env), .of_eq rfl rfl rfl rfl⟩)
            rw [hruns, decide_eq_true_eq]
            omega
        · rename_i htransp
          have hstarts : s.startsGeneration env = true := by
            simp [startsGeneration, hscan, howed, hbind, htransp]
          have hnew : s.newGeneration.Quiet (q.newGeneration.updateCurLaddr env) :=
            hreset.newGeneration.trans (.of_eq rfl rfl rfl rfl)
          refine .inr (.inr ⟨hstarts, by simp [runsOut, htransp], _,
            (hnew.trans (quiet_emitNet .transportReset none 0)).trans
              (quiet_reregisterAccounts env), ?_⟩)
          rw [resetDone_eq, show q.nm.reinviteCalls = s.nm.reinviteCalls from
            congrArg MigrationPart.reinviteCalls hreset.part]

/-! ### One step -/

/-- No call is new in `s'`. -/
structure Keeps (s s' : Sys) : Prop where
  started : s'.nm.started = s.nm.started
  ids : (s'.calls.map Call.id).Sublist (s.calls.map Call.id)
  live : (∀ c ∈ s.calls, c.bc = true) → ∀ c ∈ s'.calls, c.bc = true

theorem Keeps.of_eq (hstarted : s'.nm.started = s.nm.started) (hcalls : s'.calls = s.calls) :
    s.Keeps s' := by
  refine ⟨hstarted, ?_, ?_⟩
  · rw [hcalls]
  · rw [hcalls]
    exact id

theorem Keeps.trans (h : s.Keeps s') (h' : s'.Keeps s'') : s.Keeps s'' where
  started := h'.started.trans h.started
  ids := h'.ids.trans h.ids
  live hlive := h'.live (h.live hlive)

theorem Keeps.tidy (h : s.Keeps s') (htidy : s.Tidy) : s'.Tidy :=
  ⟨h.started.trans htidy.started, h.ids.nodup htidy.nodup, h.live htidy.live⟩

theorem Quiet.keeps (h : s.Quiet s') : s.Keeps s' :=
  .of_eq (congrArg MigrationPart.started h.part) h.calls

theorem keeps_sweepCalls (hadds : ∀ c : Call, c.Adds (work c)) : s.Keeps (s.sweepCalls work) := by
  refine ⟨rfl, ?_, fun _ c hc => (List.mem_filter.mp hc).2⟩
  have hids : (sweep (fun _ => true) (fun c => (work c.idle).flush) netMaxSnap s.calls).1.map
      Call.id = s.calls.map Call.id := map_sweep (adds_id hadds)
  rw [← hids]
  exact List.filter_sublist.map Call.id

theorem keeps_onCall (id : Nat) (hadds : ∀ c : Call, c.Adds (work c))
    (hbc : ∀ c : Call, (work c).bc = c.bc) : s.Keeps (s.onCall id work) := by
  have hids : (s.onCall id work).calls.map Call.id = s.calls.map Call.id := map_sweep (adds_id hadds)
  refine ⟨rfl, hids ▸ List.Sublist.refl _, fun hlive => ?_⟩
  exact forall_mem_sweep_of_keeps (P := fun c : Call => c.bc = true)
    (fun c _ hc => (hbc c.idle).trans hc) hlive

theorem verifyHandler_of_started (h : s.nm.started = true) :
    s.verifyHandler g env = (s.sweepCalls (Call.verify g s.nm s.now env)).armVerify := by
  simp [verifyHandler, h]

theorem sdpAnswer_bc (g : Cfg) (nm : Netmon) (now : Nat) (env : NetEnv) (c : Call) :
    (c.sdpAnswer g nm now env).bc = c.bc := by
  unfold Call.sdpAnswer
  split
  · rfl
  · split <;> rfl

theorem stallRepair_bc (g : Cfg) (nm : Netmon) (now : Nat) (env : NetEnv) (packets : Nat)
    (setupPending : Bool) (c : Call) :
    (c.stallRepair g nm now env packets setupPending).1.bc = c.bc := by
  have htick := (@Call.stallTick_frame g now env c packets setupPending).1
  obtain heq | ⟨-, heq⟩ := Call.stallRepair_cases g nm now env c packets setupPending
  · rw [heq]
    exact htick
  · rw [heq]
    exact htick

theorem keeps_settleHandler (hstarted : s.nm.started = true) : s.Keeps (s.settleHandler g env) := by
  rcases settleHandler_turns g env s hstarted with ⟨-, -, hquiet⟩ | ⟨-, -, r, err, hr, hquiet⟩ |
    ⟨-, -, r, hr, heq⟩
  · exact hquiet.keeps
  · exact (hr.keeps.trans (keeps_sweepCalls fun c => (Call.works_failPending err).adds)).trans hquiet.keeps
  · have hnew : s.Keeps s.newGeneration := .of_eq rfl rfl
    have hkeeps := hnew.trans hr.keeps
    rw [heq]
    split
    · exact (hkeeps.trans (keeps_sweepCalls fun c => Call.works_startMigration.adds)).trans (.of_eq rfl rfl)
    · exact hkeeps

theorem keeps_handle (hstarted : s.nm.started = true) {act : SysAct}
    (hact : ∀ id acct state, act ≠ .createCall id acct state) : s.Keeps (s.handle g act) := by
  cases act with
  | createCall id acct state => exact absurd rfl (hact id acct state)
  | createAccount _ _ _ | destroyAccount _ | setMonitor _ | setPolicy _ _ | localAddr _ | elapse _ =>
      exact .of_eq rfl rfl
  | account id act => exact (quiet_onAccount id act).keeps
  | callRinging id | callHeld id | callLocalHold id hold =>
      simp only [handle]
      exact keeps_onCall id (fun _ => .of_eq (by rfl) (by rfl)) fun _ => by rfl
  | callEstablished id | callResumed id =>
      exact (keeps_onCall id (fun _ => .of_eq (by rfl) (by rfl)) fun _ => by rfl).trans
        (quiet_callRefreshable id).keeps
  | callSdpAnswer id env =>
      exact keeps_onCall id (fun _ => Call.works_sdpAnswer.adds) fun c => sdpAnswer_bc g s.nm s.now env c
  | callClosed id =>
      exact ⟨rfl, List.filter_sublist.map _, fun hlive c hc => hlive c (List.mem_of_mem_filter hc)⟩
  | statsTick id packets setupPending env =>
      have hkeeps := keeps_onCall (s := s) id (fun _ => Call.adds_stallRepair packets setupPending)
        fun c => stallRepair_bc g s.nm s.now env packets setupPending c
      simp only [handle]
      rcases statsTick_eq g env s id packets setupPending with heq | heq <;> rw [heq]
      · exact hkeeps
      · exact hkeeps.trans (.of_eq rfl rfl)
  | networkChanged env => exact (quiet_netmonTrigger env true).keeps
  | pollFires env =>
      have hidle : s.Keeps { s with nm.tmrPoll := none } := .of_eq rfl rfl
      obtain ⟨tmrPoll, heq⟩ := pollHandler_eq (s := { s with nm.tmrPoll := none }) env hstarted
      simp only [handle]
      rw [heq]
      exact (hidle.trans (quiet_netmonTrigger env false).keeps).trans (.of_eq rfl rfl)
  | settleFires env =>
      have hidle : s.Keeps { s with nm.tmrSettle := none } := .of_eq rfl rfl
      exact hidle.trans (keeps_settleHandler hstarted)
  | verifyFires env =>
      have hidle : s.Keeps { s with nm.tmrVerify := none } := .of_eq rfl rfl
      simp only [handle]
      rw [verifyHandler_of_started (hidle.started.trans hstarted)]
      exact (hidle.trans (keeps_sweepCalls fun c => Call.works_verify.adds)).trans (.of_eq rfl rfl)

theorem Tidy.handle (h : s.Tidy) {act : SysAct} (hen : s.enabled act = true) :
    (s.handle g act).Tidy := by
  cases act with
  | createCall id acct state =>
      refine ⟨h.started, ?_, ?_⟩
      · rw [show (s.handle g (.createCall id acct state)).calls.map Call.id =
          s.calls.map Call.id ++ [id] from List.map_append]
        refine h.nodup.append (List.nodup_singleton id) ?_
        intro k hk hid
        obtain rfl := List.mem_singleton.mp hid
        obtain ⟨c, hc, hcid⟩ := List.mem_map.mp hk
        exact of_decide_eq_true (List.all_eq_true.mp hen c hc) hcid
      · intro c hc
        rcases List.mem_append.mp hc with hc | hc
        · exact h.live c hc
        · exact List.mem_singleton.mp hc ▸ rfl
  | _ =>
      refine Keeps.tidy (keeps_handle h.started ?_) h
      rintro _ _ _ ⟨⟩

theorem mem_handle_calls (hstarted : s.nm.started = true) {act : SysAct} {e : Call}
    (he : e ∈ (s.handle g act).calls) :
    (∃ c ∈ s.calls, c.id = e.id) ∨
      ∃ acct state, act = .createCall e.id acct state ∧ e = .wrapNew e.id acct state := by
  by_cases hnew : ∃ id acct state, act = .createCall id acct state
  · obtain ⟨id, acct, state, rfl⟩ := hnew
    rcases List.mem_append.mp he with he | he
    · exact .inl ⟨e, he, rfl⟩
    · obtain rfl := List.mem_singleton.mp he
      exact .inr ⟨acct, state, rfl, rfl⟩
  · have hkeeps : s.Keeps (s.handle g act) :=
      keeps_handle hstarted fun id acct state heq => hnew ⟨id, acct, state, heq⟩
    exact .inl (List.mem_map.mp (hkeeps.ids.subset (List.mem_map_of_mem he)))

/-! ### The turns -/

/-- `d` is `c` after an event that its migration has no part in. -/
structure Passes (c d : Call) : Prop where
  id : d.id = c.id
  out : d.out = []
  state : d.netMigState = c.netMigState
  rx : d.netRxAtMig = c.netRxAtMig

/-- The step works on the migration of the call. -/
def Reaches (s : Sys) (c : Call) : SysAct → Prop
  | .verifyFires _ => c ∈ s.calls.take netMaxSnap
  | .settleFires env => c ∈ s.calls.take netMaxSnap ∧
      (s.startsGeneration env = true ∧ s.nm.reinviteCalls = true ∨ s.runsOut env = true)
  | .statsTick id .. | .callSdpAnswer id _ => id = c.id
  | _ => False

/-- What a step does to a call. -/
inductive Turn (g : Cfg) (s : Sys) (c : Call) : SysAct → Call → Prop where
  | verifies {env : NetEnv} {nm : Netmon} (hreach : s.Reaches c (.verifyFires env))
      (hnm : nm.migrationPart = s.nm.migrationPart) :
      Turn g s c (.verifyFires env) (c.idle.verify g nm s.now env)
  | starts {env : NetEnv} {nm : Netmon} (hreach : s.Reaches c (.settleFires env))
      (hstarts : s.startsGeneration env = true) (hreinvite : s.nm.reinviteCalls = true)
      (hnm : nm.migrationPart = s.newGeneration.nm.migrationPart) :
      Turn g s c (.settleFires env) (c.idle.startMigration g nm s.now env)
  | fails {env : NetEnv} {nm : Netmon} {err : Errno} (hreach : s.Reaches c (.settleFires env))
      (hruns : s.runsOut env = true) (hnm : nm.migrationPart = s.nm.migrationPart) :
      Turn g s c (.settleFires env) (c.idle.failPending g nm s.now env err)
  | ticks {packets : Nat} {setupPending : Bool} {env : NetEnv} :
      Turn g s c (.statsTick c.id packets setupPending env)
        (c.idle.stallRepair g s.nm s.now env packets setupPending).1
  | answers {env : NetEnv} :
      Turn g s c (.callSdpAnswer c.id env) (c.idle.sdpAnswer g s.nm s.now env)
  | passes {act : SysAct} {d : Call} (hreach : ¬ s.Reaches c act) (hpasses : Passes c d) :
      Turn g s c act d

/-- What a call has to show for the turn. -/
structure Shows (g : Cfg) (s : Sys) (c : Call) (act : SysAct) (s' : Sys) (d : Call) : Prop where
  turn : s.Turn g c act d
  said : s'.said c.id = d.out
  left : ∀ e ∈ s'.ofId c.id, e.idle = d.idle

theorem passes_idle (c : Call) : Passes c c.idle := ⟨rfl, rfl, rfl, rfl⟩

theorem ofId_of_quiet (h : s.Tidy) (hc : c ∈ s.calls) (hquiet : s.Quiet s') : s'.ofId c.id = [c] := by
  rw [ofId, hquiet.calls]
  exact ofId_eq h.nodup hc

theorem shows_rest {act : SysAct} (hreach : ¬ s.Reaches c act) (hsaid : s'.said c.id = [])
    (hleft : ∀ e ∈ s'.ofId c.id, e = c) : s.Shows g c act s' c.idle :=
  ⟨.passes hreach (passes_idle c), hsaid, fun e he => by rw [hleft e he]; rfl⟩

theorem shows_quiet {act : SysAct} (h : s.Tidy) (hout : s.out = []) (hc : c ∈ s.calls)
    (hreach : ¬ s.Reaches c act) (hquiet : s.Quiet s') : s.Shows g c act s' c.idle := by
  refine shows_rest hreach ?_ fun e he => ?_
  · rw [hquiet.said, Sys.said, hout]
    rfl
  · rw [ofId_of_quiet h hc hquiet] at he
    exact List.mem_singleton.mp he

theorem shows_onCall {act : SysAct} (h : s.Tidy) (hout : s.out = []) (hc : c ∈ s.calls) (id : Nat)
    (hadds : ∀ c : Call, c.Adds (work c)) (hquiet : (s.onCall id work).Quiet s')
    (hturn : c.id = id → s.Turn g c act (work c.idle)) (hreach : c.id ≠ id → ¬ s.Reaches c act) :
    ∃ d, s.Shows g c act s' d := by
  have hnone : s.said c.id = [] := by
    rw [Sys.said, hout]
    rfl
  by_cases hid : c.id = id
  · subst hid
    obtain ⟨hleft, hsaid⟩ := onCall_turn h hadds hc
    refine ⟨work c.idle, hturn rfl, ?_, fun e he => ?_⟩
    · rw [hquiet.said, hsaid, hnone, List.nil_append]
    · rw [ofId, hquiet.calls] at he
      have he : e ∈ (s.onCall c.id work).ofId c.id := he
      rw [hleft] at he
      obtain rfl := List.mem_singleton.mp he
      rfl
  · obtain ⟨hleft, hsaid⟩ := onCall_other h hadds hc (Ne.symm hid)
    refine ⟨c.idle, shows_rest (hreach hid) ?_ fun e he => ?_⟩
    · rw [hquiet.said, hsaid, hnone]
    · rw [ofId, hquiet.calls] at he
      have he : e ∈ (s.onCall id work).ofId c.id := he
      rw [hleft] at he
      exact List.mem_singleton.mp he

/-- A loop over the snapshot, with work before and after that no call notices. -/
theorem shows_sweepCalls {act : SysAct} {r : Sys} (h : r.Tidy) (hnone : r.said c.id = [])
    (hc : c ∈ r.calls) (hadds : ∀ c : Call, c.Adds (work c)) (hquiet : (r.sweepCalls work).Quiet s')
    (hturn : c ∈ r.calls.take netMaxSnap → s.Turn g c act (work c.idle))
    (hreach : c ∉ r.calls.take netMaxSnap → ¬ s.Reaches c act) : ∃ d, s.Shows g c act s' d := by
  by_cases hfirst : c ∈ r.calls.take netMaxSnap
  · obtain ⟨hleft, hsaid⟩ := sweepCalls_turn h hadds hfirst
    refine ⟨work c.idle, hturn hfirst, ?_, fun e he => ?_⟩
    · rw [hquiet.said, hsaid, hnone, List.nil_append]
    · rw [ofId, hquiet.calls] at he
      have he : e ∈ (r.sweepCalls work).ofId c.id := he
      rw [hleft] at he
      obtain rfl := List.mem_singleton.mp (List.mem_of_mem_filter he)
      rfl
  · obtain ⟨hleft, hsaid⟩ := sweepCalls_past h hadds hc hfirst
    refine ⟨c.idle, shows_rest (hreach hfirst) ?_ fun e he => ?_⟩
    · rw [hquiet.said, hsaid, hnone]
    · rw [ofId, hquiet.calls] at he
      have he : e ∈ (r.sweepCalls work).ofId c.id := he
      rw [hleft] at he
      exact List.mem_singleton.mp he

theorem shows_settleFires (h : s.Tidy) (hout : s.out = []) (hc : c ∈ s.calls) :
    ∃ d, s.Shows g c (.settleFires env) (s.handle g (.settleFires env)) d := by
  have hidle : s.Quiet { s with nm.tmrSettle := none } := .of_eq rfl rfl rfl rfl
  have hnothing : ({ s with nm.tmrSettle := none } : Sys).said c.id = [] := by
    rw [Sys.said, hout]
    rfl
  have hstarts : ({ s with nm.tmrSettle := none } : Sys).startsGeneration env =
      s.startsGeneration env := rfl
  have hruns : ({ s with nm.tmrSettle := none } : Sys).runsOut env = s.runsOut env := rfl
  simp only [handle]
  rcases settleHandler_turns g env { s with nm.tmrSettle := none } h.started with
    ⟨hnot, hleft, hquiet⟩ | ⟨hnot, hrun, r, err, hr, hquiet⟩ | ⟨hstart, hleft, r, hr, heq⟩
  · rw [hstarts] at hnot
    rw [hruns] at hleft
    refine ⟨c.idle, shows_quiet h hout hc ?_ (hidle.trans hquiet)⟩
    rintro ⟨-, ⟨hyes, -⟩ | hyes⟩
    · simp [hnot] at hyes
    · simp [hleft] at hyes
  · rw [hruns] at hrun
    refine shows_sweepCalls ((hidle.trans hr).keeps.tidy h) ((hr.said _).trans hnothing) ?_
      (fun c => (Call.works_failPending err).adds) hquiet (fun hfirst => ?_) fun hpast hreach => ?_
    · rw [hr.calls]
      exact hc
    · rw [hr.calls] at hfirst
      have hnow : r.now = s.now := hr.now
      rw [hnow]
      exact .fails ⟨hfirst, .inr hrun⟩ hrun hr.part
    · rw [hr.calls] at hpast
      exact hpast hreach.1
  · rw [hstarts] at hstart
    rw [heq]
    have hnew : s.newGeneration.Quiet r := hidle.newGeneration.trans hr
    have htidy : s.newGeneration.Tidy := ⟨h.started, h.nodup, h.live⟩
    split
    · rename_i hreinvite
      refine shows_sweepCalls (hnew.keeps.tidy htidy) ((hr.said _).trans hnothing) ?_
        (fun c => Call.works_startMigration.adds) (.of_eq rfl rfl rfl rfl) (fun hfirst => ?_)
        fun hpast hreach => ?_
      · rw [hnew.calls]
        exact hc
      · rw [hnew.calls] at hfirst
        have hnow : r.now = s.now := hnew.now
        rw [hnow]
        exact .starts ⟨hfirst, .inl ⟨hstart, hreinvite⟩⟩ hstart hreinvite hnew.part
      · rw [hnew.calls] at hpast
        exact hpast hreach.1
    · rename_i hreinvite
      refine ⟨c.idle, shows_rest ?_ ((hr.said _).trans hnothing) fun e he => ?_⟩
      · rintro ⟨-, ⟨-, hyes⟩ | hyes⟩
        · exact hreinvite hyes
        · rw [← hruns, hleft] at hyes
          cases hyes
      · rw [ofId_of_quiet htidy hc hnew] at he
        exact List.mem_singleton.mp he

/-- Every step is a turn for every call. -/
theorem shows_handle (h : s.Tidy) (hout : s.out = []) {act : SysAct} (hen : s.enabled act = true)
    (hc : c ∈ s.calls) : ∃ d, s.Shows g c act (s.handle g act) d := by
  have hnothing : s.said c.id = [] := by
    rw [Sys.said, hout]
    rfl
  have hself : s.ofId c.id = [c] := ofId_eq h.nodup hc
  have hsame (act : SysAct) {s' : Sys} (hreach : ¬ s.Reaches c act) (hcalls : s'.calls = s.calls)
      (hout' : s'.out = []) : ∃ d, s.Shows g c act s' d := by
    refine ⟨c.idle, shows_rest hreach ?_ fun e he => ?_⟩
    · rw [Sys.said, hout']
      rfl
    · rw [ofId, hcalls] at he
      have he : e ∈ s.ofId c.id := he
      rw [hself] at he
      exact List.mem_singleton.mp he
  cases act with
  | createAccount _ _ _ | destroyAccount _ | setMonitor _ | setPolicy _ _ | localAddr _ | elapse _ =>
      exact hsame _ id rfl hout
  | account id' act => exact ⟨c.idle, shows_quiet h hout hc id (quiet_onAccount id' act)⟩
  | createCall id' acct state =>
      have hne : id' ≠ c.id := fun heq => of_decide_eq_true (List.all_eq_true.mp hen c hc) heq.symm
      refine ⟨c.idle, shows_rest id hnothing fun e he => ?_⟩
      have hnew : (s.handle g (.createCall id' acct state)).ofId c.id = s.ofId c.id := by
        refine (List.filter_append _ _).trans ?_
        rw [List.filter_cons_of_neg (by simp [Call.wrapNew, hne]), List.filter_nil,
          List.append_nil]
        rfl
      rw [hnew, hself] at he
      exact List.mem_singleton.mp he
  | callRinging id' | callHeld id' | callLocalHold id' hold =>
      simp only [handle]
      refine shows_onCall h hout hc id' ?_ .refl ?_ fun _ => id
      · exact fun _ => .of_eq rfl rfl
      · exact fun _ => .passes id ⟨rfl, rfl, rfl, rfl⟩
  | callEstablished id' | callResumed id' =>
      simp only [handle]
      refine shows_onCall h hout hc id' ?_ (quiet_callRefreshable id') ?_ fun _ => id
      · exact fun _ => .of_eq rfl rfl
      · exact fun _ => .passes id ⟨rfl, rfl, rfl, rfl⟩
  | callSdpAnswer id' env =>
      refine shows_onCall h hout hc id' (fun _ => Call.works_sdpAnswer.adds) .refl ?_
        fun hne heq => hne heq.symm
      rintro rfl
      exact .answers
  | callClosed id' =>
      refine ⟨c.idle, shows_rest id hnothing fun e he => ?_⟩
      have he : e ∈ s.ofId c.id := by
        obtain ⟨hmem, hid⟩ := List.mem_filter.mp he
        exact List.mem_filter.mpr ⟨List.mem_of_mem_filter hmem, hid⟩
      rw [hself] at he
      exact List.mem_singleton.mp he
  | statsTick id' packets setupPending env =>
      have hbounce {r : Sys} : r.Quiet r.bounceVerify := .of_eq rfl rfl rfl rfl
      simp only [handle]
      rcases statsTick_eq g env s id' packets setupPending with heq | heq <;> rw [heq]
      · refine shows_onCall h hout hc id' (fun _ => Call.adds_stallRepair packets setupPending) .refl ?_
          fun hne heq => hne heq.symm
        rintro rfl
        exact .ticks
      · refine shows_onCall h hout hc id' (fun _ => Call.adds_stallRepair packets setupPending)
          hbounce ?_ fun hne heq => hne heq.symm
        rintro rfl
        exact .ticks
  | networkChanged env => exact ⟨c.idle, shows_quiet h hout hc id (quiet_netmonTrigger env true)⟩
  | pollFires env =>
      have hidle : s.Quiet { s with nm.tmrPoll := none } := .of_eq rfl rfl rfl rfl
      obtain ⟨tmrPoll, heq⟩ := pollHandler_eq (s := { s with nm.tmrPoll := none }) env h.started
      refine ⟨c.idle, shows_quiet h hout hc id ?_⟩
      simp only [handle]
      rw [heq]
      exact (hidle.trans (quiet_netmonTrigger env false)).trans (.of_eq rfl rfl rfl rfl)
  | settleFires env => exact shows_settleFires h hout hc
  | verifyFires env =>
      have hidle : s.Quiet { s with nm.tmrVerify := none } := .of_eq rfl rfl rfl rfl
      simp only [handle]
      rw [verifyHandler_of_started (hidle.keeps.tidy h).started]
      exact shows_sweepCalls (hidle.keeps.tidy h) hnothing hc (fun c => Call.works_verify.adds)
        (.of_eq rfl rfl rfl rfl) (fun hfirst => .verifies hfirst rfl) fun hpast => hpast

end Sys

theorem tidy_run {g : Cfg} {s : Sys} {t : Trace SysAct SysOut}
    (hrun : (system g).Run Machine.Always s t) : s.Tidy := by
  refine hrun.stateInvariant (fun s h => ?_) fun s act s' os h _ hstep => ?_
  · obtain ⟨now, up, curLaddr, rfl⟩ := h
    exact ⟨rfl, List.nodup_nil, fun c hc => by cases hc⟩
  · obtain ⟨hen, rfl, -⟩ := system_step hstep
    have hidle : s.idle.Tidy := ⟨h.started, h.nodup, h.live⟩
    exact hidle.handle hen

end VoxSdk
