import VoxSdk.Proof.CallTurns

/-!
# What a wait costs a call

A call that waits for an address, or for its dialog, is charged one try each time the shared timer fires.
Left to the clock that is once a tick. Other calls have a say in it in three ways: a stall repair and a
refreshable event make the timer fire at once, and a call under repair asks for shorter ticks. Where none
of them happens, the call is charged as if there were no other.
-/

namespace VoxSdk

open Reactive

namespace Sys

variable {g : Cfg} {env : NetEnv} {id : Nat} {s s' t t' : Sys} {c : Call} {work : Call → Call}

/-! ### A call on its own -/

/-- `t` is what is left of `s` without the accounts and the other calls. -/
structure Solo (id : Nat) (s t : Sys) : Prop where
  now : t.now = s.now
  nm : t.nm = s.nm
  calls : t.calls = s.ofId id

def solo (id : Nat) (s : Sys) : Sys := { s with accounts := [], calls := s.ofId id, out := [] }

theorem solo_solo (id : Nat) (s : Sys) : Solo id s (s.solo id) := ⟨rfl, rfl, rfl⟩

/-- Work that is not about calls, done to both. -/
theorem Solo.of_nm (h : Solo id s t) (hs : s.Quiet s') (ht : t.Quiet t') (hnm : t'.nm = s'.nm) :
    Solo id s' t' where
  now := ht.now.trans (h.now.trans hs.now.symm)
  nm := hnm
  calls := by
    rw [ht.calls, h.calls, ofId, ofId, hs.calls]

theorem Solo.tidy (h : Solo id s t) (htidy : s.Tidy) : t.Tidy where
  started := by
    rw [h.nm]
    exact htidy.started
  nodup := by
    rw [h.calls]
    exact (List.filter_sublist.map Call.id).nodup htidy.nodup
  live := by
    rw [h.calls]
    exact fun c hc => htidy.live c (List.mem_of_mem_filter hc)

theorem Solo.calls_eq (h : Solo id s t) (htidy : s.Tidy) (hc : c ∈ s.calls) (hid : c.id = id) :
    t.calls = [c] := by
  subst hid
  rw [h.calls]
  exact ofId_eq htidy.nodup hc

theorem Solo.linkDown (h : Solo id s t) (curLaddr : CStr) :
    Solo id (s.linkDown curLaddr) (t.linkDown curLaddr) := by
  refine h.of_nm (quiet_linkDown curLaddr) (quiet_linkDown curLaddr) ?_
  unfold Sys.linkDown
  rw [h.nm]
  split
  · exact h.nm
  · rfl

theorem Solo.noteLink (env : NetEnv) (h : Solo id s t) : Solo id (s.noteLink env) (t.noteLink env) := by
  refine h.of_nm quiet_noteLink quiet_noteLink ?_
  unfold Sys.noteLink
  split
  · rw [h.nm]
    exact (h.linkDown _).nm
  · unfold Sys.linkUp
    rw [h.nm]
    split
    · rfl
    · exact h.nm

theorem Solo.restartSettle (h : Solo id s t) : Solo id s.restartSettle t.restartSettle :=
  ⟨h.now, by simp only [Sys.restartSettle, h.now, h.nm], h.calls⟩

theorem Solo.noteChange (h : Solo id s t) (env : NetEnv) (forced : Bool) :
    Solo id (s.noteChange env forced) (t.noteChange env forced) :=
  ⟨h.now, by simp only [Sys.noteChange, h.nm], h.calls⟩

theorem Solo.announce (h : Solo id s t) : Solo id (s.announce env) (t.announce env) := by
  refine h.of_nm quiet_announce quiet_announce ?_
  unfold Sys.announce
  rw [h.nm, h.now]
  split
  · exact h.nm
  · rfl

theorem Solo.isOwed (h : Solo id s t) : t.isOwed = s.isOwed := by rw [Sys.isOwed, h.nm, Sys.isOwed]

theorem Solo.netmonTrigger (h : Solo id s t) (env : NetEnv) (forced : Bool) :
    Solo id (s.netmonTrigger env forced) (t.netmonTrigger env forced) := by
  have hnote := h.noteChange env forced
  unfold Sys.netmonTrigger
  rw [h.nm]
  split
  · exact h
  · simp only [hnote.isOwed]
    split
    · exact hnote
    · exact hnote.announce.restartSettle

theorem Solo.pollHandler (h : Solo id s t) (env : NetEnv) :
    Solo id (s.pollHandler env) (t.pollHandler env) := by
  have htrigger := h.netmonTrigger env false
  unfold Sys.pollHandler
  rw [h.nm]
  split
  · exact h
  · simp only [htrigger.nm]
    split
    · exact htrigger
    · exact ⟨htrigger.now, by simp only [htrigger.now], htrigger.calls⟩

/-! ### Turns of the call on its own -/

theorem Solo.sweepCalls (h : Solo id s t) (htidy : s.Tidy) (hc : c ∈ s.calls.take netMaxSnap)
    (hid : c.id = id) (hadds : ∀ c : Call, c.Adds (work c)) :
    Solo id (s.sweepCalls work) (t.sweepCalls work) := by
  have hmem : c ∈ s.calls := List.mem_of_mem_take hc
  have hone := h.calls_eq htidy hmem hid
  subst hid
  refine ⟨h.now, h.nm, ?_⟩
  rw [(sweepCalls_turn htidy hadds hc).1, sweepCalls_calls, hone]
  simp [netMaxSnap]

theorem Solo.onCall (h : Solo id s t) (htidy : s.Tidy) (hc : c ∈ s.calls) (hid : c.id = id)
    (hadds : ∀ c : Call, c.Adds (work c)) : Solo id (s.onCall id work) (t.onCall id work) := by
  have hone := h.calls_eq htidy hc hid
  subst hid
  refine ⟨h.now, h.nm, ?_⟩
  rw [(onCall_turn htidy hadds hc).1]
  have hsweep : (t.onCall c.id work).calls = (sweep (fun d => decide (d.id = c.id))
      (fun d => (work d.idle).flush) 1 [c]).1 := by
    rw [← hone]
    rfl
  rw [hsweep, sweep_cons_of_pos (by simp)]
  rfl

theorem Solo.onOther (h : Solo id s t) (htidy : s.Tidy) (hc : c ∈ s.calls) (hid : c.id = id)
    (hadds : ∀ c : Call, c.Adds (work c)) {id' : Nat} (hne : id' ≠ id) :
    Solo id (s.onCall id' work) t := by
  have hone := h.calls_eq htidy hc hid
  subst hid
  refine ⟨h.now, h.nm, ?_⟩
  rw [hone, (onCall_other htidy hadds hc hne).1]

theorem Solo.hasCall (h : Solo id s t) (test : Call → Bool) :
    t.hasCall id test = s.hasCall id test := by
  rw [hasCall_eq, hasCall_eq, ofId, h.calls, ofId, List.filter_filter]
  simp only [Bool.and_self]

/-! ### A handover, for the call on its own -/

theorem Solo.emit (h : Solo id s t) (os os' : List SysOut) : Solo id (s.emit os) (t.emit os') :=
  ⟨h.now, h.nm, h.calls⟩

theorem Solo.sweepAccounts (h : Solo id s t) (work work' : Account → Account × List SysOut) :
    Solo id (s.sweepAccounts work) (t.sweepAccounts work') := ⟨h.now, h.nm, h.calls⟩

theorem Solo.giveUp (h : Solo id s t) (htidy : s.Tidy) (hc : c ∈ s.calls.take netMaxSnap)
    (hid : c.id = id) (err : Errno) : Solo id (s.giveUp g env err) (t.giveUp g env err) := by
  have hzeroed : Solo id { s with nm.attempt := 0 } { t with nm.attempt := 0 } :=
    ⟨h.now, by simp only [h.nm], h.calls⟩
  have hretried : Solo id (({ s with nm.attempt := 0 }).handoverAccountsToRetry g env)
      (({ t with nm.attempt := 0 }).handoverAccountsToRetry g env) := hzeroed.sweepAccounts _ _
  have htidy' : (({ s with nm.attempt := 0 }).handoverAccountsToRetry g env).Tidy :=
    ⟨htidy.started, htidy.nodup, htidy.live⟩
  have hfailed : Solo id
      ((({ s with nm.attempt := 0 }).handoverAccountsToRetry g env).failPendingMigrations g env err)
      ((({ t with nm.attempt := 0 }).handoverAccountsToRetry g env).failPendingMigrations g env err) := by
    unfold failPendingMigrations
    rw [hretried.nm, hretried.now]
    exact hretried.sweepCalls htidy' hc hid fun c => (Call.works_failPending err).adds
  exact ⟨hfailed.now, by simp only [Sys.giveUp, hfailed.nm], hfailed.calls⟩

/-- One more attempt has failed. -/
def countFailure (err : Errno) (s : Sys) : Sys :=
  ({ s with nm.attempt := s.nm.attempt + 1 }).emitNet .handoverFailed (some err) (s.nm.attempt + 1)

theorem resetFailed_eq (err : Errno) (s : Sys) :
    s.resetFailed g env err =
      if s.nm.attempt + 1 < s.nm.maxAttempts then
        { s.countFailure err with
          nm.tmrSettle := Timer.start s.now (backoffMs (s.nm.attempt + 1)) }
      else (s.countFailure err).giveUp g env err := rfl

theorem Solo.resetFailed (h : Solo id s t) (htidy : s.Tidy) (hc : c ∈ s.calls.take netMaxSnap)
    (hid : c.id = id) (err : Errno) : Solo id (s.resetFailed g env err) (t.resetFailed g env err) := by
  have hcounted : Solo id (s.countFailure err) (t.countFailure err) :=
    ⟨h.now, by simp only [countFailure, emitNet_frame, h.nm], h.calls⟩
  rw [resetFailed_eq, resetFailed_eq, h.nm, h.now]
  split
  · exact ⟨hcounted.now, by simp only [hcounted.nm], hcounted.calls⟩
  · exact hcounted.giveUp ⟨htidy.started, htidy.nodup, htidy.live⟩ hc hid err

/-- Up to the loop over the calls. -/
def beforeMigration (env : NetEnv) (s : Sys) : Sys :=
  ((s.newGeneration.updateCurLaddr env).emitNet .transportReset none 0).reregisterAccounts env

theorem Solo.beforeMigration (env : NetEnv) (h : Solo id s t) :
    Solo id (s.beforeMigration env) (t.beforeMigration env) := by
  refine ⟨h.now, ?_, h.calls⟩
  show { t.newGeneration.nm with curLaddr := strNcpy 64 env.curLaddr } =
    { s.newGeneration.nm with curLaddr := strNcpy 64 env.curLaddr }
  simp only [Sys.newGeneration, h.nm]

variable (g env) in
/-- Settling, for the call on its own and in company: the same, but for the timer a new generation
arms. -/
theorem Solo.settleHandler (h : Solo id s t) (htidy : s.Tidy) (hc : c ∈ s.calls.take netMaxSnap)
    (hid : c.id = id) :
    Solo id (s.settleHandler g env) (t.settleHandler g env) ∨
      s.startsGeneration env = true ∧ ∃ r q, Solo id r q ∧ r.Tidy ∧ r.calls = s.calls ∧
        r.nm.gen = u32 (s.nm.gen + 1) ∧ s.settleHandler g env = r.migrateCalls g env ∧
          t.settleHandler g env = q.migrateCalls g env := by
  unfold Sys.settleHandler
  rw [h.nm, h.isOwed]
  split
  · exact .inl h
  · split
    · have hpending : Solo id { s with nm.resetPending := true }
          { t with nm := { s.nm with resetPending := true } } := ⟨h.now, rfl, h.calls⟩
      exact .inl hpending.restartSettle
    · rename_i hscan
      split
      · exact .inl h
      · rename_i howed
        unfold applyHandover
        rw [h.nm]
        split
        · have hdown := h.linkDown []
          exact .inl ⟨hdown.now, by simp only [waitForAddress, hdown.nm, hdown.now], hdown.calls⟩
        · rename_i hbind
          have hwaits : Solo id { s with nm.waitTicks := 0 }
              { t with nm := { s.nm with waitTicks := 0 } } := ⟨h.now, rfl, h.calls⟩
          obtain ⟨os, heq, -⟩ := resetTransports_eq g env (({ s with nm.waitTicks := 0 }).noteLink env)
          obtain ⟨os', heq', -⟩ :=
            resetTransports_eq g env (({ t with nm := { s.nm with waitTicks := 0 } }).noteLink env)
          have hreset := (hwaits.noteLink env).emit os os'
          have hgen : ((({ s with nm.waitTicks := 0 }).noteLink env).emit os).nm.gen = s.nm.gen :=
            noteLink_policy.1
          have hcalls : ((({ s with nm.waitTicks := 0 }).noteLink env).emit os).calls = s.calls :=
            (noteLink_frame (s := { s with nm.waitTicks := 0 })).2
          have htidy' : ((({ s with nm.waitTicks := 0 }).noteLink env).emit os).Tidy := by
            have hbefore : ({ s with nm.waitTicks := 0 } : Sys).Tidy :=
              ⟨htidy.started, htidy.nodup, htidy.live⟩
            have hnoted : (({ s with nm.waitTicks := 0 }).noteLink env).Tidy :=
              quiet_noteLink.keeps.tidy hbefore
            exact ⟨hnoted.started, hnoted.nodup, hnoted.live⟩
          rw [heq, heq']
          generalize (({ s with nm.waitTicks := 0 }).noteLink env).emit os = r at *
          generalize (({ t with nm := { s.nm with waitTicks := 0 } }).noteLink env).emit os' = q at *
          unfold resetOutcome
          split
          · exact .inl (hreset.resetFailed htidy' (hcalls ▸ hc) hid _)
          · rename_i htransp
            have hbefore := hreset.beforeMigration env
            rw [resetDone_eq, resetDone_eq, hreset.nm]
            split
            · refine .inr ⟨?_, _, _, hbefore, ⟨htidy'.started, htidy'.nodup, htidy'.live⟩, hcalls, ?_,
                rfl, rfl⟩
              · have hscan : env.scanned = 0 := not_not.mp hscan
                have howed : s.isOwed = true := by simpa using howed
                have hbind : (env.routable || env.linklocal) = true := by
                  simpa only [← Bool.not_or, Bool.not_eq_true', Bool.not_eq_false] using hbind
                simp [startsGeneration, hscan, howed, hbind, htransp]
              · exact congrArg (fun gen => u32 (gen + 1)) hgen
            · exact .inl hbefore

/-! ### The shared timer -/

theorem verifyTickFor_le (nm : Netmon) (c : Call) : c.verifyTickFor nm ≤ nm.verifyTickMs := by
  unfold Call.verifyTickFor
  split
  · exact le_rfl
  · exact Nat.min_le_right _ _

theorem le_verifyTickFor (nm : Netmon) (c : Call) : 500 ≤ c.verifyTickFor nm := by
  have hms : 500 ≤ nm.verifyTickMs := Nat.le_max_right _ _
  unfold Call.verifyTickFor
  split
  · exact hms
  · exact Nat.le_min.mpr ⟨by decide, hms⟩

theorem verifyTickFor_congr {nm : Netmon} {c d : Call} (h : d.netMigStall = c.netMigStall) :
    d.verifyTickFor nm = c.verifyTickFor nm := by
  rw [Call.verifyTickFor, h, Call.verifyTickFor]

/-- The most impatient pending call has the timer to itself. -/
theorem nextVerify_eq (hc : c ∈ s.calls.take netMaxSnap) (howed : c.isOwed s.nm = true)
    (hpace : ∀ e ∈ s.calls, e.isOwed s.nm = true → c.verifyTickFor s.nm ≤ e.verifyTickFor s.nm) :
    s.nextVerify = Timer.start s.now (c.verifyTickFor s.nm) := by
  have hmem : c ∈ s.pendingCalls := List.mem_filter.mpr ⟨hc, howed⟩
  have hall : ∀ e ∈ s.pendingCalls, c.verifyTickFor s.nm ≤ e.verifyTickFor s.nm := fun e he =>
    hpace e (List.mem_of_mem_take (List.mem_filter.mp he).1) (List.mem_filter.mp he).2
  unfold nextVerify
  rw [if_neg (by simpa using List.ne_nil_of_mem hmem)]
  exact congrArg (Timer.start s.now) (foldl_min_eq hmem (verifyTickFor_le _ _) hall)

/-- `s'` comes from `s` at once, with the timer as it was or armed for a later moment. -/
structure Rearms (s s' : Sys) : Prop where
  now : s'.now = s.now
  timer : s'.nm.tmrVerify = s.nm.tmrVerify ∨ ∃ d, 0 < d ∧ s'.nm.tmrVerify = Timer.start s.now d

theorem Rearms.of_eq (hnow : s'.now = s.now) (htimer : s'.nm.tmrVerify = s.nm.tmrVerify) :
    s.Rearms s' := ⟨hnow, .inl htimer⟩

theorem Rearms.refl : s.Rearms s := .of_eq rfl rfl

theorem Rearms.trans {s'' : Sys} (h : s.Rearms s') (h' : s'.Rearms s'') : s.Rearms s'' := by
  refine ⟨h'.now.trans h.now, ?_⟩
  rcases h'.timer with hsame | ⟨d, hpos, hstart⟩
  · rw [hsame]
    exact h.timer
  · rw [h.now] at hstart
    exact .inr ⟨d, hpos, hstart⟩

theorem Rearms.not_due (h : s.Rearms s') (hdue : s.nm.tmrVerify.isDue s.now = false) :
    s'.nm.tmrVerify.isDue s'.now = false := by
  rw [h.now]
  rcases h.timer with hsame | ⟨d, hpos, hstart⟩
  · rwa [hsame]
  · rw [hstart]
    exact decide_eq_false (by omega)

theorem rearms_armVerify : s.Rearms s.armVerify := by
  refine ⟨rfl, ?_⟩
  simp only [armVerify, nextVerify]
  split
  · exact .inl rfl
  · refine .inr ⟨_, ?_, rfl⟩
    have hms : 500 ≤ s.nm.verifyTickMs := Nat.le_max_right _ _
    have hle := @le_foldl_min _ (fun c => c.verifyTickFor s.nm) s.pendingCalls _ 500 hms
      fun c _ => le_verifyTickFor s.nm c
    omega

theorem rearms_migrateCalls : s.Rearms (s.migrateCalls g env) := by
  have hswept : s.Rearms (s.sweepCalls (Call.startMigration g s.nm s.now env)) := .of_eq rfl rfl
  exact hswept.trans rearms_armVerify

theorem rearms_bounceVerify : s.Rearms s.bounceVerify := ⟨rfl, .inr ⟨1, Nat.one_pos, rfl⟩⟩

theorem rearms_callRefreshable (id : Nat) : s.Rearms (s.callRefreshable id) := by
  rcases callRefreshable_eq (s := s) id with heq | heq <;> rw [heq]
  · exact .refl
  · exact rearms_bounceVerify

theorem rearms_noteLink : s.Rearms (s.noteLink env) := by
  unfold noteLink linkDown linkUp
  repeat' split
  all_goals exact .of_eq rfl rfl

theorem rearms_netmonTrigger (forced : Bool) : s.Rearms (s.netmonTrigger env forced) := by
  unfold netmonTrigger announce
  simp only
  repeat' split
  all_goals exact .of_eq rfl rfl

theorem rearms_settleHandler : s.Rearms (s.settleHandler g env) := by
  unfold settleHandler
  split
  · exact .refl
  · split
    · exact .of_eq rfl rfl
    · split
      · exact .refl
      · unfold applyHandover
        split
        · unfold linkDown
          split <;> exact .of_eq rfl rfl
        · obtain ⟨os, heq, -⟩ := resetTransports_eq g env (({ s with nm.waitTicks := 0 }).noteLink env)
          have hwaits : s.Rearms { s with nm.waitTicks := 0 } := .of_eq rfl rfl
          have hnoted : s.Rearms (({ s with nm.waitTicks := 0 }).noteLink env) :=
            hwaits.trans rearms_noteLink
          refine hnoted.trans ?_
          rw [heq]
          generalize ({ s with nm.waitTicks := 0 }).noteLink env = r
          unfold resetOutcome
          split
          · rw [resetFailed_eq]
            split <;> exact .of_eq rfl rfl
          · have hbefore : r.Rearms ((r.emit os).beforeMigration env) := .of_eq rfl rfl
            rw [resetDone_eq]
            split
            · exact hbefore.trans rearms_migrateCalls
            · exact hbefore

/-- The call has the timer to itself, in company and on its own. -/
theorem Solo.armVerify (h : Solo id s t) (htidy : s.Tidy) (hc : c ∈ s.calls.take netMaxSnap)
    (hid : c.id = id) (howed : c.isOwed s.nm = true)
    (hpace : ∀ e ∈ s.calls, e.isOwed s.nm = true → c.verifyTickFor s.nm ≤ e.verifyTickFor s.nm) :
    Solo id s.armVerify t.armVerify := by
  have hone := h.calls_eq htidy (List.mem_of_mem_take hc) hid
  have halone : t.nextVerify = Timer.start t.now (c.verifyTickFor t.nm) := by
    refine nextVerify_eq ?_ ?_ fun e he _ => ?_
    · rw [hone]
      simp [netMaxSnap]
    · rw [h.nm]
      exact howed
    · rw [hone] at he
      rw [List.mem_singleton.mp he]
  refine ⟨h.now, ?_, h.calls⟩
  show { t.nm with tmrVerify := t.nextVerify } = { s.nm with tmrVerify := s.nextVerify }
  rw [halone, nextVerify_eq hc howed hpace, h.now, h.nm]

/-! ### Waiting -/

/-- The call waits for an address or for its dialog, and `verify_handler` sees it. -/
def waits (id : Nat) (s : Sys) : Bool :=
  (s.calls.take netMaxSnap).any fun c =>
    decide (c.id = id) && decide (c.netMigGen = s.nm.gen) &&
      (decide (c.netMigState = .waitAddr) || decide (c.netMigState = .deferred))

theorem waits_iff : s.waits id = true ↔ ∃ c ∈ s.calls.take netMaxSnap,
    c.id = id ∧ c.netMigGen = s.nm.gen ∧ (c.netMigState = .waitAddr ∨ c.netMigState = .deferred) := by
  simp only [waits, List.any_eq_true, Bool.and_eq_true, Bool.or_eq_true, decide_eq_true_eq, and_assoc]

theorem isOwed_of_waits (hgen : c.netMigGen = s.nm.gen)
    (hstate : c.netMigState = .waitAddr ∨ c.netMigState = .deferred) : c.isOwed s.nm = true := by
  rcases hstate with h | h <;> simp [Call.isOwed, hgen, h, MigState.isPending]

/-- No other call asks for shorter ticks than the call with the id. -/
def keepsPace (id : Nat) (s : Sys) : Bool :=
  s.calls.all fun c => decide (c.id ≠ id) || s.calls.all fun e =>
    !e.isOwed s.nm || decide (c.verifyTickFor s.nm ≤ e.verifyTickFor s.nm)

/-- The step leaves the shared timer to the clock and to the call with the id: no stall repair is started
for another call, none becomes refreshable, and none that is owed a verdict is in more of a hurry. -/
def leavesTimer (g : Cfg) (id : Nat) (s : Sys) : SysAct → Bool
  | .statsTick id' packets setupPending env =>
      decide (id' = id) ||
        !s.hasCall id' fun c => (c.idle.stallRepair g s.nm s.now env packets setupPending).2
  | .callEstablished id' | .callResumed id' =>
      decide (id' = id) ||
        !s.hasCall id' fun c =>
          decide (c.netMigState = .deferred) && decide (c.netMigGen = s.nm.gen)
  | .verifyFires _ => s.keepsPace id
  | .settleFires env =>
      !s.startsGeneration env ||
        s.calls.all fun c => decide (c.netMigGen ≠ u32 (s.nm.gen + 1)) || !c.netMigStall
  | _ => true

theorem verify_owed {nm : Netmon} {now : Nat} {c : Call} (hbc : c.bc = true)
    (h : (c.verify g nm now env).isOwed nm = true) : c.isOwed nm = true := by
  have hgen := (@Call.continues_verify g nm now env c hbc).gen_eq
  simp only [Call.isOwed, Bool.and_eq_true, decide_eq_true_eq, hgen] at h ⊢
  refine ⟨h.1, ?_⟩
  cases hstate : c.netMigState with
  | stalled | waitAddr | deferred | sent => rfl
  | idle | done | failed => simp [Call.verify, hbc, hstate, MigState.isPending] at h

/-- Judging the calls puts none of them in a hurry. -/
theorem keepsPace_verify (htidy : s.Tidy) (hpace : s.keepsPace id = true) {d e : Call}
    (hd : d ∈ (s.sweepCalls (Call.verify g s.nm s.now env)).calls) (hid : d.id = id)
    (he : e ∈ (s.sweepCalls (Call.verify g s.nm s.now env)).calls) (howed : e.isOwed s.nm = true) :
    d.verifyTickFor s.nm ≤ e.verifyTickFor s.nm := by
  have hbefore : ∀ e ∈ (s.sweepCalls (Call.verify g s.nm s.now env)).calls, ∃ c ∈ s.calls,
      c.id = e.id ∧ e.netMigStall = c.netMigStall ∧ (e.isOwed s.nm = true → c.isOwed s.nm = true) := by
    intro e he
    rcases (mem_sweepCalls he).2 with ⟨c, hc, rfl⟩ | hpast
    · have hmem := List.mem_of_mem_take hc
      have hstamp := (@Call.continues_verify g s.nm s.now env c.idle (htidy.live c hmem)).stamp
      exact ⟨c, hmem, (congrArg CallStamp.id hstamp).symm, congrArg CallStamp.netMigStall hstamp,
        verify_owed (c := c.idle) (htidy.live c hmem)⟩
    · exact ⟨e, List.mem_of_mem_drop hpast, rfl, rfl, fun h => h⟩
  obtain ⟨c, hc, hcid, hcstall, -⟩ := hbefore d hd
  obtain ⟨b, hb, -, hbstall, hbowed⟩ := hbefore e he
  have hall := List.all_eq_true.mp hpace c hc
  simp only [hcid, hid, ne_eq, not_true_eq_false, decide_false, Bool.false_or] at hall
  have hle := List.all_eq_true.mp hall b hb
  simp only [hbowed howed, Bool.not_true, Bool.false_or, decide_eq_true_eq] at hle
  rw [verifyTickFor_congr hcstall, verifyTickFor_congr hbstall]
  exact hle

theorem not_stall_of_migrated (htidy : s.Tidy)
    (hstale : ∀ c ∈ s.calls, c.netMigGen = s.nm.gen → c.netMigStall = false) {e : Call}
    (he : e ∈ (s.sweepCalls (Call.startMigration g s.nm s.now env)).calls)
    (howed : e.isOwed s.nm = true) : e.netMigStall = false := by
  rcases (mem_sweepCalls he).2 with ⟨c, hc, rfl⟩ | hpast
  · have hmem := List.mem_of_mem_take hc
    have hstamp := (@Call.claim_migrates g s.nm s.now env c.idle (htidy.live c hmem)).continues.stamp
    refine (congrArg CallStamp.netMigStall hstamp).trans ?_
    show (c.idle.claim s.nm s.now).netMigStall = false
    unfold Call.claim
    split
    · rename_i hgen
      exact hstale c hmem hgen
    · rfl
  · have hgen : e.netMigGen = s.nm.gen := of_decide_eq_true (Bool.and_eq_true_iff.mp howed).1
    exact hstale e (List.mem_of_mem_drop hpast) hgen

/-! ### Steps -/

/-- The events a call on its own sees, the clock and the shared timer apart. -/
def concerns (id : Nat) : SysAct → Bool
  | .createCall id' .. | .callRinging id' | .callEstablished id' | .callHeld id' | .callResumed id'
  | .callLocalHold id' _ | .callSdpAnswer id' _ | .callClosed id' | .statsTick id' .. =>
      decide (id' = id)
  | .networkChanged _ | .setMonitor _ | .setPolicy .. | .localAddr _ | .pollFires _
  | .settleFires _ => true
  | .createAccount .. | .destroyAccount _ | .account .. | .verifyFires _ | .elapse _ => false

theorem Solo.callRefreshable (h : Solo id s t) :
    Solo id (s.callRefreshable id) (t.callRefreshable id) := by
  unfold Sys.callRefreshable
  rw [h.nm, h.hasCall]
  split
  · exact h
  · split
    · exact ⟨h.now, by simp only [bounceVerify, h.now, h.nm], h.calls⟩
    · exact h

/-- Whether there is a call to refresh is no matter of whether it is established. -/
theorem hasCall_onCall {id' : Nat} {test : Call → Bool}
    (htest : ∀ c : Call, (decide ((work c.idle).id = id) && test (work c.idle).idle) =
      (decide (c.id = id) && test c)) : (s.onCall id' work).hasCall id test = s.hasCall id test := by
  have hmap : (s.onCall id' work).calls.map (fun c => decide (c.id = id) && test c) =
      s.calls.map (fun c => decide (c.id = id) && test c) :=
    map_sweep htest
  have hany (r : Sys) : r.hasCall id test =
      (r.calls.map fun c => decide (c.id = id) && test c).any fun b => b := by
    rw [Sys.hasCall, List.any_map]
    rfl
  rw [hany, hany, hmap]

theorem callRefreshable_of_not (hnot : s.hasCall id (fun c =>
      decide (c.netMigState = .deferred) && decide (c.netMigGen = s.nm.gen)) = false) :
    s.callRefreshable id = s := by
  unfold Sys.callRefreshable
  rw [hnot]
  split <;> rfl

/-- An event that does not concern the call is lost on it. -/
theorem Solo.skip {act : SysAct} (h : Solo id s t) (htidy : s.Tidy) (hen : s.enabled act = true)
    (hc : c ∈ s.calls) (hid : c.id = id) (hleaves : s.leavesTimer g id act = true)
    (hact : concerns id act = false) (hfires : ∀ env, act ≠ .verifyFires env)
    (hclock : ∀ ms, act ≠ .elapse ms) : Solo id (s.handle g act) t := by
  cases act with
  | networkChanged _ | setMonitor _ | setPolicy _ _ | localAddr _ | pollFires _ | settleFires _ =>
      cases hact
  | verifyFires env => exact absurd rfl (hfires env)
  | elapse ms => exact absurd rfl (hclock ms)
  | createAccount _ _ _ | destroyAccount _ => exact ⟨h.now, h.nm, h.calls⟩
  | account id' act => exact ⟨h.now, h.nm, h.calls⟩
  | createCall id' acct state =>
      refine ⟨h.now, h.nm, ?_⟩
      have hne : id' ≠ id := of_decide_eq_false hact
      rw [h.calls, ofId, ofId]
      refine ((List.filter_append _ _).trans ?_).symm
      rw [List.filter_cons_of_neg (by simp [Call.wrapNew, hne]), List.filter_nil, List.append_nil]
  | callRinging id' | callHeld id' | callLocalHold id' hold =>
      simp only [Sys.handle]
      exact h.onOther htidy hc hid (fun _ => .of_eq (by rfl) (by rfl)) (of_decide_eq_false hact)
  | callSdpAnswer id' env =>
      exact h.onOther htidy hc hid (fun _ => Call.works_sdpAnswer.adds) (of_decide_eq_false hact)
  | callClosed id' =>
      refine ⟨h.now, h.nm, ?_⟩
      have hne : id' ≠ id := of_decide_eq_false hact
      rw [h.calls, ofId, ofId]
      show _ = (s.calls.filter fun c => decide (c.id ≠ id')).filter fun c => decide (c.id = id)
      rw [List.filter_filter]
      refine List.filter_congr fun e _ => ?_
      by_cases heid : e.id = id
      · simp [heid, Ne.symm hne]
      · simp [heid]
  | callEstablished id' | callResumed id' =>
      have hne : id' ≠ id := of_decide_eq_false hact
      simp only [leavesTimer, hne, decide_false, Bool.false_or, Bool.not_eq_true'] at hleaves
      simp only [Sys.handle]
      rw [callRefreshable_of_not ((hasCall_onCall fun _ => by rfl).trans hleaves)]
      exact h.onOther htidy hc hid (fun _ => .of_eq (by rfl) (by rfl)) hne
  | statsTick id' packets setupPending env =>
      have hne : id' ≠ id := of_decide_eq_false hact
      simp only [leavesTimer, hne, decide_false, Bool.false_or, Bool.not_eq_true'] at hleaves
      simp only [Sys.handle, Sys.statsTick]
      rw [hleaves]
      exact h.onOther htidy hc hid (fun _ => Call.adds_stallRepair packets setupPending) hne

/-- After a loop over the snapshot the timer is armed; while the call waits it is armed alike. -/
theorem Solo.armed (h : Solo id s t) (htidy : s.Tidy)
    (hpace : ∀ d ∈ s.calls, d.id = id → d.isOwed s.nm = true → ∀ e ∈ s.calls,
      e.isOwed s.nm = true → d.verifyTickFor s.nm ≤ e.verifyTickFor s.nm) :
    t.armVerify.calls = s.armVerify.ofId id ∧
      (s.armVerify.waits id = true → Solo id s.armVerify t.armVerify) := by
  refine ⟨h.calls, fun hwaits => ?_⟩
  obtain ⟨d, hd, hid, hgen, hstate⟩ := waits_iff.mp hwaits
  have howed : d.isOwed s.nm = true := isOwed_of_waits hgen hstate
  exact h.armVerify htidy hd hid howed (hpace d (List.mem_of_mem_take hd) hid howed)

theorem Solo.verifyHandler (h : Solo id s t) (htidy : s.Tidy) (hc : c ∈ s.calls.take netMaxSnap)
    (hid : c.id = id) (hpace : s.keepsPace id = true) :
    (t.verifyHandler g env).calls = (s.verifyHandler g env).ofId id ∧
      ((s.verifyHandler g env).waits id = true →
        Solo id (s.verifyHandler g env) (t.verifyHandler g env)) := by
  have hadds (c : Call) : c.Adds (c.verify g s.nm s.now env) := Call.works_verify.adds
  have hswept := h.sweepCalls htidy hc hid hadds
  rw [verifyHandler_of_started htidy.started, verifyHandler_of_started (h.tidy htidy).started, h.nm,
    h.now]
  refine hswept.armed ((keeps_sweepCalls hadds).tidy htidy) ?_
  intro d hd hdid _ e he howed
  exact keepsPace_verify htidy hpace hd hdid he howed

theorem Solo.verifyFires (g : Cfg) (env : NetEnv) (h : Solo id s t) (htidy : s.Tidy)
    (hc : c ∈ s.calls.take netMaxSnap) (hid : c.id = id) (hpace : s.keepsPace id = true) :
    (t.handle g (.verifyFires env)).calls = (s.handle g (.verifyFires env)).ofId id ∧
      ((s.handle g (.verifyFires env)).waits id = true →
        Solo id (s.handle g (.verifyFires env)) (t.handle g (.verifyFires env))) := by
  have hfired : Solo id { s with nm.tmrVerify := none } { t with nm.tmrVerify := none } :=
    ⟨h.now, by simp only [h.nm], h.calls⟩
  exact hfired.verifyHandler ⟨htidy.started, htidy.nodup, htidy.live⟩ hc hid hpace

theorem Solo.settleFires (h : Solo id s t) (htidy : s.Tidy) (hc : c ∈ s.calls.take netMaxSnap)
    (hid : c.id = id) (hleaves : s.leavesTimer g id (.settleFires env) = true) :
    (t.handle g (.settleFires env)).calls = (s.handle g (.settleFires env)).ofId id ∧
      ((s.handle g (.settleFires env)).waits id = true →
        Solo id (s.handle g (.settleFires env)) (t.handle g (.settleFires env))) := by
  have hfired : Solo id { s with nm.tmrSettle := none } { t with nm.tmrSettle := none } :=
    ⟨h.now, by simp only [h.nm], h.calls⟩
  have htidy' : ({ s with nm.tmrSettle := none } : Sys).Tidy := ⟨htidy.started, htidy.nodup, htidy.live⟩
  simp only [Sys.handle]
  rcases hfired.settleHandler g env htidy' hc hid with hsolo |
    ⟨hstarts, r, q, hsolo, hrtidy, hcalls, hgen, heq, heq'⟩
  · exact ⟨hsolo.calls, fun _ => hsolo⟩
  · have hstarts : s.startsGeneration env = true := hstarts
    have hstale : ∀ c ∈ r.calls, c.netMigGen = r.nm.gen → c.netMigStall = false := by
      intro c hc hcgen
      rw [hcalls] at hc
      rw [hgen] at hcgen
      simp only [leavesTimer, hstarts, Bool.not_true, Bool.false_or] at hleaves
      have hfresh := List.all_eq_true.mp hleaves c hc
      simpa [show c.netMigGen = u32 (s.nm.gen + 1) from hcgen] using hfresh
    rw [heq, heq']
    have hadds (c : Call) : c.Adds (c.startMigration g r.nm r.now env) := Call.works_startMigration.adds
    have hswept := hsolo.sweepCalls hrtidy (hcalls ▸ hc) hid hadds
    have hswept' : Solo id (r.sweepCalls (Call.startMigration g r.nm r.now env))
        (q.sweepCalls (Call.startMigration g q.nm q.now env)) := by
      rw [hsolo.nm, hsolo.now]
      exact hswept
    refine hswept'.armed ((keeps_sweepCalls hadds).tidy hrtidy) ?_
    intro d hd _ hdowed e he howed
    have hcalm := not_stall_of_migrated hrtidy hstale hd hdowed
    have hcalm' := not_stall_of_migrated hrtidy hstale he howed
    exact (verifyTickFor_congr (hcalm.trans hcalm'.symm)).le

/-- What concerns the call is to the call on its own what it is to the call in company. -/
theorem Solo.handle {act : SysAct} (h : Solo id s t) (htidy : s.Tidy) (hen : s.enabled act = true)
    (hc : c ∈ s.calls.take netMaxSnap) (hid : c.id = id) (hleaves : s.leavesTimer g id act = true)
    (hact : concerns id act = true) :
    (t.handle g act).calls = (s.handle g act).ofId id ∧
      ((s.handle g act).waits id = true → Solo id (s.handle g act) (t.handle g act)) := by
  have hmem : c ∈ s.calls := List.mem_of_mem_take hc
  have hboth {s' t' : Sys} (hsolo : Solo id s' t') :
      t'.calls = s'.ofId id ∧ (s'.waits id = true → Solo id s' t') := ⟨hsolo.calls, fun _ => hsolo⟩
  cases act with
  | createAccount _ _ _ | destroyAccount _ | account _ _ | verifyFires _ | elapse _ => cases hact
  | createCall id' acct state =>
      obtain rfl : id' = id := of_decide_eq_true hact
      exact absurd hid (of_decide_eq_true (List.all_eq_true.mp hen c hmem))
  | callRinging id' | callHeld id' | callLocalHold id' hold =>
      obtain rfl : id' = id := of_decide_eq_true hact
      simp only [Sys.handle]
      exact hboth (h.onCall htidy hmem hid fun _ => .of_eq (by rfl) (by rfl))
  | callEstablished id' | callResumed id' =>
      obtain rfl : id' = id := of_decide_eq_true hact
      simp only [Sys.handle, h.now]
      exact hboth (h.onCall htidy hmem hid fun _ => .of_eq (by rfl) (by rfl)).callRefreshable
  | callSdpAnswer id' env =>
      obtain rfl : id' = id := of_decide_eq_true hact
      simp only [Sys.handle, h.now, h.nm]
      exact hboth (h.onCall htidy hmem hid fun _ => Call.works_sdpAnswer.adds)
  | callClosed id' =>
      obtain rfl : id' = id := of_decide_eq_true hact
      refine hboth ⟨h.now, h.nm, ?_⟩
      show t.calls.filter _ = (s.calls.filter _).filter _
      rw [h.calls, ofId, List.filter_comm]
  | statsTick id' packets setupPending env =>
      obtain rfl : id' = id := of_decide_eq_true hact
      have hadds (c : Call) : c.Adds (c.stallRepair g s.nm s.now env packets setupPending).1 :=
        Call.adds_stallRepair packets setupPending
      have hworked := h.onCall htidy hmem hid hadds
      simp only [Sys.handle, Sys.statsTick]
      rw [h.nm, h.now, h.hasCall]
      split
      · exact hboth ⟨hworked.now, by simp only [bounceVerify, hworked.nm, hworked.now], hworked.calls⟩
      · exact hboth hworked
  | networkChanged env => exact hboth (h.netmonTrigger env true)
  | setMonitor seconds => exact hboth ⟨h.now, by simp only [Sys.handle, setMonitorFn, h.now, h.nm], h.calls⟩
  | setPolicy reinvite hangup =>
      exact hboth ⟨h.now, by simp only [Sys.handle, setPolicyFn, h.nm], h.calls⟩
  | localAddr env => exact hboth ⟨h.now, by simp only [Sys.handle, updateCurLaddr, h.nm], h.calls⟩
  | pollFires env =>
      have hfired : Solo id { s with nm.tmrPoll := none } { t with nm.tmrPoll := none } :=
        ⟨h.now, by simp only [h.nm], h.calls⟩
      exact hboth (hfired.pollHandler env)
  | settleFires env => exact h.settleFires htidy hc hid hleaves

theorem rearms_handle (hstarted : s.nm.started = true) {act : SysAct}
    (hact : concerns id act = true) : s.Rearms (s.handle g act) := by
  cases act with
  | createAccount _ _ _ | destroyAccount _ | account _ _ | verifyFires _ | elapse _ => cases hact
  | createCall _ _ _ | callRinging _ | callHeld _ | callLocalHold _ _ | callSdpAnswer _ _
  | callClosed _ | setMonitor _ | setPolicy _ _ | localAddr _ => exact .of_eq rfl rfl
  | callEstablished id' | callResumed id' =>
      exact Rearms.trans (.of_eq (by rfl) (by rfl)) (rearms_callRefreshable id')
  | statsTick id' packets setupPending env =>
      simp only [Sys.handle]
      rcases statsTick_eq g env s id' packets setupPending with heq | heq <;> rw [heq]
      · exact .of_eq rfl rfl
      · exact Rearms.trans (.of_eq (by rfl) (by rfl)) rearms_bounceVerify
  | networkChanged env => exact rearms_netmonTrigger true
  | pollFires env =>
      have hidle : s.Rearms { s with nm.tmrPoll := none } := .of_eq rfl rfl
      obtain ⟨tmrPoll, heq⟩ := @pollHandler_eq { s with nm.tmrPoll := none } env hstarted
      simp only [Sys.handle]
      rw [heq]
      exact (hidle.trans (rearms_netmonTrigger false)).trans (.of_eq rfl rfl)
  | settleFires env =>
      have hidle : s.Rearms { s with nm.tmrSettle := none } := .of_eq rfl rfl
      exact hidle.trans rearms_settleHandler

/-! ### Stretches -/

/-- What an event is to a call on its own: time, a millisecond at a time, itself, or nothing. -/
def script (id : Nat) : SysAct → List (Option SysAct)
  | .elapse ms => List.replicate ms none
  | act => if concerns id act then [some act] else []

theorem script_elapse_add (id ms ms' : Nat) :
    script id (.elapse (ms + ms')) = script id (.elapse ms) ++ script id (.elapse ms') :=
  List.replicate_add ms ms' none

theorem script_eq {act : SysAct} (hclock : ∀ ms, act ≠ .elapse ms) :
    script id act = if concerns id act then [some act] else [] := by
  unfold script
  split
  · exact absurd rfl (hclock _)
  · rfl

/-- The shared timer fires as soon as it is due; `world` answers. -/
def wake (g : Cfg) (world : Nat → NetEnv) (t : Sys) : Sys :=
  if t.nm.tmrVerify.isDue t.now then t.handle g (.verifyFires (world t.now)) else t

def beat (g : Cfg) (world : Nat → NetEnv) (t : Sys) : Option SysAct → Sys
  | none => ({ t with now := t.now + 1 }).wake g world
  | some act => t.handle g act

/-- The shared timer is served before anything else, and no time goes by it. -/
def onTime (s : Sys) : SysAct → Bool
  | .verifyFires _ => true
  | .elapse ms =>
      !s.nm.tmrVerify.isDue s.now && s.nm.tmrVerify.all fun due => decide (s.now + ms ≤ due)
  | _ => !s.nm.tmrVerify.isDue s.now

theorem wake_of_not_due {world : Nat → NetEnv} (h : t.nm.tmrVerify.isDue t.now = false) :
    t.wake g world = t := by
  simp [wake, h]

/-- Time passes up to the moment the timer is due, and the timer fires. -/
theorem foldl_beat_clock (world : Nat → NetEnv) (t : Sys) (h : t.nm.tmrVerify.isDue t.now = false)
    (ms : Nat) (hdue : ∀ due, t.nm.tmrVerify = some due → t.now + ms ≤ due) :
    (List.replicate ms none).foldl (beat g world) t =
      ({ t with now := t.now + ms }).wake g world := by
  induction ms with
  | zero => exact (wake_of_not_due h).symm
  | succ ms ih =>
      have hearly : ({ t with now := t.now + ms } : Sys).nm.tmrVerify.isDue (t.now + ms) = false := by
        cases htimer : t.nm.tmrVerify with
        | none => rfl
        | some due =>
            have hle := hdue due htimer
            exact decide_eq_false (by omega)
      rw [List.replicate_succ', List.foldl_append, ih fun due htimer => ?_]
      · rw [wake_of_not_due hearly]
        rfl
      · have hle := hdue due htimer
        omega

/-- The step is taken while the call waits, on time, and with the world's answers. -/
structure Prompt (world : Nat → NetEnv) (id : Nat) (s : Sys) (act : SysAct) : Prop where
  waits : s.waits id = true
  onTime : s.onTime act = true
  world : ∀ env, act = .verifyFires env → env = world s.now

/-- And it leaves the shared timer alone. -/
def Undisturbed (g : Cfg) (world : Nat → NetEnv) (id : Nat) (s : Sys) (act : SysAct) : Prop :=
  Prompt world id s act ∧ s.leavesTimer g id act = true

/-- `v` is where the script has led the call on its own: a timer that is due in company has fired. -/
structure Tracks (g : Cfg) (world : Nat → NetEnv) (id : Nat) (s v : Sys) : Prop where
  tidy : s.Tidy
  alone : s.waits id = true → ∃ t, Solo id s t ∧ v = t.wake g world
  calls : s.nm.tmrVerify.isDue s.now = false → v.calls = s.ofId id

variable {world : Nat → NetEnv} {v : Sys} {act : SysAct} {os : List SysOut}

/-- While the timer is not due, both are where the script says. -/
theorem Tracks.of_not_due (htidy : s.Tidy) (hdue : v.nm.tmrVerify.isDue v.now = false)
    (hcalls : v.calls = s.ofId id) (halone : s.waits id = true → Solo id s v) :
    Tracks g world id s v :=
  ⟨htidy, fun hwaits => ⟨v, halone hwaits, (wake_of_not_due hdue).symm⟩, fun _ => hcalls⟩

theorem tracks_verifyFires (htidy : s.Tidy) (hsolo : Solo id s t)
    (hdue : s.nm.tmrVerify.isDue s.now = true) (hc : c ∈ s.calls.take netMaxSnap) (hid : c.id = id)
    (hpace : s.keepsPace id = true) :
    Tracks g world id (s.handle g (.verifyFires (world s.now))) (t.wake g world) := by
  have hwake : t.wake g world = t.handle g (.verifyFires (world s.now)) := by
    rw [wake, hsolo.nm, hsolo.now, hdue]
    rfl
  obtain ⟨hcalls, hsolo'⟩ := hsolo.verifyFires g (world s.now) htidy hc hid hpace
  rw [hwake]
  refine .of_not_due (htidy.handle hdue) ?_ hcalls hsolo'
  have hstarted : t.nm.started = true := (hsolo.tidy htidy).started
  have hfired : ({ t with nm.tmrVerify := none } : Sys).nm.started = true := hstarted
  simp only [Sys.handle]
  rw [verifyHandler_of_started hfired]
  exact rearms_armVerify.not_due rfl

theorem tracks_step (h : Tracks g world id s v) (hundisturbed : Undisturbed g world id s act)
    (hstep : (system g).step s act = some (s', os)) :
    Tracks g world id s' ((script id act).foldl (beat g world) v) := by
  obtain ⟨hen, rfl, -⟩ := system_step hstep
  obtain ⟨⟨hwaits, htime, hworld⟩, hleaves⟩ := hundisturbed
  obtain ⟨t, hsolo, rfl⟩ := h.alone hwaits
  obtain ⟨c, hc, hid, -, -⟩ := waits_iff.mp hwaits
  have htidy : s.idle.Tidy := ⟨h.tidy.started, h.tidy.nodup, h.tidy.live⟩
  have hidle : Solo id s.idle t := ⟨hsolo.now, hsolo.nm, hsolo.calls⟩
  by_cases hfires : ∃ env, act = .verifyFires env
  · obtain ⟨env, rfl⟩ := hfires
    rw [hworld env rfl]
    exact tracks_verifyFires htidy hidle hen hc hid hleaves
  by_cases hclock : ∃ ms, act = .elapse ms
  · obtain ⟨ms, rfl⟩ := hclock
    simp only [onTime, Bool.and_eq_true, Bool.not_eq_true'] at htime
    have hquiet : t.nm.tmrVerify.isDue t.now = false := by
      rw [hsolo.nm, hsolo.now]
      exact htime.1
    have hdue : ∀ due, t.nm.tmrVerify = some due → t.now + ms ≤ due := by
      intro due htimer
      rw [hsolo.nm] at htimer
      rw [hsolo.now]
      simpa [htimer] using htime.2
    have hlater : Solo id (s.idle.handle g (.elapse ms)) { t with now := t.now + ms } :=
      ⟨congrArg (· + ms) hsolo.now, hsolo.nm, hsolo.calls⟩
    rw [wake_of_not_due hquiet]
    simp only [script]
    rw [foldl_beat_clock world t hquiet ms hdue]
    refine ⟨htidy.handle hen, fun _ => ⟨_, hlater, rfl⟩, fun hafter => ?_⟩
    rw [wake_of_not_due]
    · exact hlater.calls
    · rw [hlater.nm, hlater.now]
      exact hafter
  have hquiet : s.nm.tmrVerify.isDue s.now = false := by
    cases act with
    | verifyFires env => exact absurd ⟨env, rfl⟩ hfires
    | elapse ms => exact absurd ⟨ms, rfl⟩ hclock
    | _ => exact (Bool.not_eq_true' _).mp htime
  have hquiet' : t.nm.tmrVerify.isDue t.now = false := by
    rw [hsolo.nm, hsolo.now]
    exact hquiet
  rw [wake_of_not_due hquiet', script_eq fun ms heq => hclock ⟨ms, heq⟩]
  cases hact : concerns id act with
  | true =>
      obtain ⟨hcalls, hsolo'⟩ := hidle.handle htidy hen hc hid hleaves hact
      exact .of_not_due (htidy.handle hen)
        ((rearms_handle (hidle.tidy htidy).started hact).not_due hquiet') hcalls hsolo'
  | false =>
      have hskipped := hidle.skip htidy hen (List.mem_of_mem_take hc) hid hleaves hact
        (fun env heq => hfires ⟨env, heq⟩) fun ms heq => hclock ⟨ms, heq⟩
      exact .of_not_due (htidy.handle hen) hquiet' hskipped.calls fun _ => hskipped

end Sys

variable {g : Cfg} {world : Nat → NetEnv} {id : Nat} {s s₁ s₂ : Sys} {t u v : Trace SysAct SysOut}

/-- **A wait is charged by the clock.** Two stretches from one state, in which the call waits, the shared
timer is served on time and left alone: whatever else happens to the accounts and the other calls in
either, what concerns the call at the same moments leaves it the same, its tries and its verdict
included. -/
theorem waits_charged_alike (hrun : (system g).Run Machine.Always s t)
    (hfirst : (system g).Steps (Sys.Undisturbed g world id) s u s₁)
    (hsecond : (system g).Steps (Sys.Undisturbed g world id) s v s₂)
    (hscript : (u.map Prod.fst).flatMap (Sys.script id) = (v.map Prod.fst).flatMap (Sys.script id))
    (hend₁ : s₁.nm.tmrVerify.isDue s₁.now = false) (hend₂ : s₂.nm.tmrVerify.isDue s₂.now = false) :
    s₁.ofId id = s₂.ofId id := by
  have hstart : Sys.Tracks g world id s ((s.solo id).wake g world) := by
    refine ⟨tidy_run hrun, fun _ => ⟨_, Sys.solo_solo id s, rfl⟩, fun hdue => ?_⟩
    have hasleep : (s.solo id).wake g world = s.solo id := Sys.wake_of_not_due hdue
    rw [hasleep]
    rfl
  have htracks {r : Sys} {w : Trace SysAct SysOut}
      (hsteps : (system g).Steps (Sys.Undisturbed g world id) s w r) :=
    hsteps.follows (fun _ _ _ _ _ h hC hstep => Sys.tracks_step h hC hstep) hstart
  rw [← (htracks hfirst).calls hend₁, ← (htracks hsecond).calls hend₂, hscript]

/-- The network of `calm`, where no address reaches the peer of call 1. -/
def NetEnv.adrift : NetEnv :=
  { NetEnv.calm with
    call := fun id =>
      if id = 1 then { NetEnv.calm.call id with sourceAddr := none } else NetEnv.calm.call id }

/-- Two calls, the first of which a handover leaves waiting for an address. -/
def waitingCall : List SysAct :=
  [.createCall 1 none .calling, .createCall 2 none .calling, .callEstablished 1, .callEstablished 2,
    .elapse 3000, .networkChanged .adrift, .elapse 1500, .settleFires .adrift]

theorem steps_of_exec_prompt {env : NetEnv} {test : Sys → SysAct → Bool} {as : List SysAct}
    (hanswers : ∀ env', SysAct.verifyFires env' ∈ as → env' = env)
    (hexec : (system g).exec (fun s act => s.waits id && s.onTime act && test s act) s as =
      some (s₁, u)) :
    u.map Prod.fst = as ∧
      (system g).Steps (fun s act => Sys.Prompt (fun _ => env) id s act ∧ test s act = true) s u s₁ := by
  obtain ⟨hinputs, hsteps⟩ := Machine.inputs_of_exec hexec
  refine ⟨hinputs, hsteps.mono fun s act h => ?_⟩
  obtain ⟨⟨hwaits, htime⟩, htest⟩ := by simpa only [Bool.and_eq_true] using h.1
  exact ⟨⟨hwaits, htime, fun env' hact => hanswers env' (hact ▸ h.2)⟩, htest⟩

/-- A tick of the wait, alone and while the other call is held. -/
def oneTick : List SysAct := [.elapse 4000, .verifyFires .adrift]

def oneTickHeld : List SysAct :=
  [.callEstablished 2, .statsTick 2 0 false .adrift, .elapse 1500, .callHeld 2, .elapse 2500,
    .verifyFires .adrift]

/-- Either way it costs one try. -/
theorem waits_charged_alike_tick :
    ∃ s s₁ s₂ u v, (system configInit).Steps (Sys.Undisturbed configInit (fun _ => .adrift) 1) s u s₁ ∧
      (system configInit).Steps (Sys.Undisturbed configInit (fun _ => .adrift) 1) s v s₂ ∧
        s₁.ofId 1 = s₂.ofId 1 ∧ ∃ c ∈ s₂.ofId 1, c.netMigTries = 1 := by
  obtain ⟨s, t, hrun, hend⟩ := Machine.exists_run_of_exec (fun _ _ => true)
    (justStarted_init configInit) waitingCall
    (fun s _ =>
      ((system configInit).exec (fun s act => s.waits 1 && s.onTime act &&
        s.leavesTimer configInit 1 act) s oneTick).any fun a : Sys × Trace SysAct SysOut =>
          ((system configInit).exec (fun s act => s.waits 1 && s.onTime act &&
            s.leavesTimer configInit 1 act) s oneTickHeld).any fun b : Sys × Trace SysAct SysOut =>
              !a.1.nm.tmrVerify.isDue a.1.now && !b.1.nm.tmrVerify.isDue b.1.now &&
                (b.1.ofId 1).any fun c => decide (c.netMigTries = 1))
    (by decide +kernel)
  simp only [Option.any_eq_true, Bool.and_eq_true, Bool.not_eq_true', List.any_eq_true,
    decide_eq_true_eq] at hend
  obtain ⟨⟨s₁, u⟩, hexec₁, ⟨s₂, v⟩, hexec₂, ⟨hend₁, hend₂⟩, hone⟩ := hend
  obtain ⟨hinputs₁, hsteps₁⟩ := @steps_of_exec_prompt _ _ _ _ _ .adrift _ _ (by simp [oneTick]) hexec₁
  obtain ⟨hinputs₂, hsteps₂⟩ :=
    @steps_of_exec_prompt _ _ _ _ _ .adrift _ _ (by simp [oneTickHeld]) hexec₂
  refine ⟨s, s₁, s₂, u, v, hsteps₁, hsteps₂, ?_, hone⟩
  refine waits_charged_alike hrun.always hsteps₁ hsteps₂ ?_ hend₁ hend₂
  have hothers : Sys.script 1 (.callEstablished 2) = [] ∧
      Sys.script 1 (.statsTick 2 0 false .adrift) = [] ∧ Sys.script 1 (.callHeld 2) = [] ∧
        Sys.script 1 (.verifyFires .adrift) = [] := ⟨rfl, rfl, rfl, rfl⟩
  rw [hinputs₁, hinputs₂]
  simp only [oneTick, oneTickHeld, List.flatMap_cons, List.flatMap_nil, hothers, List.nil_append,
    List.append_nil]
  exact Sys.script_elapse_add 1 1500 2500

/-- What is left of an event without the shared timer and the reports of other calls. -/
def withoutReports (id : Nat) : SysAct → List (Option SysAct)
  | .elapse ms => List.replicate ms none
  | .verifyFires _ => []
  | act =>
      match act with
      | .statsTick id' .. | .callEstablished id' | .callResumed id' =>
          if id' = id then [some act] else []
      | _ => [some act]

/-- Ten milliseconds of the wait, and the same ten with a stall repair of the other call in them. -/
def tenMs : List SysAct := [.elapse 10]

def tenMsStalled : List SysAct :=
  [.statsTick 2 0 false .adrift, .elapse 1, .verifyFires .adrift, .elapse 9]

/-- The repair of another call costs the waiting one a try. -/
theorem waits_charged_bounced :
    ¬ ∀ (g : Cfg) (world : Nat → NetEnv) (id : Nat) (s s₁ s₂ : Sys) (t u v : Trace SysAct SysOut),
      (system g).Run Machine.Always s t → (system g).Steps (Sys.Prompt world id) s u s₁ →
        (system g).Steps (Sys.Prompt world id) s v s₂ →
          (u.map Prod.fst).flatMap (withoutReports id) = (v.map Prod.fst).flatMap (withoutReports id) →
            s₁.nm.tmrVerify.isDue s₁.now = false → s₂.nm.tmrVerify.isDue s₂.now = false →
              ∀ c₁ ∈ s₁.ofId id, ∀ c₂ ∈ s₂.ofId id, c₁.netMigTries = c₂.netMigTries := by
  intro h
  obtain ⟨s, t, hrun, hend⟩ := Machine.exists_run_of_exec (fun _ _ => true)
    (justStarted_init configInit) waitingCall
    (fun s _ =>
      ((system configInit).exec (fun s act => s.waits 1 && s.onTime act && true) s tenMs).any
        fun a : Sys × Trace SysAct SysOut =>
          ((system configInit).exec (fun s act => s.waits 1 && s.onTime act && true) s tenMsStalled).any
            fun b : Sys × Trace SysAct SysOut =>
              !a.1.nm.tmrVerify.isDue a.1.now && !b.1.nm.tmrVerify.isDue b.1.now &&
                (a.1.ofId 1).any fun c₁ => (b.1.ofId 1).any fun c₂ =>
                  decide (c₁.netMigTries ≠ c₂.netMigTries))
    (by decide +kernel)
  simp only [Option.any_eq_true, Bool.and_eq_true, Bool.not_eq_true', List.any_eq_true,
    decide_eq_true_eq] at hend
  obtain ⟨⟨s₁, u⟩, hexec₁, ⟨s₂, v⟩, hexec₂, ⟨hend₁, hend₂⟩, c₁, hc₁, c₂, hc₂, hne⟩ := hend
  obtain ⟨hinputs₁, hsteps₁⟩ :=
    @steps_of_exec_prompt _ _ _ _ _ .adrift (fun _ _ => true) _ (by simp [tenMs]) hexec₁
  obtain ⟨hinputs₂, hsteps₂⟩ :=
    @steps_of_exec_prompt _ _ _ _ _ .adrift (fun _ _ => true) _ (by simp [tenMsStalled]) hexec₂
  refine hne (h _ _ 1 s s₁ s₂ t u v hrun.always (hsteps₁.mono fun _ _ h => h.1)
    (hsteps₂.mono fun _ _ h => h.1) ?_ hend₁ hend₂ c₁ hc₁ c₂ hc₂)
  rw [hinputs₁, hinputs₂]
  rfl

end VoxSdk
