import VoxSdk.Proof.OfferBudget

/-!
# What becomes of a migration

A migration ends in a verdict: MIGRATED or MIGRATION_FAILED. Within a round a call gets one at most. A
handover given up owes one to every call, but passes over those whose last round, however long ago, has
ended in one.
-/

namespace VoxSdk

open Reactive

/-! ### Verdicts -/

/-- A report about the call. -/
def SysOut.isReport (what : NetEvent) (id : Nat) : SysOut → Bool
  | .net r => decide (r.call = some id) && decide (r.event = what)
  | _ => false

def reports (what : NetEvent) (id : Nat) (os : List SysOut) : Nat := os.countP (SysOut.isReport what id)

def verdicts (id : Nat) (os : List SysOut) : Nat :=
  reports .callMigrated id os + reports .callMigrationFailed id os

/-- `send_migration` tries to offer something to the call's peer. -/
def SysOut.isAttempt (id : Nat) : SysOut → Bool
  | .iceRestart call _ | .callResetTransp call _ => decide (call = id)
  | _ => false

def attempts (id : Nat) (os : List SysOut) : Nat := os.countP (SysOut.isAttempt id)

/-- What is said of a call's migration is among what is put out about the call. -/
theorem reports_own {what : NetEvent} (hwhat : what.isCall = true) (id : Nat) (os : List SysOut) :
    reports what id (os.filter (SysOut.ofCall id)) = reports what id os := by
  rw [reports, reports, List.countP_filter]
  refine List.countP_congr fun o _ => ?_
  rw [Bool.and_eq_true, and_iff_left_iff_imp]
  intro ho
  cases o with
  | net r =>
      obtain ⟨hcall, hevent⟩ := Bool.and_eq_true_iff.mp ho
      exact Bool.and_eq_true_iff.mpr ⟨hcall, of_decide_eq_true hevent ▸ hwhat⟩
  | _ => cases ho

theorem verdicts_own (id : Nat) (os : List SysOut) :
    verdicts id (os.filter (SysOut.ofCall id)) = verdicts id os := by
  rw [verdicts, reports_own rfl, reports_own rfl, verdicts]

theorem attempts_own (id : Nat) (os : List SysOut) :
    attempts id (os.filter (SysOut.ofCall id)) = attempts id os := by
  rw [attempts, attempts, List.countP_filter]
  refine List.countP_congr fun o _ => ?_
  cases o <;> simp [SysOut.isAttempt, SysOut.ofCall]

namespace Call

variable {g : Cfg} {nm : Netmon} {now : Nat} {env : NetEnv} {c d e : Call}

@[simp]
theorem reports_emit (what : NetEvent) (id : Nat) (o : SysOut) (c : Call) :
    reports what id (c.emit o).out = reports what id c.out + if o.isReport what id then 1 else 0 := by
  simp [emit, reports, List.countP_append, List.countP_singleton]

@[simp]
theorem attempts_emit (id : Nat) (o : SysOut) (c : Call) :
    attempts id (c.emit o).out = attempts id c.out + if o.isAttempt id then 1 else 0 := by
  simp [emit, attempts, List.countP_append, List.countP_singleton]

@[simp]
theorem reports_report (what what' : NetEvent) (err : Option Errno) (n : Nat) :
    reports what c.id (c.report g nm now env what' err n).out =
      reports what c.id c.out + if what' = what then 1 else 0 := by
  simp [report, SysOut.isReport]

@[simp]
theorem attempts_report (id : Nat) (what : NetEvent) (err : Option Errno) (n : Nat) :
    attempts id (c.report g nm now env what err n).out = attempts id c.out := by
  simp [report, SysOut.isAttempt]

/-- `d` is `c` after work that makes `n` attempts and reports no verdict. -/
structure Silent (n : Nat) (c d : Call) : Prop where
  id : d.id = c.id
  bc : d.bc = c.bc
  rx : d.netRxAtMig = c.netRxAtMig
  reports : ∀ what, what = .callMigrated ∨ what = .callMigrationFailed →
    reports what c.id d.out = reports what c.id c.out
  attempts : attempts c.id d.out = attempts c.id c.out + n

theorem Silent.of_eq (hid : d.id = c.id) (hbc : d.bc = c.bc) (hrx : d.netRxAtMig = c.netRxAtMig)
    (hout : d.out = c.out) : Silent 0 c d :=
  ⟨hid, hbc, hrx, fun what _ => congrArg (VoxSdk.reports what c.id) hout,
    congrArg (VoxSdk.attempts c.id) hout⟩

theorem Silent.refl : Silent 0 c c := .of_eq rfl rfl rfl rfl

theorem Silent.trans {n m : Nat} (h : Silent n c d) (h' : Silent m d e) : Silent (n + m) c e where
  id := h'.id.trans h.id
  bc := h'.bc.trans h.bc
  rx := h'.rx.trans h.rx
  reports what hwhat := by rw [← h.reports what hwhat, ← h.id, h'.reports what hwhat]
  attempts := by rw [← Nat.add_assoc, ← h.attempts, ← h.id, h'.attempts]

theorem Silent.verdicts {n : Nat} (h : Silent n c d) : verdicts c.id d.out = verdicts c.id c.out := by
  rw [VoxSdk.verdicts, h.reports _ (.inl rfl), h.reports _ (.inr rfl), VoxSdk.verdicts]

theorem silent_report {what : NetEvent} (hwhat : what ≠ .callMigrated ∧ what ≠ .callMigrationFailed)
    (err : Option Errno) (n : Nat) : Silent 0 c (c.report g nm now env what err n) where
  id := rfl
  bc := rfl
  rx := rfl
  reports what' h := by
    rw [reports_report, if_neg, Nat.add_zero]
    rcases h with rfl | rfl
    · exact hwhat.1
    · exact hwhat.2
  attempts := attempts_report _ _ _ _

theorem silent_attempt {o : SysOut} (ho : o.isAttempt c.id = true) : Silent 1 c (c.emit o) where
  id := rfl
  bc := rfl
  rx := rfl
  reports what _ := by
    cases o with
    | iceRestart _ _ | callResetTransp _ _ => simp [SysOut.isReport]
    | _ => cases ho
  attempts := by rw [attempts_emit, if_pos ho]

theorem silent_setMigState (st : MigState) : Silent 0 c (c.setMigState st) := .of_eq rfl rfl rfl rfl

theorem silent_laddrRemember (sa : Sa) : Silent 0 c (c.laddrRemember sa) := by
  unfold laddrRemember
  split
  · exact .refl
  · split
    · exact .refl
    · exact .of_eq rfl rfl rfl rfl

theorem silent_nextLaddr (af : Sa) : Silent 0 c (c.nextLaddr env af).2 := by
  unfold nextLaddr
  split
  · exact .refl
  · exact .of_eq rfl rfl rfl rfl

theorem silent_rotateFrom (laddr : Sa) : Silent 0 c (c.rotateFrom env laddr).2 := by
  have hnext := @silent_nextLaddr env c laddr
  unfold rotateFrom
  split
  · split
    · rename_i heq
      rw [heq] at hnext
      exact hnext
    · rename_i heq
      rw [heq] at hnext
      exact hnext
  · exact .refl

theorem silent_claim : Silent 0 c (c.claim nm now) := by
  unfold claim
  split
  · exact .refl
  · exact .of_eq rfl rfl rfl rfl

theorem silent_waitForAddr : Silent 0 c (c.waitForAddr g nm now env) := by
  unfold waitForAddr
  split
  · exact .refl
  · exact (silent_setMigState .waitAddr).trans (silent_report (by decide) _ _)

theorem silent_reportStale (err : Errno) : Silent 0 c (c.reportStale g nm now env err) := by
  have hmarked : Silent 0 c { c with netIceStaleSent := true } := .of_eq rfl rfl rfl rfl
  unfold reportStale
  split
  · exact .refl
  · exact hmarked.trans (silent_report (by decide) _ _)

theorem failMigration_told (err : Errno) :
    (c.failMigration g nm now env err).netMigState = .failed ∧
      (c.failMigration g nm now env err).netRxAtMig = c.netRxAtMig ∧
      reports .callMigrationFailed c.id (c.failMigration g nm now env err).out =
        reports .callMigrationFailed c.id c.out + 1 ∧
      reports .callMigrated c.id (c.failMigration g nm now env err).out =
        reports .callMigrated c.id c.out ∧
      attempts c.id (c.failMigration g nm now env err).out = attempts c.id c.out := by
  have hreport (what : NetEvent) : reports what c.id ((c.setMigState .failed).report g nm now env
      .callMigrationFailed (some err) (c.setMigState .failed).netMigTries).out =
        reports what c.id c.out + if .callMigrationFailed = what then 1 else 0 :=
    reports_report (c := c.setMigState .failed) ..
  have hattempts : attempts c.id ((c.setMigState .failed).report g nm now env
      .callMigrationFailed (some err) (c.setMigState .failed).netMigTries).out = attempts c.id c.out :=
    attempts_report ..
  simp only [failMigration]
  split
  · refine ⟨rfl, rfl, ?_, ?_, ?_⟩
    · simpa [closed, SysOut.isReport] using hreport .callMigrationFailed
    · simpa [closed, SysOut.isReport] using hreport .callMigrated
    · simpa [closed, SysOut.isAttempt] using hattempts
  · exact ⟨rfl, rfl, hreport .callMigrationFailed, hreport .callMigrated, hattempts⟩

/-- `d` is `c` after work that makes `n` attempts or more: one verdict at most, and MIGRATED only where
nobody looks at the media. -/
structure Tries (nm : Netmon) (n : Nat) (c d : Call) : Prop where
  rx : d.netRxAtMig = c.netRxAtMig
  verdicts : verdicts c.id d.out = verdicts c.id c.out ∨
    verdicts c.id d.out = verdicts c.id c.out + 1 ∧ d.isThrough
  migrated : reports .callMigrated c.id d.out = reports .callMigrated c.id c.out ∨ nm.verifyMs = 0
  attempts : attempts c.id c.out + n ≤ attempts c.id d.out

theorem Silent.tries {n : Nat} (h : Silent n c d) : Tries nm n c d :=
  ⟨h.rx, .inl h.verdicts, .inl (h.reports _ (.inl rfl)), h.attempts.ge⟩

theorem Silent.andTries {n m : Nat} (h : Silent n c d) (h' : Tries nm m d e) :
    Tries nm (n + m) c e where
  rx := h'.rx.trans h.rx
  verdicts := by
    rw [← h.verdicts, ← h.id]
    exact h'.verdicts
  migrated := by
    rw [← h.reports _ (.inl rfl), ← h.id]
    exact h'.migrated
  attempts := by
    rw [← Nat.add_assoc, ← h.attempts, ← h.id]
    exact h'.attempts

theorem tries_failMigration (err : Errno) : Tries nm 0 c (c.failMigration g nm now env err) := by
  obtain ⟨hstate, hrx, hfailed, hmigrated, hattempts⟩ :=
    @failMigration_told g nm now env c err
  refine ⟨hrx, .inr ⟨?_, .inr hstate⟩, .inl hmigrated, hattempts.ge⟩
  rw [verdicts, hmigrated, hfailed, verdicts]
  omega

theorem migrated_told (n : Nat) :
    verdicts c.id ((c.setMigState .done).report g nm now env .callMigrated none n).out =
        verdicts c.id c.out + 1 ∧
      attempts c.id ((c.setMigState .done).report g nm now env .callMigrated none n).out =
        attempts c.id c.out := by
  have hreport (what : NetEvent) : reports what c.id ((c.setMigState .done).report g nm now env
      .callMigrated none n).out = reports what c.id c.out + if .callMigrated = what then 1 else 0 :=
    reports_report (c := c.setMigState .done) ..
  refine ⟨?_, attempts_report ..⟩
  rw [verdicts, hreport, hreport, if_pos rfl, if_neg (by decide), verdicts]
  omega

theorem silent_offerRestarted : Silent 0 c (c.offerRestarted g nm now env) := by
  have hsent : Silent 0 c { c with
      netIceRestarted := true
      netMigState := .sent
      netMigDue := now + g.restartGraceMs + c.verifyTickFor nm } := .of_eq rfl rfl rfl rfl
  exact hsent.trans (silent_report (by decide) _ _)

theorem tries_offerPlain : Tries nm 1 c (c.offerPlain g nm now env) := by
  have hreset : Silent 1 c (c.emit (.callResetTransp c.id c.netMigLaddr)) :=
    silent_attempt (decide_eq_true rfl)
  simp only [offerPlain]
  split
  · split
    · exact hreset.andTries (tries_failMigration _)
    · exact (hreset.trans (silent_setMigState _)).tries
  · have hsent : Silent 0 (c.emit (.callResetTransp c.id c.netMigLaddr))
        { c.emit (.callResetTransp c.id c.netMigLaddr) with
          netMigState := .sent
          netMigDue := now + (c.emit (.callResetTransp c.id c.netMigLaddr)).verifyTickFor nm } :=
      .of_eq rfl rfl rfl rfl
    have hoffered := (hreset.trans hsent).trans
      (@silent_report g nm now env _ .callMigrating (by decide) none c.netMigTries)
    split
    · rename_i hunjudged
      refine hoffered.andTries (m := 0) ⟨rfl, .inr ⟨?_, .inl rfl⟩, .inr hunjudged, ?_⟩
      · exact (migrated_told _).1
      · exact (migrated_told _).2.ge
    · exact hoffered.tries

theorem tries_offer : ∃ n, Tries nm (n + 1) c (c.offer g nm now env) := by
  have hrestart : Silent 1 c (c.emit (.iceRestart c.id c.netMigLaddr)) :=
    silent_attempt (decide_eq_true rfl)
  simp only [offer]
  split
  · split
    · exact ⟨0, (hrestart.trans silent_offerRestarted).tries⟩
    · exact ⟨0, (hrestart.trans silent_offerRestarted).tries⟩
    · exact ⟨1, hrestart.andTries tries_offerPlain⟩
    · exact ⟨1, (hrestart.trans (silent_reportStale _)).andTries tries_offerPlain⟩
  · exact ⟨0, tries_offerPlain⟩

/-! ### What a turn tells -/

/-- `d` is `c` after work of a handler that begins from nothing done: the count it leaves is that of the
last attempt. -/
structure Tells (nm : Netmon) (env : NetEnv) (c d : Call) : Prop where
  verdicts : verdicts c.id d.out = verdicts c.id c.out ∨
    verdicts c.id d.out = verdicts c.id c.out + 1 ∧ d.isThrough
  migrated : reports .callMigrated c.id d.out = reports .callMigrated c.id c.out ∨ nm.verifyMs = 0
  attempts : attempts c.id d.out = attempts c.id c.out ∧ d.netRxAtMig = c.netRxAtMig ∨
    attempts c.id c.out < attempts c.id d.out ∧ d.netRxAtMig = c.rxPackets env

theorem Silent.tells (h : Silent 0 c d) : Tells nm env c d :=
  ⟨.inl h.verdicts, .inl (h.reports _ (.inl rfl)), .inl ⟨h.attempts, h.rx⟩⟩

theorem rxPackets_congr (env : NetEnv) (hid : d.id = c.id) (hbc : d.bc = c.bc) :
    d.rxPackets env = c.rxPackets env := by
  rw [rxPackets, rxPackets, hid, hbc]

theorem Silent.andTells (h : Silent 0 c d) (h' : Tells nm env d e) : Tells nm env c e where
  verdicts := by
    rw [← h.verdicts, ← h.id]
    exact h'.verdicts
  migrated := by
    rw [← h.reports _ (.inl rfl), ← h.id]
    exact h'.migrated
  attempts := by
    have hattempts : VoxSdk.attempts c.id d.out = VoxSdk.attempts c.id c.out := h.attempts
    rw [← hattempts, ← h.id, ← h.rx, ← rxPackets_congr env h.id h.bc]
    exact h'.attempts

theorem tells_failMigration (err : Errno) : Tells nm env c (c.failMigration g nm now env err) := by
  obtain ⟨-, hrx, -, -, hattempts⟩ := @failMigration_told g nm now env c err
  have htries := @tries_failMigration g nm now env c err
  exact ⟨htries.verdicts, htries.migrated, .inl ⟨hattempts, hrx⟩⟩

theorem tells_sendMigration : Tells nm env c (c.sendMigration g nm now env) := by
  unfold sendMigration
  split
  · exact (silent_setMigState _).tells
  · split
    · split
      · exact Silent.refl.tells
      · exact ((silent_setMigState _).trans (silent_report (by decide) _ _)).tells
    · have hremember := @silent_laddrRemember
        { c with netRxAtMig := c.rxPackets env, netMigTries := u32 (c.netMigTries + 1) } c.netMigLaddr
      obtain ⟨n, htries⟩ := @tries_offer g nm now env (c.countOffer env)
      have hall := hremember.andTries htries
      have hattempts : VoxSdk.attempts c.id c.out + (0 + (n + 1)) ≤
          VoxSdk.attempts c.id ((c.countOffer env).offer g nm now env).out := hall.attempts
      exact ⟨hall.verdicts, hall.migrated, .inr ⟨by omega, hall.rx⟩⟩

theorem tells_retryMigration : Tells nm env c (c.retryMigration g nm now env) := by
  have hremember := @silent_laddrRemember c c.netMigLaddr
  simp only [retryMigration]
  split
  · have hnext := @silent_nextLaddr env (c.laddrRemember c.netMigLaddr)
      (c.laddrRemember c.netMigLaddr).netMigLaddr
    split
    · rename_i next d heq
      rw [heq] at hnext
      have hmoved : Silent 0 d { d with netMigLaddr := next } := .of_eq rfl rfl rfl rfl
      exact ((hremember.trans hnext).trans hmoved).andTells tells_sendMigration
    · rename_i heq
      rw [heq] at hnext
      exact (hremember.trans hnext).andTells tells_sendMigration
  · exact hremember.andTells tells_sendMigration

theorem tells_startMigration : Tells nm env c (c.startMigration g nm now env) := by
  simp only [startMigration]
  split
  · exact (silent_setMigState _).tells
  · have hclaim := @silent_claim nm now c
    split
    · exact hclaim.andTells silent_waitForAddr.tells
    · rename_i laddr _
      have hrotate := hclaim.trans (@silent_rotateFrom env (c.claim nm now) laddr)
      refine hrotate.andTells ?_
      simp only [migrateTo]
      split
      · exact (silent_setMigState _).tells
      · refine Silent.andTells ?_ tells_sendMigration
        exact .of_eq rfl rfl rfl rfl

/-- What `verify_handler` may say of a call: nothing once it is through, and MIGRATED for one of the
reasons it goes by. -/
structure Judged (nm : Netmon) (env : NetEnv) (c d : Call) : Prop where
  through : c.isThrough → d = c
  verdicts : verdicts c.id d.out = verdicts c.id c.out ∨
    verdicts c.id d.out = verdicts c.id c.out + 1 ∧ d.isThrough
  migrated : reports .callMigrated c.id d.out = reports .callMigrated c.id c.out ∨ nm.verifyMs = 0 ∨
    c.state = .held ∨ (env.call c.id).onhold = true ∨ c.netRxAtMig < c.rxPackets env
  attempts : attempts c.id d.out = attempts c.id c.out ∧ d.netRxAtMig = c.netRxAtMig ∨
    attempts c.id c.out < attempts c.id d.out ∧ d.netRxAtMig = c.rxPackets env

theorem Judged.refl : Judged nm env c c := ⟨fun _ => rfl, .inl rfl, .inl rfl, .inl ⟨rfl, rfl⟩⟩

theorem Tells.judged (h : Tells nm env c d) (hpending : ¬ c.isThrough) : Judged nm env c d where
  through hthrough := absurd hthrough hpending
  verdicts := h.verdicts
  migrated := h.migrated.imp_right .inl
  attempts := h.attempts

theorem judged_judge (hpending : ¬ c.isThrough) : Judged nm env c (c.judge g nm now env) := by
  have hdone (hwhy : nm.verifyMs = 0 ∨ c.state = .held ∨ (env.call c.id).onhold = true ∨
      c.netRxAtMig < c.rxPackets env) : Judged nm env c
        ((c.setMigState .done).report g nm now env .callMigrated none c.netMigTries) := by
    obtain ⟨htold, hattempts⟩ := @migrated_told g nm now env c c.netMigTries
    exact ⟨fun h => absurd h hpending, .inr ⟨htold, .inl rfl⟩, .inr hwhy, .inl ⟨hattempts, rfl⟩⟩
  unfold judge
  split
  · exact .refl
  · split
    · rename_i hunjudged
      exact hdone (.inl hunjudged)
    · split
      · rename_i hwhy
        exact hdone (.inr hwhy)
      · split
        · exact (tells_failMigration _).judged hpending
        · exact tells_retryMigration.judged hpending

theorem judged_verify (hbc : c.bc = true) : Judged nm env c (c.verify g nm now env) := by
  have hcharge : Silent 0 c c.charge := .of_eq rfl rfl rfl rfl
  have hpending {st : MigState} (hstate : c.netMigState = st) (hdone : st ≠ .done)
      (hfailed : st ≠ .failed) : ¬ c.isThrough := by
    rintro (h | h)
    · exact hdone (hstate.symm.trans h)
    · exact hfailed (hstate.symm.trans h)
  simp only [verify]
  split
  · exact .refl
  · rw [if_neg (by simp [hbc])]
    split
    · rename_i hstate
      exact tells_startMigration.judged (hpending hstate (by decide) (by decide))
    · rename_i hstate
      have hwaiting := hpending hstate (by decide) (by decide)
      split
      · exact (hcharge.andTells (tells_failMigration _)).judged hwaiting
      · exact (hcharge.andTells tells_startMigration).judged hwaiting
    · rename_i hstate
      have hwaiting := hpending hstate (by decide) (by decide)
      split
      · exact tells_sendMigration.judged hwaiting
      · split
        · exact (hcharge.andTells (tells_failMigration _)).judged hwaiting
        · exact hcharge.tells.judged hwaiting
    · rename_i hstate
      exact judged_judge (hpending hstate (by decide) (by decide))
    · exact .refl
    · exact .refl
    · exact .refl

/-- A handover given up: what it says, and to whom it says nothing. -/
theorem failPending_told (hbc : c.bc = true) (err : Errno) :
    (c.isThrough ∧ c.failPending g nm now env err = c) ∨
      ¬ c.isThrough ∧ Tells nm env c (c.failPending g nm now env err) ∧
        reports .callMigrationFailed c.id (c.failPending g nm now env err).out =
          reports .callMigrationFailed c.id c.out + 1 ∧
        reports .callMigrated c.id (c.failPending g nm now env err).out =
          reports .callMigrated c.id c.out := by
  unfold failPending
  split
  · rename_i hthrough
    refine .inl ⟨?_, rfl⟩
    simpa [hbc, isThrough] using hthrough
  · rename_i hpending
    have hclocked : Silent 0 c
        { c with netMigStart := if c.netMigStart = 0 then nm.handoverStart else c.netMigStart } :=
      .of_eq rfl rfl rfl rfl
    obtain ⟨-, -, hfailed, hmigrated, -⟩ := @failMigration_told g nm now env
      { c with netMigStart := if c.netMigStart = 0 then nm.handoverStart else c.netMigStart } err
    refine .inr ⟨?_, hclocked.andTells (tells_failMigration err), hfailed, hmigrated⟩
    simpa [hbc, isThrough] using hpending

theorem silent_sdpAnswer : Silent 0 c (c.sdpAnswer g nm now env) := by
  unfold sdpAnswer
  split
  · exact .refl
  · split
    · exact .refl
    · exact silent_report (by decide) _ _

theorem silent_stallTick (packets : Nat) (setupPending : Bool) :
    Silent 0 c (c.stallTick g now env packets setupPending).1 := by
  have hmedia {d : Call} (id elapsedMs : Nat) (recovered : Bool) :
      Silent 0 d (d.emit (.mediaStall id elapsedMs recovered)) := by
    refine ⟨rfl, rfl, rfl, fun what _ => ?_, ?_⟩
    · simp [SysOut.isReport]
    · simp [SysOut.isAttempt]
  have hclear (d : Call) : Silent 0 d (d.stallClear 0) := by
    have hcleared : Silent 0 d { d with stallActive := false } := .of_eq rfl rfl rfl rfl
    unfold stallClear
    split
    · exact hcleared.trans (hmedia _ _ _)
    · exact .refl
  have hrestart (d : Call) : Silent 0 d (d.stallRestart now packets) := .of_eq rfl rfl rfl rfl
  simp only [stallTick]
  split
  · exact .refl
  · split
    · exact (hclear c).trans (hrestart _)
    · split
      · exact (hrestart c).trans (hclear _)
      · split
        · have hstall : Silent 0 c { c with stallActive := true } := .of_eq rfl rfl rfl rfl
          exact hstall.trans (hmedia _ _ _)
        · exact .refl

/-- The tick says no verdict, and a repair starts over from a call that is not through. -/
theorem silent_stallRepair (packets : Nat) (setupPending : Bool) :
    Silent 0 c (c.stallRepair g nm now env packets setupPending).1 := by
  have htick := @silent_stallTick g now env c packets setupPending
  obtain heq | ⟨-, heq⟩ := stallRepair_cases g nm now env c packets setupPending
  · rw [heq]
    exact htick
  · have hround (d : Call) : Silent 0 d (d.repairRound nm now) := .of_eq rfl rfl rfl rfl
    rw [heq]
    exact htick.trans (hround _)

end Call

/-! ### Runs -/

/-- What a call has been told in its round, and the count taken at its last attempt. -/
structure Told where
  verdicts : Nat
  rx : Nat

/-- What `rx_packets` reads of a live call. -/
def NetEnv.received (env : NetEnv) (id : Nat) : Nat :=
  if (env.call id).stream then (env.call id).rxPackets else 0

def SysAct.creates (id : Nat) : SysAct → Bool
  | .createCall id' .. => decide (id' = id)
  | _ => false

namespace Sys

/-- The step begins a round of the call: the call is new, a handover reaches it, or a stall repair is
started for it. -/
def entersRound (g : Cfg) (s : Sys) (act : SysAct) (id : Nat) : Bool :=
  match act with
  | .createCall id' .. => decide (id' = id)
  | .statsTick id' packets setupPending env =>
      decide (id' = id) &&
        s.hasCall id fun c => (c.idle.stallRepair g s.nm s.now env packets setupPending).2
  | .settleFires env =>
      s.startsGeneration env && s.nm.reinviteCalls &&
        (s.calls.take netMaxSnap).any fun c => decide (c.id = id)
  | _ => false

def tell (g : Cfg) (s : Sys) (act : SysAct) (os : List SysOut) (told : Nat → Told) (id : Nat) : Told :=
  { verdicts := (if s.entersRound g act id then 0 else (told id).verdicts) + verdicts id os
    rx :=
      if 0 < attempts id os then act.env.elim 0 fun env => env.received id
      else if act.creates id then 0
      else (told id).rx }

/-- What a turn tells a call that starts it with nothing done. -/
structure TurnTold (g : Cfg) (s : Sys) (c : Call) (act : SysAct) (d : Call) : Prop where
  once : verdicts c.id d.out = 0 ∨ verdicts c.id d.out = 1 ∧ d.isThrough
  through : c.isThrough → s.entersRound g act c.id = true ∨ verdicts c.id d.out = 0 ∧ d.isThrough
  migrated : 0 < reports .callMigrated c.id d.out → s.nm.verifyMs = 0 ∨ ∃ env, act.env = some env ∧
    (c.state = .held ∨ (env.call c.id).onhold = true ∨ c.netRxAtMig < env.received c.id)
  attempts : attempts c.id d.out = 0 ∧ d.netRxAtMig = c.netRxAtMig ∨
    ∃ env, act.env = some env ∧ 0 < attempts c.id d.out ∧ d.netRxAtMig = env.received c.id

variable {g : Cfg} {s s' : Sys} {act : SysAct} {c d : Call}

theorem received_eq {env : NetEnv} (hbc : c.bc = true) : c.rxPackets env = env.received c.id := by
  simp [Call.rxPackets, NetEnv.received, hbc]

/-- Most turns tell nothing. -/
theorem turnTold_of_silent (h : Call.Silent 0 c.idle d)
    (hthrough : c.isThrough → s.entersRound g act c.id = true ∨ d.isThrough) :
    TurnTold g s c act d where
  once := .inl h.verdicts
  through hc := (hthrough hc).imp_right fun hd => ⟨h.verdicts, hd⟩
  migrated hpos := absurd (h.reports _ (.inl rfl)) (Nat.ne_of_gt hpos)
  attempts := .inl ⟨h.attempts, h.rx⟩

theorem turn_told (hturn : s.Turn g c act d) (hc : c ∈ s.calls) (hbc : c.bc = true) :
    TurnTold g s c act d := by
  cases hturn with
  | @verifies env nm hreach hnm =>
      have hjudged := @Call.judged_verify g nm s.now env c.idle hbc
      have hms : nm.verifyMs = s.nm.verifyMs := congrArg MigrationPart.verifyMs hnm
      refine ⟨hjudged.verdicts.imp_right fun h => h, fun hthrough => .inr ?_, fun hpos => ?_, ?_⟩
      · have hsame : c.idle.verify g nm s.now env = c.idle := hjudged.through hthrough
        rw [hsame]
        exact ⟨rfl, hthrough⟩
      · rcases hjudged.migrated with hnone | hunjudged | hwhy
        · exact absurd hnone (Nat.ne_of_gt hpos)
        · exact .inl (hms ▸ hunjudged)
        · refine .inr ⟨env, rfl, ?_⟩
          rw [← received_eq hbc]
          exact hwhy
      · refine hjudged.attempts.imp_right fun h => ⟨env, rfl, h.1, ?_⟩
        rw [← received_eq hbc]
        exact h.2
  | @starts env nm hreach hstarts hreinvite hnm =>
      have htells := @Call.tells_startMigration g nm s.now env c.idle
      have hms : nm.verifyMs = s.nm.verifyMs := congrArg MigrationPart.verifyMs hnm
      refine ⟨htells.verdicts, fun _ => .inl ?_, fun hpos => .inl ?_, ?_⟩
      · simp only [entersRound, hstarts, hreinvite, Bool.true_and, List.any_eq_true]
        exact ⟨c, hreach.1, decide_eq_true rfl⟩
      · rcases htells.migrated with hnone | hunjudged
        · exact absurd hnone (Nat.ne_of_gt hpos)
        · exact hms ▸ hunjudged
      · refine htells.attempts.imp_right fun h => ⟨env, rfl, h.1, ?_⟩
        rw [← received_eq hbc]
        exact h.2
  | @fails env nm err hreach hruns hnm =>
      rcases @Call.failPending_told g nm s.now env c.idle hbc err with ⟨hthrough, hsame⟩ |
        ⟨hpending, htells, -, hmigrated⟩
      · rw [hsame]
        exact turnTold_of_silent .refl .inr
      · refine ⟨htells.verdicts, fun h => absurd h hpending,
          fun hpos => absurd hmigrated (Nat.ne_of_gt hpos), ?_⟩
        refine htells.attempts.imp_right fun h => ⟨env, rfl, h.1, ?_⟩
        rw [← received_eq hbc]
        exact h.2
  | @ticks packets setupPending env =>
      refine turnTold_of_silent (Call.silent_stallRepair packets setupPending) fun hthrough => ?_
      obtain heq | ⟨-, heq⟩ :=
        Call.stallRepair_cases g s.nm s.now env c.idle packets setupPending
      · rw [heq]
        refine .inr ?_
        obtain ⟨-, hstate, -⟩ := @Call.stallTick_frame g s.now env c.idle packets setupPending
        rw [Call.isThrough, hstate]
        exact hthrough
      · refine .inl ?_
        simp only [entersRound, hasCall, decide_true, Bool.true_and, List.any_eq_true,
          Bool.and_eq_true, decide_eq_true_eq]
        exact ⟨c, hc, rfl, by rw [heq]⟩
  | @answers env =>
      refine turnTold_of_silent Call.silent_sdpAnswer fun hthrough => .inr ?_
      have hstate : (c.idle.sdpAnswer g s.nm s.now env).netMigState = c.netMigState := by
        unfold Call.sdpAnswer
        split
        · rfl
        · split <;> rfl
      rw [Call.isThrough, hstate]
      exact hthrough
  | passes hreach hpasses =>
      refine ⟨.inl ?_, fun hthrough => .inr ⟨?_, ?_⟩, fun hpos => ?_, .inl ⟨?_, hpasses.rx⟩⟩
      · rw [hpasses.out]
        rfl
      · rw [hpasses.out]
        rfl
      · rw [Call.isThrough, hpasses.state]
        exact hthrough
      · rw [hpasses.out] at hpos
        exact absurd hpos (Nat.lt_irrefl 0)
      · rw [hpasses.out]
        rfl

theorem TurnTold.kept (h : TurnTold g s c act d) {told : Nat → Told} {os : List SysOut}
    (hverdicts : verdicts c.id os = verdicts c.id d.out)
    (hattempts : VoxSdk.attempts c.id os = VoxSdk.attempts c.id d.out) (hold : act.creates c.id = false)
    (honce : (told c.id).verdicts ≤ 1) (hthrough : (told c.id).verdicts = 1 → c.isThrough)
    (hrx : (told c.id).rx = c.netRxAtMig) :
    (s.tell g act os told c.id).verdicts ≤ 1 ∧
      ((s.tell g act os told c.id).verdicts = 1 → d.isThrough) ∧
      (s.tell g act os told c.id).rx = d.netRxAtMig := by
  have hafresh : verdicts c.id d.out ≤ 1 ∧ (verdicts c.id d.out = 1 → d.isThrough) := by
    rcases h.once with hnone | ⟨hone, hd⟩
    · exact ⟨by omega, fun hone => by omega⟩
    · exact ⟨by omega, fun _ => hd⟩
  have hcount : (s.tell g act os told c.id).verdicts =
      (if s.entersRound g act c.id then 0 else (told c.id).verdicts) + verdicts c.id d.out :=
    congrArg (_ + ·) hverdicts
  rw [hcount, ← and_assoc]
  refine ⟨?_, ?_⟩
  · split
    · rwa [Nat.zero_add]
    · rename_i hsame
      rcases Nat.le_one_iff_eq_zero_or_eq_one.mp honce with hzero | hone
      · rwa [hzero, Nat.zero_add]
      · obtain ⟨hnone, hd⟩ := (h.through (hthrough hone)).resolve_left hsame
        rw [hone, hnone]
        exact ⟨le_rfl, fun _ => hd⟩
  · simp only [tell, hattempts, hold]
    rcases h.attempts with ⟨hnone, hkeeps⟩ | ⟨env, henv, hpos, htaken⟩
    · rw [if_neg (by omega), if_neg (by decide), hrx, hkeeps]
    · rw [if_pos hpos, henv, htaken]
      rfl

end Sys

/-- The SDK, and what each call has been told. -/
def toldSystem (g : Cfg) : Machine (Sys × (Nat → Told)) SysAct SysOut :=
  (system g).withHistory (fun _ => ⟨0, 0⟩) fun s => s.tell g

/-- What the record says of every call. -/
structure Recorded (s : Sys) (told : Nat → Told) : Prop where
  tidy : s.Tidy
  once : ∀ c ∈ s.calls, (told c.id).verdicts ≤ 1
  through : ∀ c ∈ s.calls, (told c.id).verdicts = 1 → c.isThrough
  rx : ∀ c ∈ s.calls, (told c.id).rx = c.netRxAtMig

variable {g : Cfg} {p p' : Sys × (Nat → Told)} {t : Trace SysAct SysOut} {act : SysAct}
  {os : List SysOut}

theorem toldSystem_step (hstep : (toldSystem g).step p act = some (p', os)) :
    p.1.idle.enabled act = true ∧ p'.1 = p.1.idle.handle g act ∧ os = p'.1.out ∧
      p'.2 = p.1.idle.tell g act os p.2 := by
  obtain ⟨hstep, hnext⟩ := Machine.withHistory_step.mp hstep
  obtain ⟨hen, hafter, hos⟩ := system_step hstep
  exact ⟨hen, hafter, hos, hnext⟩

/-- What a step does to a call, and tells it. -/
theorem exists_turn (htidy : p.1.Tidy) (hstep : (toldSystem g).step p act = some (p', os)) {c : Call}
    (hc : c ∈ p.1.calls) :
    ∃ d, p.1.idle.Shows g c act p'.1 d ∧ p.1.idle.TurnTold g c act d ∧ os.filter (SysOut.ofCall c.id) =
      d.out ∧ act.creates c.id = false := by
  obtain ⟨hen, hafter, hos, -⟩ := toldSystem_step hstep
  have hidle : p.1.idle.Tidy := ⟨htidy.started, htidy.nodup, htidy.live⟩
  obtain ⟨d, hshows⟩ := Sys.shows_handle (g := g) hidle rfl hen hc
  refine ⟨d, hafter ▸ hshows, Sys.turn_told hshows.turn hc (htidy.live c hc), ?_, ?_⟩
  · rw [hos, hafter]
    exact hshows.said
  · cases act with
    | createCall id acct state =>
        have hfresh : c.id ≠ id := of_decide_eq_true (List.all_eq_true.mp hen c hc)
        exact decide_eq_false (Ne.symm hfresh)
    | _ => rfl

theorem recorded_step (h : Recorded p.1 p.2) (hstep : (toldSystem g).step p act = some (p', os)) :
    Recorded p'.1 p'.2 ∧ ∀ c ∈ p.1.calls, (p'.2 c.id).verdicts ≤ 1 := by
  obtain ⟨hen, hafter, hos, hnext⟩ := toldSystem_step hstep
  have hidle : p.1.idle.Tidy := ⟨h.tidy.started, h.tidy.nodup, h.tidy.live⟩
  have hcall {c : Call} (hc : c ∈ p.1.calls) : (p'.2 c.id).verdicts ≤ 1 ∧
      ∀ e ∈ p'.1.calls, e.id = c.id →
        ((p'.2 c.id).verdicts = 1 → e.isThrough) ∧ (p'.2 c.id).rx = e.netRxAtMig := by
    obtain ⟨d, hshows, htold, hsaid, hold⟩ := exists_turn h.tidy hstep hc
    have hverdicts : verdicts c.id os = verdicts c.id d.out := by rw [← verdicts_own, hsaid]
    have hattempts : attempts c.id os = attempts c.id d.out := by rw [← attempts_own, hsaid]
    obtain ⟨honce, hthrough, hrx⟩ := htold.kept hverdicts hattempts hold (h.once c hc)
      (h.through c hc) (h.rx c hc)
    rw [← hnext] at honce hthrough hrx
    refine ⟨honce, fun e he hid => ?_⟩
    have hleft : e.idle = d.idle := hshows.left e (List.mem_filter.mpr ⟨he, decide_eq_true hid⟩)
    have hstate : e.idle.netMigState = d.netMigState := by rw [hleft]; rfl
    have hcount : e.idle.netRxAtMig = d.netRxAtMig := by rw [hleft]; rfl
    refine ⟨fun hone => ?_, hrx.trans hcount.symm⟩
    rw [Call.isThrough, show e.netMigState = d.netMigState from hstate]
    exact hthrough hone
  have hall : ∀ e ∈ p'.1.calls, (p'.2 e.id).verdicts ≤ 1 ∧
      ((p'.2 e.id).verdicts = 1 → e.isThrough) ∧ (p'.2 e.id).rx = e.netRxAtMig := by
    intro e he
    rw [hafter] at he
    rcases Sys.mem_handle_calls hidle.started he with ⟨c, hc, hid⟩ | ⟨acct, state, rfl, hnew⟩
    · obtain ⟨honce, hothers⟩ := hcall hc
      rw [← hafter] at he
      rw [← hid]
      exact ⟨honce, hothers e he hid.symm⟩
    · have hnone : os = [] := by
        rw [hos, hafter]
        rfl
      have hblank : p'.2 e.id = ⟨0, 0⟩ := by
        rw [hnext, hnone]
        simp [Sys.tell, Sys.entersRound, SysAct.creates, verdicts, reports, attempts]
      rw [hblank, hnew]
      exact ⟨Nat.zero_le 1, fun hone => absurd hone (by decide), rfl⟩
  refine ⟨⟨?_, fun e he => (hall e he).1, fun e he => (hall e he).2.1, fun e he => (hall e he).2.2⟩,
    fun c hc => (hcall hc).1⟩
  rw [hafter]
  exact hidle.handle hen

theorem recorded_run (hrun : (toldSystem g).Run Machine.Always p t) : Recorded p.1 p.2 := by
  refine hrun.stateInvariant (I := fun p => Recorded p.1 p.2) (fun p h => ?_)
    fun p act p' os h _ hstep => (recorded_step h hstep).1
  obtain ⟨⟨now, up, curLaddr, hs⟩, -⟩ := h
  rw [hs]
  exact ⟨⟨rfl, List.nodup_nil, by simp⟩, by simp, by simp, by simp⟩

/-- **What becomes of every call.** When the reset of the transports runs out of attempts, a call is
reported MIGRATION_FAILED, once, if and only if it is one of the first `netMaxSnap` and its migration
state is not that of a round that has had its verdict. A round has one verdict at most, and MIGRATED is
said only where nobody looks at the media, of a call on hold, or of one that has received something
since the last attempt. -/
theorem outcomes_reported (hrun : (toldSystem g).Run Machine.Always p t)
    (hstep : (toldSystem g).step p act = some (p', os)) {c : Call} (hc : c ∈ p.1.calls) :
    (∀ env, act = .settleFires env → p.1.runsOut env = true →
      (reports .callMigrationFailed c.id os = 1 ↔
        c ∈ p.1.calls.take netMaxSnap ∧ c.netMigState ≠ .done ∧ c.netMigState ≠ .failed)) ∧
      (p'.2 c.id).verdicts ≤ 1 ∧
      (0 < reports .callMigrated c.id os → p.1.nm.verifyMs = 0 ∨ ∃ env, act.env = some env ∧
        (c.state = .held ∨ (env.call c.id).onhold = true ∨
          (p.2 c.id).rx < env.received c.id)) := by
  have hall := recorded_run hrun
  obtain ⟨d, hshows, htold, hsaid, -⟩ := exists_turn hall.tidy hstep hc
  refine ⟨?_, (recorded_step hall hstep).2 c hc, fun hpos => ?_⟩
  · rintro env rfl hruns
    rw [← reports_own rfl, hsaid]
    cases hshows.turn with
    | starts hreach hstarts hreinvite hnm =>
        have hsome : env.resetTransp.isSome = true := by
          simp only [Sys.runsOut, Bool.and_eq_true] at hruns
          exact hruns.1.2
        have hnone : env.resetTransp.isNone = true := (Bool.and_eq_true_iff.mp hstarts).2
        rw [Option.isNone_iff_eq_none.mp hnone] at hsome
        cases hsome
    | fails hreach hruns' hnm =>
        rcases Call.failPending_told (c := c.idle) (hall.tidy.live c hc) _ with
          ⟨hthrough, hsame⟩ | ⟨hpending, -, hfailed, -⟩
        · rw [hsame]
          refine iff_of_false (fun h => by cases h) ?_
          rintro ⟨-, hdone, hfailed⟩
          exact hthrough.elim hdone hfailed
        · exact iff_of_true hfailed
            ⟨hreach.1, fun h => hpending (.inl h), fun h => hpending (.inr h)⟩
    | passes hreach hpasses =>
        rw [hpasses.out]
        refine iff_of_false (fun h => by cases h) ?_
        rintro ⟨hfirst, -⟩
        exact hreach ⟨hfirst, .inr hruns⟩
  · rw [← reports_own rfl, hsaid] at hpos
    rw [hall.rx c hc]
    exact htold.migrated hpos

/-- The network of `calm` at a new address. -/
def NetEnv.moved : NetEnv :=
  { NetEnv.calm with
    call := fun id => { NetEnv.calm.call id with laddr := some (.v4 0xc0000208) } }

/-- And later, when every call has received something. -/
def NetEnv.flowing : NetEnv :=
  { NetEnv.calm with call := fun id => { NetEnv.calm.call id with rxPackets := 5 } }

/-- The network of `calm`, where the transports cannot be reset. -/
def NetEnv.unbound : NetEnv := { NetEnv.calm with resetTransp := some .other }

/-- A handover whose last attempt is due. -/
def failingHandover : List SysAct :=
  [.networkChanged .unbound, .elapse 1500] ++
    (List.replicate 5 [.settleFires .unbound, .elapse 32000]).flatten

/-- A call that no handover has worked on is reported by the one that is given up. -/
theorem outcomes_reported_first :
    ∃ (p p' : Sys × (Nat → Told)) (t : Trace SysAct SysOut) (os : List SysOut),
      (toldSystem configInit).Run Machine.Always p t ∧
        (toldSystem configInit).step p (.settleFires .unbound) = some (p', os) ∧
          ∃ c ∈ p.1.calls, reports .callMigrationFailed c.id os = 1 := by
  obtain ⟨p, t, hrun, hend⟩ := Machine.exists_run_of_exec
    (M := toldSystem configInit) (s := (Sys.justStarted configInit, fun _ => ⟨0, 0⟩))
    (fun _ _ => true) ⟨justStarted_init _, rfl⟩
    ([.createCall 1 none .calling, .callEstablished 1] ++ failingHandover)
    (fun p _ => p.1.runsOut .unbound &&
      ((toldSystem configInit).step p (.settleFires .unbound)).isSome &&
      (p.1.calls.take netMaxSnap).any fun c =>
        decide (c.netMigState ≠ .done) && decide (c.netMigState ≠ .failed))
    (by decide +kernel)
  simp only [Bool.and_eq_true, Option.isSome_iff_exists, List.any_eq_true, decide_eq_true_eq] at hend
  obtain ⟨⟨hruns, ⟨p', os⟩, hstep⟩, c, hc, hpending⟩ := hend
  have hmem : c ∈ p.1.calls := List.mem_of_mem_take hc
  exact ⟨p, p', t, os, hrun.always, hstep, c, hmem,
    ((outcomes_reported hrun.always hstep hmem).1 _ rfl hruns).mpr ⟨hc, hpending⟩⟩

/-- A call that one handover has migrated hears nothing of the next one when that is given up. -/
theorem outcomes_unreported :
    ¬ ∀ (g : Cfg) (p p' : Sys × (Nat → Told)) (t : Trace SysAct SysOut) (env : NetEnv)
      (os : List SysOut), (toldSystem g).Run Machine.Always p t →
        (toldSystem g).step p (.settleFires env) = some (p', os) → p.1.runsOut env = true →
          ∀ c ∈ p.1.calls, reports .callMigrationFailed c.id os = 1 := by
  intro h
  obtain ⟨p, t, hrun, hend⟩ := Machine.exists_run_of_exec
    (M := toldSystem configInit) (s := (Sys.justStarted configInit, fun _ => ⟨0, 0⟩))
    (fun _ _ => true) ⟨justStarted_init _, rfl⟩
    ([.createCall 1 none .calling, .callEstablished 1, .networkChanged .moved, .elapse 1500,
      .settleFires .moved, .elapse 4000, .verifyFires .flowing] ++ failingHandover)
    (fun p _ => p.1.runsOut .unbound && p.1.calls.any fun c =>
      ((toldSystem configInit).step p (.settleFires .unbound)).any
        fun r : (Sys × (Nat → Told)) × List SysOut =>
          decide (reports .callMigrationFailed c.id r.2 = 0))
    (by decide +kernel)
  simp only [Bool.and_eq_true, List.any_eq_true, Option.any_eq_true, decide_eq_true_eq] at hend
  obtain ⟨hruns, c, hc, ⟨p', os⟩, hstep, hnone⟩ := hend
  have hone := h _ p p' t _ os hrun.always hstep hruns c hc
  exact absurd (hone.symm.trans hnone) (by decide)

end VoxSdk
