import VoxSdk.Proof.Attempts
import VoxSdk.Proof.WaitCharges

/-!
# A migration ends

A call that is owed a verdict has a number of turns left, which every run of `verify_handler` that does not find its
offer still fresh takes down, and the shared timer is never armed further ahead than one tick. So the time a call can
be owed a verdict is bounded, whatever the network answers and whatever happens to the other calls.
-/

namespace VoxSdk

open Reactive

namespace Call

variable {g : Cfg} {nm : Netmon} {now : Nat} {env : NetEnv} {c d : Call}

/-- Two turns for each try there still is, and one for a call that may pass without spending any. -/
def turnsLeft (max : Nat) (c : Call) : Nat :=
  2 * (max - c.netMigTries) + if c.netMigState = .stalled ∨ c.netMigState = .sent then 1 else 0

/-- A call that work has left with at most so many turns, and its offer due by then. -/
structure Leaves (max turns due : Nat) (c : Call) : Prop where
  due : c.netMigDue ≤ due
  tries : c.netMigState.isPending = true → c.netMigTries ≤ max
  room : c.netMigState.isPending = true → c.netMigState ≠ .sent → c.netMigTries < max
  turns : c.netMigState.isPending = true → c.turnsLeft max ≤ turns

/-- When an offer made now is judged at the latest, timers apart. -/
def dueBy (g : Cfg) (nm : Netmon) (now : Nat) : Nat := now + g.restartGraceMs + nm.verifyTickMs

variable {max turns turns' due : Nat}

theorem Leaves.of_rest (hdue : c.netMigDue ≤ due) (h : c.netMigState.isPending = false) : c.Leaves max turns due :=
  ⟨hdue, fun hp => absurd hp (by simp [h]), fun hp => absurd hp (by simp [h]), fun hp => absurd hp (by simp [h])⟩

theorem Leaves.mono (h : c.Leaves max turns due) (hle : turns ≤ turns') : c.Leaves max turns' due :=
  ⟨h.due, h.tries, h.room, fun hp => (h.turns hp).trans hle⟩

theorem leaves_sent {tries : Nat} (hdue : c.netMigDue ≤ due) (hstate : c.netMigState = .sent)
    (htries : c.netMigTries = tries) (hle : tries ≤ max) : c.Leaves max (2 * (max - tries) + 1) due := by
  subst htries
  refine ⟨hdue, fun _ => hle, fun _ hne => absurd hstate hne, fun _ => ?_⟩
  rw [turnsLeft, if_pos (.inr hstate)]

theorem leaves_waiting {tries : Nat} (hdue : c.netMigDue ≤ due)
    (hstate : c.netMigState = .waitAddr ∨ c.netMigState = .deferred) (htries : c.netMigTries = tries)
    (hlt : tries < max) : c.Leaves max (2 * (max - tries)) due := by
  subst htries
  refine ⟨hdue, fun _ => hlt.le, fun _ _ => hlt, fun _ => ?_⟩
  rw [turnsLeft, if_neg (by rcases hstate with h | h <;> simp [h]), Nat.add_zero]

theorem failMigration_due (err : Errno) : (c.failMigration g nm now env err).netMigDue = c.netMigDue := by
  simp only [failMigration]
  split <;> rfl

theorem leaves_failMigration (hdue : c.netMigDue ≤ due) (err : Errno) :
    (c.failMigration g nm now env err).Leaves max turns due := by
  refine .of_rest ((failMigration_due err).le.trans hdue) ?_
  rw [failMigration_state]
  rfl

/-! ### Offering -/

section

variable (hpos : 0 < nm.maxAttempts)

include hpos

theorem leaves_offerPlain (hdue : c.netMigDue ≤ dueBy g nm now) (htries : c.netMigTries ≤ nm.maxAttempts) :
    (c.offerPlain g nm now env).Leaves nm.maxAttempts (2 * (nm.maxAttempts - c.netMigTries) + 1) (dueBy g nm now) := by
  have htick := Sys.verifyTickFor_le nm c
  simp only [offerPlain]
  split
  · split
    · exact leaves_failMigration (c := c.emit (.callResetTransp c.id c.netMigLaddr)) hdue _
    · rename_i hroom
      have hlimit : (c.emit (.callResetTransp c.id c.netMigLaddr)).maxAttemptsFor g nm env ≤ nm.maxAttempts :=
        (maxAttemptsFor_le hpos).trans (roundLimit_le _)
      have hroom : c.netMigTries < nm.maxAttempts := (Nat.lt_of_not_le hroom).trans_le hlimit
      have hdeferred : ((c.emit (.callResetTransp c.id c.netMigLaddr)).setMigState .deferred).Leaves nm.maxAttempts
          (2 * (nm.maxAttempts - c.netMigTries)) (dueBy g nm now) := leaves_waiting hdue (.inr rfl) rfl hroom
      exact hdeferred.mono (Nat.le_succ _)
  · have hfresh : now + c.verifyTickFor nm ≤ dueBy g nm now := by
      unfold dueBy
      omega
    split
    · exact .of_rest hfresh rfl
    · exact leaves_sent hfresh rfl rfl htries

theorem leaves_offer (hdue : c.netMigDue ≤ dueBy g nm now) (htries : c.netMigTries ≤ nm.maxAttempts) :
    (c.offer g nm now env).Leaves nm.maxAttempts (2 * (nm.maxAttempts - c.netMigTries) + 1) (dueBy g nm now) := by
  have hrestarted (c : Call) (htries : c.netMigTries ≤ nm.maxAttempts) :
      (c.offerRestarted g nm now env).Leaves nm.maxAttempts (2 * (nm.maxAttempts - c.netMigTries) + 1)
        (dueBy g nm now) := by
    have htick := Sys.verifyTickFor_le nm c
    have hdue : (c.offerRestarted g nm now env).netMigDue ≤ dueBy g nm now := by
      show now + g.restartGraceMs + c.verifyTickFor nm ≤ now + g.restartGraceMs + nm.verifyTickMs
      omega
    exact leaves_sent hdue rfl rfl htries
  simp only [offer]
  split
  · split
    · exact hrestarted (c.emit (.iceRestart c.id c.netMigLaddr)) htries
    · exact hrestarted (c.emit (.iceRestart c.id c.netMigLaddr)) htries
    · exact leaves_offerPlain (c := c.emit (.iceRestart c.id c.netMigLaddr)) hpos hdue htries
    · rename_i err _ _ _
      have hstale : ((c.emit (.iceRestart c.id c.netMigLaddr)).reportStale g nm now env err).netMigDue = c.netMigDue ∧
          ((c.emit (.iceRestart c.id c.netMigLaddr)).reportStale g nm now env err).netMigTries = c.netMigTries := by
        unfold reportStale
        split <;> exact ⟨rfl, rfl⟩
      rw [← hstale.2] at htries ⊢
      exact leaves_offerPlain hpos (hstale.1.le.trans hdue) htries
  · exact leaves_offerPlain hpos hdue htries

section

variable (hlt : nm.maxAttempts < 2 ^ 32)

include hlt

/-- An offer costs a try; what is put off instead is put off without one. -/
theorem leaves_sendMigration (hdue : c.netMigDue ≤ dueBy g nm now) (htries : c.netMigTries < nm.maxAttempts) :
    (c.sendMigration g nm now env).Leaves nm.maxAttempts (2 * (nm.maxAttempts - c.netMigTries)) (dueBy g nm now) ∧
      ((env.call c.id).refreshAllowed = true →
        (c.sendMigration g nm now env).Leaves nm.maxAttempts (2 * (nm.maxAttempts - c.netMigTries) - 1)
          (dueBy g nm now)) := by
  unfold sendMigration
  split
  · exact ⟨.of_rest hdue rfl, fun _ => .of_rest hdue rfl⟩
  · split
    · rename_i hbusy
      refine ⟨?_, fun hallowed => absurd hbusy (by simp [hallowed])⟩
      split
      · rename_i hstate
        exact leaves_waiting hdue (.inr hstate) rfl htries
      · exact leaves_waiting hdue (.inr rfl) rfl htries
    · have hsame := sameBudget_laddrRemember (c := { c with
        netRxAtMig := c.rxPackets env, netMigTries := u32 (c.netMigTries + 1) }) c.netMigLaddr
      have hcount : (c.countOffer env).netMigTries = c.netMigTries + 1 := by
        refine hsame.tries.trans ?_
        show u32 (c.netMigTries + 1) = c.netMigTries + 1
        exact Nat.mod_eq_of_lt (by omega)
      have hkept : (c.countOffer env).netMigDue = c.netMigDue := by
        unfold countOffer laddrRemember
        simp only
        split
        · rfl
        · split <;> rfl
      have hoffer : ((c.countOffer env).offer g nm now env).Leaves _ _ (dueBy g nm now) :=
        leaves_offer hpos (hkept.le.trans hdue) (hcount.le.trans htries)
      rw [hcount] at hoffer
      exact ⟨hoffer.mono (by omega), fun _ => hoffer.mono (by omega)⟩

/-- `d` is `c` but for the address of the offer. -/
structure SamePace (c d : Call) : Prop where
  tries : d.netMigTries = c.netMigTries
  due : d.netMigDue = c.netMigDue

omit hpos hlt in
theorem samePace_laddrRemember (sa : Sa) : c.SamePace (c.laddrRemember sa) := by
  unfold laddrRemember
  split
  · exact ⟨rfl, rfl⟩
  · split <;> exact ⟨rfl, rfl⟩

omit hpos hlt in
theorem samePace_nextLaddr (env : NetEnv) (c : Call) (af : Sa) : c.SamePace (c.nextLaddr env af).2 := by
  unfold nextLaddr
  split <;> exact ⟨rfl, rfl⟩

omit hpos hlt in
theorem samePace_rotateFrom (laddr : Sa) : c.SamePace (c.rotateFrom env laddr).2 := by
  have hnext := samePace_nextLaddr env c laddr
  unfold rotateFrom
  split
  · split
    · rename_i heq
      rwa [heq] at hnext
    · rename_i heq
      rwa [heq] at hnext
  · exact ⟨rfl, rfl⟩

theorem leaves_retryMigration (hdue : c.netMigDue ≤ dueBy g nm now) (htries : c.netMigTries < nm.maxAttempts) :
    (c.retryMigration g nm now env).Leaves nm.maxAttempts (2 * (nm.maxAttempts - c.netMigTries))
      (dueBy g nm now) := by
  have hsends {d : Call} (h : c.SamePace d) :
      (d.sendMigration g nm now env).Leaves nm.maxAttempts (2 * (nm.maxAttempts - c.netMigTries))
        (dueBy g nm now) := by
    rw [← h.tries] at htries ⊢
    exact (leaves_sendMigration hpos hlt (h.due.le.trans hdue) htries).1
  have hremember := samePace_laddrRemember (c := c) c.netMigLaddr
  have hnext := samePace_nextLaddr env (c.laddrRemember c.netMigLaddr) (c.laddrRemember c.netMigLaddr).netMigLaddr
  unfold retryMigration
  simp only
  split
  · split
    · rename_i heq
      rw [heq] at hnext
      exact hsends ⟨hnext.tries.trans hremember.tries, hnext.due.trans hremember.due⟩
    · rename_i heq
      rw [heq] at hnext
      exact hsends ⟨hnext.tries.trans hremember.tries, hnext.due.trans hremember.due⟩
  · exact hsends hremember

/-- A migration begins with all its tries, or goes on with those it has left. -/
theorem leaves_startMigration (hdue : c.netMigDue ≤ dueBy g nm now)
    (htries : (c.claim nm now).netMigTries < nm.maxAttempts) :
    (c.startMigration g nm now env).Leaves nm.maxAttempts
      (2 * (nm.maxAttempts - (c.claim nm now).netMigTries)) (dueBy g nm now) := by
  have hclaimed : (c.claim nm now).netMigDue ≤ dueBy g nm now := by
    unfold claim
    split
    · exact hdue
    · exact Nat.zero_le _
  unfold startMigration
  split
  · exact .of_rest hdue rfl
  · simp only
    generalize c.claim nm now = b at *
    split
    · unfold waitForAddr
      split
      · rename_i hstate
        exact leaves_waiting hclaimed (.inl hstate) rfl htries
      · exact leaves_waiting hclaimed (.inl rfl) rfl htries
    · rename_i laddr _
      have hsame : b.SamePace (b.rotateFrom env laddr).2 := samePace_rotateFrom laddr
      generalize b.rotateFrom env laddr = r at *
      obtain ⟨laddr, d⟩ := r
      simp only [migrateTo]
      rw [← hsame.tries] at htries ⊢
      split
      · exact .of_rest (hsame.due.le.trans hclaimed) rfl
      · exact (leaves_sendMigration (c := { d with
          netMigPathMoved := d.netMigPathMoved || d.netMigStall || !decide ((env.call d.id).laddr = some laddr)
          netMigLaddr := laddr }) hpos hlt (hsame.due.le.trans hclaimed) htries).1

/-! ### Judging -/

/-- An offer that is still fresh: `verify_handler` has come too early for it. -/
def fresh (now : Nat) (c : Call) : Prop := c.netMigState = .sent ∧ now + 100 < c.netMigDue

/-- Each time the call is judged it has a turn less, or its offer is still fresh. -/
theorem leaves_verify (hbc : c.bc = true) (howed : c.isOwed nm = true)
    (h : c.Leaves nm.maxAttempts turns (dueBy g nm now)) :
    c.fresh now ∧ c.verify g nm now env = c ∨
      (c.verify g nm now env).Leaves nm.maxAttempts (turns - 1) (dueBy g nm now) := by
  obtain ⟨hgen, hpending⟩ := Bool.and_eq_true_iff.mp howed
  have hgen : c.netMigGen = nm.gen := of_decide_eq_true hgen
  have htries := h.tries hpending
  have hturns := h.turns hpending
  have hclaim (d : Call) (hd : d.netMigGen = nm.gen) : d.claim nm now = d := if_pos hd
  have hcharge (hlt' : c.netMigTries < nm.maxAttempts) : c.charge.netMigTries = c.netMigTries + 1 :=
    Nat.mod_eq_of_lt (by omega)
  unfold verify
  rw [if_neg (not_not.mpr hgen), if_neg (by simp [hbc])]
  cases hstate : c.netMigState with
  | idle | done | failed =>
      rw [hstate] at hpending
      cases hpending
  | stalled =>
      have hroom := h.room hpending (by simp [hstate])
      have hstart : (c.startMigration g nm now env).Leaves _ _ (dueBy g nm now) :=
        leaves_startMigration hpos hlt h.due (by rwa [hclaim c hgen])
      rw [hclaim c hgen] at hstart
      rw [turnsLeft, if_pos (.inl hstate)] at hturns
      exact .inr (hstart.mono (by omega))
  | waitAddr =>
      have hroom := h.room hpending (by simp [hstate])
      rw [turnsLeft, if_neg (by simp [hstate])] at hturns
      refine .inr ?_
      simp only
      split
      · exact leaves_failMigration (c := c.charge) h.due _
      · rename_i hleft
        have htries : (c.charge.claim nm now).netMigTries < nm.maxAttempts := by
          rw [hclaim c.charge hgen]
          exact Nat.lt_of_not_le hleft
        have hstart : (c.charge.startMigration g nm now env).Leaves _ _ (dueBy g nm now) :=
          leaves_startMigration hpos hlt h.due htries
        rw [hclaim c.charge hgen, hcharge hroom] at hstart
        exact hstart.mono (by omega)
  | deferred =>
      have hroom := h.room hpending (by simp [hstate])
      rw [turnsLeft, if_neg (by simp [hstate])] at hturns
      refine .inr ?_
      simp only
      split
      · rename_i hallowed
        exact ((leaves_sendMigration hpos hlt h.due hroom).2 hallowed).mono (by omega)
      · split
        · exact leaves_failMigration (c := c.charge) h.due _
        · rename_i hleft
          have hwait : c.charge.Leaves nm.maxAttempts (2 * (nm.maxAttempts - c.charge.netMigTries)) (dueBy g nm now) :=
            leaves_waiting h.due (.inr hstate) rfl (Nat.lt_of_not_le hleft)
          rw [hcharge hroom] at hwait
          exact hwait.mono (by omega)
  | sent =>
      rw [turnsLeft, if_pos (.inr hstate)] at hturns
      simp only
      unfold judge
      split
      · rename_i hearly
        exact .inl ⟨⟨hstate, hearly.2⟩, rfl⟩
      · refine .inr ?_
        split
        · exact .of_rest h.due rfl
        · split
          · exact .of_rest h.due rfl
          · split
            · exact leaves_failMigration h.due _
            · rename_i hleft
              have hroom : c.netMigTries < nm.maxAttempts :=
                (Nat.lt_of_not_le hleft).trans_le ((maxAttemptsFor_le hpos).trans (roundLimit_le _))
              exact (leaves_retryMigration hpos hlt h.due hroom).mono (by omega)

end

end

/-- What the turns of a call are counted from. -/
structure SameTurns (c e : Call) : Prop where
  state : e.netMigState = c.netMigState
  tries : e.netMigTries = c.netMigTries
  due : e.netMigDue = c.netMigDue
  gen : e.netMigGen = c.netMigGen

/-- `e` is `c` after something that is none of `verify_handler`'s business: its turns are as they were, or it is
through, or a repair has just begun for it. -/
structure Spared (nm : Netmon) (c e : Call) : Prop where
  id : e.id = c.id
  turns : c.SameTurns e ∨ e.netMigState.isPending = false ∧ e.netMigDue = c.netMigDue ∨
    c.isOwed nm = false ∧ e.netMigState = .stalled ∧ e.netMigTries = 0 ∧ e.netMigDue = 0

theorem SameTurns.leaves (h : c.SameTurns d) (hc : c.Leaves max turns due) : d.Leaves max turns due := by
  have hturns : d.turnsLeft max = c.turnsLeft max := by rw [turnsLeft, turnsLeft, h.state, h.tries]
  refine ⟨h.due ▸ hc.due, ?_, ?_, ?_⟩
  · rw [h.state, h.tries]
    exact hc.tries
  · rw [h.state, h.tries]
    exact hc.room
  · rw [h.state, hturns]
    exact hc.turns

theorem turnsLeft_le (max : Nat) (c : Call) : c.turnsLeft max ≤ 2 * max + 1 := by
  unfold turnsLeft
  split <;> omega

theorem Leaves.all (h : c.Leaves max turns due) : c.Leaves max (2 * max + 1) due :=
  ⟨h.due, h.tries, h.room, fun _ => turnsLeft_le max c⟩

theorem Leaves.later {due' : Nat} (h : c.Leaves max turns due) (hle : due ≤ due') : c.Leaves max turns due' :=
  ⟨h.due.trans hle, h.tries, h.room, h.turns⟩

theorem Leaves.idle (h : c.Leaves max turns due) : c.idle.Leaves max turns due :=
  ⟨h.due, h.tries, h.room, h.turns⟩

theorem Spared.leaves (h : c.Spared nm d) (hpos : 0 < max) (hc : c.Leaves max (2 * max + 1) due) :
    d.Leaves max (2 * max + 1) due := by
  rcases h.turns with hsame | ⟨hthrough, hdue⟩ | ⟨-, hstate, htries, hdue⟩
  · exact hsame.leaves hc
  · exact .of_rest (hdue ▸ hc.due) hthrough
  · refine ⟨hdue ▸ Nat.zero_le _, fun _ => htries ▸ Nat.zero_le _, fun _ _ => htries ▸ hpos, fun _ => ?_⟩
    exact turnsLeft_le max d

/-- `verify_handler` has nothing to do for a call that is owed nothing. -/
theorem verify_of_not_owed (hbc : c.bc = true) (h : c.isOwed nm = false) : c.verify g nm now env = c := by
  unfold verify
  split
  · rfl
  · rename_i hgen
    have hthrough : c.netMigState.isPending = false := by
      simpa [isOwed, not_not.mp hgen] using h
    rw [if_neg (by simp [hbc])]
    cases hstate : c.netMigState with
    | idle | done | failed => rfl
    | stalled | waitAddr | deferred | sent =>
        rw [hstate] at hthrough
        cases hthrough

theorem SameTurns.spared (hid : d.id = c.id) (h : c.SameTurns d) : c.Spared nm d := ⟨hid, .inl h⟩

/-- A call is taken up and put down again with no work outstanding. -/
theorem Spared.idle (h : c.idle.Spared nm d) : c.Spared nm d.idle := by
  refine ⟨h.id, ?_⟩
  rcases h.turns with hsame | hthrough | hbegun
  · exact .inl ⟨hsame.state, hsame.tries, hsame.due, hsame.gen⟩
  · exact .inr (.inl hthrough)
  · exact .inr (.inr hbegun)

theorem turnsLeft_pos (h : c.Leaves max turns due) (hpending : c.netMigState.isPending = true) :
    0 < c.turnsLeft max := by
  have hroom := h.room hpending
  unfold turnsLeft
  cases hstate : c.netMigState with
  | idle | done | failed =>
      rw [hstate] at hpending
      cases hpending
  | stalled | sent => simp
  | waitAddr | deferred =>
      have := hroom (by simp [hstate])
      omega

theorem sdpAnswer_sameTurns : c.SameTurns (c.sdpAnswer g nm now env) := by
  unfold sdpAnswer
  repeat' split
  all_goals exact ⟨rfl, rfl, rfl, rfl⟩

theorem stallTick_sameTurns (packets : Nat) (setupPending : Bool) :
    c.SameTurns (c.stallTick g now env packets setupPending).1 := by
  unfold stallTick stallClear
  repeat' split
  all_goals exact ⟨rfl, rfl, rfl, rfl⟩

theorem spared_stallRepair (packets : Nat) (setupPending : Bool) :
    c.Spared nm (c.stallRepair g nm now env packets setupPending).1 := by
  have hid : (c.stallRepair g nm now env packets setupPending).1.id = c.id := (adds_stallRepair packets setupPending).1
  have htick : c.SameTurns (c.stallTick g now env packets setupPending).1 := stallTick_sameTurns packets setupPending
  obtain heq | ⟨hdeclines, heq⟩ := stallRepair_cases g nm now env c packets setupPending
  · refine ⟨hid, .inl ?_⟩
    rw [heq]
    exact ⟨htick.state, htick.tries, htick.due, htick.gen⟩
  · refine ⟨hid, .inr (.inr ⟨?_, ?_, ?_, ?_⟩)⟩
    · have hnot : (c.stallTick g now env packets setupPending).1.isOwed nm = false := by
        simp only [declinesRepair, Bool.or_eq_false_iff] at hdeclines
        exact hdeclines.1.1.1.2
      rwa [isOwed, htick.gen, htick.state] at hnot
    all_goals
      rw [heq]
      rfl

end Call

namespace Sys

variable {g : Cfg} {env : NetEnv} {s s' : Sys} {c : Call} {id : Nat}

/-- `s'` comes from `s` at once, and every call of it is new or has been spared; the shared timer is as it was, or
bounced. -/
structure Spares (s s' : Sys) : Prop where
  now : s'.now = s.now
  gen : s'.nm.gen = s.nm.gen
  verifyMs : s'.nm.verifyMs = s.nm.verifyMs
  maxAttempts : s'.nm.maxAttempts = s.nm.maxAttempts
  timer : s'.nm.tmrVerify = s.nm.tmrVerify ∨ s'.nm.tmrVerify = Timer.start s.now 1
  calls : ∀ e ∈ s'.calls,
    e.netMigState.isPending = false ∧ e.netMigDue = 0 ∨ ∃ c ∈ s.calls, c.Spared s.nm e

theorem spared_self (nm : Netmon) (c : Call) : c.Spared nm c := ⟨rfl, .inl ⟨rfl, rfl, rfl, rfl⟩⟩

theorem spares_quiet (hquiet : s.Quiet s') (htimer : s'.nm.tmrVerify = s.nm.tmrVerify) : s.Spares s' where
  now := hquiet.now
  gen := congrArg MigrationPart.gen hquiet.part
  verifyMs := congrArg MigrationPart.verifyMs hquiet.part
  maxAttempts := congrArg MigrationPart.maxAttempts hquiet.part
  timer := .inl htimer
  calls e he := .inr ⟨e, hquiet.calls ▸ he, spared_self s.nm e⟩

theorem Spares.bounceVerify (h : s.Spares s') : s.Spares s'.bounceVerify where
  now := h.now
  gen := h.gen
  verifyMs := h.verifyMs
  maxAttempts := h.maxAttempts
  timer := .inr (congrArg (Timer.start · 1) h.now)
  calls := h.calls

theorem Spares.callRefreshable (h : s.Spares s') (id : Nat) : s.Spares (s'.callRefreshable id) := by
  rcases callRefreshable_eq (s := s') id with heq | heq <;> rw [heq]
  · exact h
  · exact h.bounceVerify

theorem spares_onCall (id : Nat) {work : Call → Call} (hwork : ∀ c : Call, c.Spared s.nm (work c)) :
    s.Spares (s.onCall id work) where
  now := rfl
  gen := rfl
  verifyMs := rfl
  maxAttempts := rfl
  timer := .inl rfl
  calls e he := by
    rcases mem_sweep he with ⟨c, hc, rfl⟩ | ⟨hmem, -⟩ | hmissed
    · exact .inr ⟨c, (mem_reached hc).1, (hwork c.idle).idle⟩
    · exact .inr ⟨e, hmem, spared_self s.nm e⟩
    · exact .inr ⟨e, (mem_missed hmissed).1, spared_self s.nm e⟩

/-- Settling leaves the shared timer alone, up to a loop that migrates the calls. -/
theorem settleHandler_tmrVerify :
    (s.settleHandler g env).nm.tmrVerify = s.nm.tmrVerify ∨
      s.startsGeneration env = true ∧ ∃ r : Sys, r.now = s.now ∧ r.nm.verifyMs = s.nm.verifyMs ∧
        r.nm.tmrVerify = s.nm.tmrVerify ∧ s.settleHandler g env = r.migrateCalls g env := by
  unfold settleHandler
  split
  · exact .inl rfl
  · split
    · exact .inl rfl
    · rename_i hscan
      split
      · exact .inl rfl
      · rename_i howed
        unfold applyHandover
        split
        · exact .inl (congrArg VerifyPart.tmrVerify (linkDown_verifyPart []))
        · rename_i hbind
          obtain ⟨os, heq, -⟩ := resetTransports_eq g env (({ s with nm.waitTicks := 0 }).noteLink env)
          have hnoted : (({ s with nm.waitTicks := 0 }).noteLink env).nm.tmrVerify = s.nm.tmrVerify :=
            congrArg VerifyPart.tmrVerify noteLink_verifyPart
          have hquiet : ({ s with nm.waitTicks := 0 } : Sys).Quiet (({ s with nm.waitTicks := 0 }).noteLink env) :=
            quiet_noteLink
          have hnow : (({ s with nm.waitTicks := 0 }).noteLink env).now = s.now := hquiet.now
          have hms : (({ s with nm.waitTicks := 0 }).noteLink env).nm.verifyMs = s.nm.verifyMs :=
            congrArg MigrationPart.verifyMs hquiet.part
          rw [heq]
          generalize ({ s with nm.waitTicks := 0 }).noteLink env = q at *
          unfold resetOutcome
          split
          · rw [resetFailed_eq]
            split <;> exact .inl hnoted
          · rename_i htransp
            rw [resetDone_eq]
            split
            · refine .inr ⟨?_, (q.emit os).beforeMigration env, hnow, hms, hnoted, rfl⟩
              have hbind : (env.routable || env.linklocal) = true := by
                simpa only [← Bool.not_or, Bool.not_eq_true', Bool.not_eq_false] using hbind
              have howed : s.isOwed = true := by simpa using howed
              simp [startsGeneration, not_not.mp hscan, howed, hbind, htransp]
            · exact .inl hnoted

/-- Everything but the clock, the shared timer and a new generation spares the calls. -/
theorem spares_handle (hstarted : s.nm.started = true) (hlive : ∀ c ∈ s.calls, c.bc = true) {act : SysAct}
    (hclock : ∀ ms, act ≠ .elapse ms) (hfires : ∀ env, act ≠ .verifyFires env)
    (hgen : ∀ env, act = .settleFires env → s.startsGeneration env = false) : s.Spares (s.handle g act) := by
  cases act with
  | elapse ms => exact absurd rfl (hclock ms)
  | verifyFires env => exact absurd rfl (hfires env)
  | createAccount _ _ _ | destroyAccount _ | setMonitor _ | setPolicy _ _ | localAddr _ =>
      exact ⟨rfl, rfl, rfl, rfl, .inl rfl, fun e he => .inr ⟨e, he, spared_self s.nm e⟩⟩
  | account id act => exact spares_quiet (quiet_onAccount id act) rfl
  | createCall id acct state =>
      refine ⟨rfl, rfl, rfl, rfl, .inl rfl, fun e he => ?_⟩
      rcases List.mem_append.mp he with he | he
      · exact .inr ⟨e, he, spared_self s.nm e⟩
      · obtain rfl := List.mem_singleton.mp he
        exact .inl ⟨rfl, rfl⟩
  | callRinging id | callHeld id | callLocalHold id hold =>
      simp only [handle]
      apply spares_onCall id
      exact fun c => Call.SameTurns.spared rfl ⟨rfl, rfl, rfl, rfl⟩
  | callEstablished id | callResumed id =>
      refine Spares.callRefreshable ?_ id
      exact spares_onCall id fun c => Call.SameTurns.spared rfl ⟨rfl, rfl, rfl, rfl⟩
  | callSdpAnswer id env =>
      exact spares_onCall id fun c => Call.sdpAnswer_sameTurns.spared Call.works_sdpAnswer.adds.1
  | callClosed id =>
      exact ⟨rfl, rfl, rfl, rfl, .inl rfl, fun e he => .inr ⟨e, List.mem_of_mem_filter he, spared_self s.nm e⟩⟩
  | statsTick id packets setupPending env =>
      have hticked : s.Spares (s.onCall id fun c => (c.stallRepair g s.nm s.now env packets setupPending).1) :=
        spares_onCall id fun c => Call.spared_stallRepair packets setupPending
      simp only [handle]
      rcases statsTick_eq g env s id packets setupPending with heq | heq <;> rw [heq]
      · exact hticked
      · exact hticked.bounceVerify
  | networkChanged env =>
      exact spares_quiet (quiet_netmonTrigger env true)
        (congrArg VerifyPart.tmrVerify (netmonTrigger_verifyPart true))
  | pollFires env =>
      have hidle : s.Quiet { s with nm.tmrPoll := none } := .of_eq rfl rfl rfl rfl
      obtain ⟨tmrPoll, heq⟩ := pollHandler_eq (s := { s with nm.tmrPoll := none }) env hstarted
      simp only [handle]
      rw [heq]
      refine spares_quiet ((hidle.trans (quiet_netmonTrigger env false)).trans (.of_eq rfl rfl rfl rfl)) ?_
      exact congrArg VerifyPart.tmrVerify
        (@netmonTrigger_verifyPart env { s with nm.tmrPoll := none } false)
  | settleFires env =>
      have hnot : ({ s with nm.tmrSettle := none } : Sys).startsGeneration env = false := hgen env rfl
      have htimer : (({ s with nm.tmrSettle := none } : Sys).settleHandler g env).nm.tmrVerify = s.nm.tmrVerify := by
        rcases @settleHandler_tmrVerify g env { s with nm.tmrSettle := none } with
          htimer | ⟨hstarts, -⟩
        · exact htimer
        · rw [hnot] at hstarts
          cases hstarts
      have hidle : s.Quiet { s with nm.tmrSettle := none } := .of_eq rfl rfl rfl rfl
      simp only [handle]
      rcases settleHandler_turns g env { s with nm.tmrSettle := none } hstarted with
        ⟨-, -, hquiet⟩ | ⟨-, -, r, err, hr, hquiet⟩ | ⟨hstarts, -⟩
      · exact spares_quiet (hidle.trans hquiet) htimer
      · have hbefore := hidle.trans hr
        refine ⟨hquiet.now.trans hbefore.now, ?_, ?_, ?_, .inl htimer, fun e he => .inr ?_⟩
        · exact (congrArg MigrationPart.gen hquiet.part).trans (congrArg MigrationPart.gen hbefore.part)
        · exact (congrArg MigrationPart.verifyMs hquiet.part).trans (congrArg MigrationPart.verifyMs hbefore.part)
        · exact (congrArg MigrationPart.maxAttempts hquiet.part).trans
            (congrArg MigrationPart.maxAttempts hbefore.part)
        · rw [hquiet.calls] at he
          rcases (mem_sweepCalls he).2 with ⟨c, hc, rfl⟩ | hpast
          · rw [hbefore.calls] at hc
            have hmem := List.mem_of_mem_take hc
            refine ⟨c, hmem, (Call.works_failPending err).adds.1, .inr (.inl ⟨?_, ?_⟩)⟩
            · exact Call.failPending_not_pending (c := c.idle) (hlive c hmem) err
            · unfold Call.failPending
              split
              · rfl
              · exact Call.failMigration_due err
          · rw [hbefore.calls] at hpast
            exact ⟨e, List.mem_of_mem_drop hpast, spared_self s.nm e⟩
      · rw [hnot] at hstarts
        cases hstarts

/-! ### Pace -/

/-- No call has spent more tries than there are, and neither an offer nor the shared timer is due further ahead than
it may be. -/
structure Paced (g : Cfg) (s : Sys) : Prop where
  pos : 0 < s.nm.maxAttempts
  lt : s.nm.maxAttempts < 2 ^ 32
  timer : ∀ due, s.nm.tmrVerify = some due → due ≤ s.now + s.nm.verifyTickMs
  calls : ∀ c ∈ s.calls, c.Leaves s.nm.maxAttempts (2 * s.nm.maxAttempts + 1) (Call.dueBy g s.nm s.now)

theorem le_verifyTickMs (nm : Netmon) : 500 ≤ nm.verifyTickMs := Nat.le_max_right _ _

theorem verifyTickMs_congr {nm nm' : Netmon} (h : nm'.verifyMs = nm.verifyMs) :
    nm'.verifyTickMs = nm.verifyTickMs := by
  simp only [Netmon.verifyTickMs, h]

theorem dueBy_congr {nm nm' : Netmon} {now now' : Nat} (hms : nm'.verifyMs = nm.verifyMs) (hnow : now' = now) :
    Call.dueBy g nm' now' = Call.dueBy g nm now := by
  rw [Call.dueBy, Call.dueBy, verifyTickMs_congr hms, hnow]

theorem Paced.spares (h : s.Paced g) (hspares : s.Spares s') : s'.Paced g := by
  refine ⟨?_, ?_, ?_, ?_⟩
  · rw [hspares.maxAttempts]
    exact h.pos
  · rw [hspares.maxAttempts]
    exact h.lt
  · intro due hdue
    rw [hspares.now, verifyTickMs_congr hspares.verifyMs]
    rcases hspares.timer with htimer | htimer <;> rw [htimer] at hdue
    · exact h.timer due hdue
    · obtain rfl := Option.some.inj hdue
      have := le_verifyTickMs s.nm
      omega
  · intro e he
    rw [dueBy_congr hspares.verifyMs hspares.now, hspares.maxAttempts]
    rcases hspares.calls e he with ⟨hthrough, hdue⟩ | ⟨c, hc, hspared⟩
    · exact .of_rest (hdue ▸ Nat.zero_le _) hthrough
    · exact hspared.leaves h.pos (h.calls c hc)

theorem Paced.elapse (h : s.Paced g) (ms : Nat) : ({ s with now := s.now + ms } : Sys).Paced g where
  pos := h.pos
  lt := h.lt
  timer due hdue := (h.timer due hdue).trans (Nat.add_le_add_right (Nat.le_add_right _ ms) _)
  calls c hc := by
    refine (h.calls c hc).later ?_
    show s.now + g.restartGraceMs + s.nm.verifyTickMs ≤ s.now + ms + g.restartGraceMs + s.nm.verifyTickMs
    omega

/-- Armed for the calls, or as it was. -/
theorem nextVerify_le (h : ∀ due, s.nm.tmrVerify = some due → due ≤ s.now + s.nm.verifyTickMs) {due : Nat}
    (hdue : s.nextVerify = some due) : due ≤ s.now + s.nm.verifyTickMs := by
  unfold nextVerify at hdue
  split at hdue
  · exact h due hdue
  · obtain rfl := Option.some.inj hdue
    exact Nat.add_le_add_left foldl_min_le.1 _

theorem Paced.sweep (h : s.Paced g) {work : Call → Call}
    (hwork : ∀ c ∈ s.calls, (work c.idle).Leaves s.nm.maxAttempts (2 * s.nm.maxAttempts + 1)
      (Call.dueBy g s.nm s.now)) : ((s.sweepCalls work).armVerify).Paced g where
  pos := h.pos
  lt := h.lt
  timer due hdue := @nextVerify_le (s.sweepCalls work) h.timer due hdue
  calls e he := by
    rcases (mem_sweepCalls he).2 with ⟨c, hc, rfl⟩ | hpast
    · exact (hwork c (List.mem_of_mem_take hc)).idle
    · exact h.calls e (List.mem_of_mem_drop hpast)

theorem Paced.verifyHandler (h : s.Paced g) (htidy : s.Tidy) (env : NetEnv) : (s.verifyHandler g env).Paced g := by
  rw [verifyHandler_of_started htidy.started]
  refine h.sweep fun c hc => ?_
  have hlive : c.idle.bc = true := htidy.live c hc
  have hleaves := (h.calls c hc).idle
  cases howed : c.idle.isOwed s.nm with
  | false =>
      rw [Call.verify_of_not_owed hlive howed]
      exact hleaves
  | true =>
      rcases @Call.leaves_verify g s.nm s.now env _ _ h.pos h.lt hlive howed hleaves with ⟨-, heq⟩ | hturn
      · rw [heq]
        exact hleaves
      · exact hturn.mono (Nat.sub_le _ _)

/-- No call of the list carries the number of the generation that is about to start, which it could only from
2 ^ 32 generations ago. -/
def freshGeneration (s : Sys) : SysAct → Bool
  | .settleFires env =>
      !s.startsGeneration env || s.calls.all fun c => decide (c.netMigGen ≠ u32 (s.nm.gen + 1))
  | _ => true

theorem settleFires_timer
    (h : ∀ due, s.nm.tmrVerify = some due → due ≤ s.now + s.nm.verifyTickMs) {due : Nat}
    (hdue : (s.settleHandler g env).nm.tmrVerify = some due) : due ≤ s.now + s.nm.verifyTickMs := by
  rcases @settleHandler_tmrVerify g env s with htimer | ⟨-, r, hnow, hms, htimer, heq⟩
  · rw [htimer] at hdue
    exact h due hdue
  · have hbound : ∀ due, r.nm.tmrVerify = some due → due ≤ r.now + r.nm.verifyTickMs := by
      rw [htimer, hnow, verifyTickMs_congr hms]
      exact h
    rw [heq] at hdue
    rw [← hnow, ← verifyTickMs_congr hms]
    exact @nextVerify_le (r.sweepCalls (Call.startMigration g r.nm r.now env)) hbound due hdue

theorem Paced.startsGeneration (h : s.Paced g) (htidy : s.Tidy) (hstarts : s.startsGeneration env = true)
    (hfresh : s.freshGeneration (.settleFires env) = true) : (s.settleHandler g env).Paced g := by
  have hfresh : ∀ c ∈ s.calls, c.netMigGen ≠ u32 (s.nm.gen + 1) := by
    simpa [freshGeneration, hstarts] using hfresh
  have htimer {due : Nat} := @settleFires_timer g env s h.timer due
  rcases settleHandler_turns g env s htidy.started with ⟨hnot, -⟩ | ⟨hnot, -⟩ | ⟨-, -, r, hquiet, heq⟩
  · rw [hstarts] at hnot
    cases hnot
  · rw [hstarts] at hnot
    cases hnot
  have hnow : r.now = s.now := hquiet.now
  have hgen : r.nm.gen = u32 (s.nm.gen + 1) := congrArg MigrationPart.gen hquiet.part
  have hms : r.nm.verifyMs = s.nm.verifyMs := congrArg MigrationPart.verifyMs hquiet.part
  have hmax : r.nm.maxAttempts = s.nm.maxAttempts := congrArg MigrationPart.maxAttempts hquiet.part
  have hcalls : r.calls = s.calls := hquiet.calls
  have hkept : ∀ e ∈ r.calls, e.Leaves r.nm.maxAttempts (2 * r.nm.maxAttempts + 1) (Call.dueBy g r.nm r.now) := by
    rw [hcalls, hmax, dueBy_congr hms hnow]
    exact h.calls
  rw [heq] at htimer ⊢
  split
  · rename_i hreinvites
    rw [if_pos hreinvites] at htimer
    refine ⟨?_, ?_, fun due hdue => ?_, fun e he => ?_⟩
    · exact hmax ▸ h.pos
    · exact hmax ▸ h.lt
    · show due ≤ r.now + r.nm.verifyTickMs
      rw [hnow, verifyTickMs_congr hms]
      exact htimer hdue
    · rcases (mem_sweepCalls he).2 with ⟨c, hc, rfl⟩ | hpast
      · have hmem := List.mem_of_mem_take hc
        have hstale : c.idle.netMigGen ≠ r.nm.gen := by
          rw [hgen]
          exact hfresh c (hcalls ▸ hmem)
        have htries : (c.idle.claim r.nm r.now).netMigTries = 0 := (Call.claim_spec hstale).2.2.2.1
        have hpos : 0 < r.nm.maxAttempts := hmax ▸ h.pos
        exact (Call.leaves_startMigration hpos (hmax ▸ h.lt) (hkept c hmem).idle.due (by rwa [htries])).all.idle
      · exact hkept e (List.mem_of_mem_drop hpast)
  · rename_i hreinvites
    rw [if_neg hreinvites] at htimer
    refine ⟨hmax ▸ h.pos, hmax ▸ h.lt, fun due hdue => ?_, hkept⟩
    rw [hnow, verifyTickMs_congr hms]
    exact htimer hdue

theorem Paced.handle (h : s.Paced g) (htidy : s.Tidy) {act : SysAct} (hfresh : s.freshGeneration act = true) :
    (s.handle g act).Paced g := by
  by_cases hfires : ∃ env, act = .verifyFires env
  · obtain ⟨env, rfl⟩ := hfires
    have hfired : ({ s with nm.tmrVerify := none } : Sys).Paced g :=
      ⟨h.pos, h.lt, (fun due hdue => by cases hdue), h.calls⟩
    exact hfired.verifyHandler ⟨htidy.started, htidy.nodup, htidy.live⟩ env
  by_cases hclock : ∃ ms, act = .elapse ms
  · obtain ⟨ms, rfl⟩ := hclock
    exact h.elapse ms
  by_cases hgen : ∃ env, act = .settleFires env ∧ s.startsGeneration env = true
  · obtain ⟨env, rfl, hstarts⟩ := hgen
    have hfired : ({ s with nm.tmrSettle := none } : Sys).Paced g := ⟨h.pos, h.lt, h.timer, h.calls⟩
    exact hfired.startsGeneration ⟨htidy.started, htidy.nodup, htidy.live⟩ hstarts hfresh
  refine h.spares (spares_handle htidy.started htidy.live (fun ms heq => hclock ⟨ms, heq⟩)
    (fun env heq => hfires ⟨env, heq⟩) fun env heq => ?_)
  cases hstarts : s.startsGeneration env with
  | false => rfl
  | true => exact absurd ⟨env, heq, hstarts⟩ hgen

/-! ### The verdict -/

/-- The most a turn can take. -/
def turnMs (g : Cfg) (nm : Netmon) : Nat := g.restartGraceMs + 2 * nm.verifyTickMs

/-- The call is through by `B`, if the shared timer is served on time. -/
structure Through (g : Cfg) (B : Nat) (s : Sys) (c : Call) : Prop where
  now : s.now + c.turnsLeft s.nm.maxAttempts * turnMs g s.nm ≤ B
  timer : ∀ due, s.nm.tmrVerify = some due → due + c.turnsLeft s.nm.maxAttempts * turnMs g s.nm ≤ B
  sent : c.netMigState = .sent →
    c.netMigDue + s.nm.verifyTickMs + c.turnsLeft s.nm.maxAttempts * turnMs g s.nm ≤ B

theorem through_of_leaves {turns : Nat} (htimer : ∀ due, s.nm.tmrVerify = some due → due ≤ s.now + s.nm.verifyTickMs)
    (hc : c.Leaves s.nm.maxAttempts turns (Call.dueBy g s.nm s.now)) (howed : c.isOwed s.nm = true) :
    Through g (s.now + (turns + 1) * turnMs g s.nm) s c := by
  have hturns := hc.turns (Bool.and_eq_true_iff.mp howed).2
  have hspan : c.turnsLeft s.nm.maxAttempts * turnMs g s.nm + turnMs g s.nm ≤ (turns + 1) * turnMs g s.nm := by
    rw [← Nat.succ_mul]
    exact Nat.mul_le_mul_right _ (Nat.succ_le_succ hturns)
  have hturn : turnMs g s.nm = g.restartGraceMs + 2 * s.nm.verifyTickMs := rfl
  refine ⟨by omega, fun due hdue => ?_, fun _ => ?_⟩
  · have := htimer due hdue
    omega
  · have hdue : c.netMigDue ≤ s.now + g.restartGraceMs + s.nm.verifyTickMs := hc.due
    omega

/-- The call is owed a verdict, and near enough to the front for `verify_handler` to reach it. -/
def owes (id : Nat) (s : Sys) : Bool :=
  (s.calls.take netMaxSnap).any fun c => decide (c.id = id) && c.isOwed s.nm

theorem owes_iff : s.owes id = true ↔ ∃ c ∈ s.calls.take netMaxSnap, c.id = id ∧ c.isOwed s.nm = true := by
  simp [owes]

/-- The step is taken while the call is owed its verdict, with the shared timer served on time, and starts no new
generation. -/
def awaits (id : Nat) (s : Sys) (act : SysAct) : Bool :=
  s.owes id && s.onTime act && match act with
    | .settleFires env => !s.startsGeneration env
    | _ => true

structure Awaiting (g : Cfg) (B id : Nat) (s : Sys) : Prop where
  tidy : s.Tidy
  paced : s.Paced g
  now : s.now ≤ B
  armed : s.owes id = true → s.nm.tmrVerify.isRunning = true
  calls : ∀ c ∈ s.calls.take netMaxSnap, c.id = id → c.isOwed s.nm = true → Through g B s c

/-- An owed call is the one of its name. -/
theorem eq_of_owed (htidy : s.Tidy) (howes : s.owes id = true) (hc : c ∈ s.calls) (hid : c.id = id) :
    c ∈ s.calls.take netMaxSnap ∧ c.isOwed s.nm = true := by
  obtain ⟨d, hd, hdid, howed⟩ := owes_iff.mp howes
  obtain rfl : c = d := List.inj_on_of_nodup_map htidy.nodup hc (List.mem_of_mem_take hd) (hid.trans hdid.symm)
  exact ⟨hd, howed⟩

theorem not_mem_drop (htidy : s.Tidy) (hc : c ∈ s.calls.take netMaxSnap) {d : Call}
    (hd : d ∈ s.calls.drop netMaxSnap) : d.id ≠ c.id := by
  intro hid
  obtain rfl : d = c := List.inj_on_of_nodup_map htidy.nodup (List.mem_of_mem_drop hd) (List.mem_of_mem_take hc) hid
  have hnodup : (s.calls.take netMaxSnap ++ s.calls.drop netMaxSnap).Nodup := by
    rw [List.take_append_drop]
    exact htidy.nodup.of_map
  exact List.disjoint_of_nodup_append hnodup hc hd

/-- What the shared timer is due at, if it runs and is not due yet, is still to come. -/
theorem Awaiting.timer {B : Nat} (h : Awaiting g B id s) (howes : s.owes id = true)
    (hdue : s.nm.tmrVerify.isDue s.now = false) : ∃ due, s.nm.tmrVerify = some due ∧ s.now < due := by
  have hrunning := h.armed howes
  cases htimer : s.nm.tmrVerify with
  | none =>
      rw [htimer] at hrunning
      cases hrunning
  | some due =>
      rw [htimer] at hdue
      exact ⟨due, rfl, Nat.lt_of_not_le (of_decide_eq_false hdue)⟩

theorem Awaiting.spares {B : Nat} (h : Awaiting g B id s) (howes : s.owes id = true)
    (hdue : s.nm.tmrVerify.isDue s.now = false) (htidy : s'.Tidy) (hspares : s.Spares s') :
    Awaiting g B id s' := by
  obtain ⟨due, htimer, hahead⟩ := h.timer howes hdue
  refine ⟨htidy, h.paced.spares hspares, hspares.now ▸ h.now, fun _ => ?_, fun e he hid howed => ?_⟩
  · rcases hspares.timer with heq | heq <;> rw [heq]
    · exact h.armed howes
    · rfl
  · have hpending := (Bool.and_eq_true_iff.mp howed).2
    rcases hspares.calls e (List.mem_of_mem_take he) with ⟨hthrough, -⟩ | ⟨c, hc, hspared⟩
    · rw [hthrough] at hpending
      cases hpending
    obtain ⟨hfirst, howedc⟩ := eq_of_owed h.tidy howes hc (hspared.id.symm.trans hid)
    rcases hspared.turns with hsame | ⟨hthrough, -⟩ | ⟨hnot, -⟩
    · have hbefore := h.calls c hfirst (hspared.id.symm.trans hid) howedc
      have hturns : e.turnsLeft s'.nm.maxAttempts * turnMs g s'.nm =
          c.turnsLeft s.nm.maxAttempts * turnMs g s.nm := by
        rw [Call.turnsLeft, Call.turnsLeft, turnMs, turnMs, hspares.maxAttempts, hsame.tries, hsame.state,
          verifyTickMs_congr hspares.verifyMs]
      have hlater := hbefore.timer due htimer
      refine ⟨?_, fun due' htimer' => ?_, fun hsent => ?_⟩
      · rw [hturns, hspares.now]
        exact hbefore.now
      · rw [hturns]
        rcases hspares.timer with heq | heq <;> rw [heq] at htimer'
        · exact hbefore.timer due' htimer'
        · obtain rfl := Option.some.inj htimer'
          omega
      · rw [hturns, hsame.due, verifyTickMs_congr hspares.verifyMs]
        exact hbefore.sent (hsame.state ▸ hsent)
    · rw [hthrough] at hpending
      cases hpending
    · rw [howedc] at hnot
      cases hnot

/-- Time goes by up to the moment the timer is due. -/
theorem Awaiting.elapse {B ms : Nat} (h : Awaiting g B id s) (howes : s.owes id = true)
    (htime : s.onTime (.elapse ms) = true) : Awaiting g B id { s with now := s.now + ms } := by
  simp only [onTime, Bool.and_eq_true, Bool.not_eq_true'] at htime
  obtain ⟨due, htimer, -⟩ := h.timer howes htime.1
  have hle : s.now + ms ≤ due := by simpa [htimer] using htime.2
  obtain ⟨c, hc, hid, howed⟩ := owes_iff.mp howes
  have hend := (h.calls c hc hid howed).timer due htimer
  refine ⟨⟨h.tidy.started, h.tidy.nodup, h.tidy.live⟩, h.paced.elapse ms, ?_, h.armed, fun e he hid howed => ?_⟩
  · show s.now + ms ≤ B
    omega
  · have hbefore := h.calls e he hid howed
    have hlater := hbefore.timer due htimer
    refine ⟨?_, hbefore.timer, hbefore.sent⟩
    show s.now + ms + e.turnsLeft s.nm.maxAttempts * turnMs g s.nm ≤ B
    omega

/-- The call is judged: it has a turn less, or waits for an offer that was counted already. -/
theorem Through.verify {B turns : Nat} (hpos : 0 < s.nm.maxAttempts) (hlt : s.nm.maxAttempts < 2 ^ 32)
    (h : Through g B s c) (hbc : c.bc = true) (howed : c.isOwed s.nm = true)
    (hleaves : c.Leaves s.nm.maxAttempts turns (Call.dueBy g s.nm s.now))
    (hnow : s'.now = s.now) (hms : s'.nm.verifyMs = s.nm.verifyMs) (hmax : s'.nm.maxAttempts = s.nm.maxAttempts)
    (htimer : ∀ due, s'.nm.tmrVerify = some due → due ≤ s.now + s.nm.verifyTickMs)
    (howed' : (c.verify g s.nm s.now env).netMigState.isPending = true) :
    Through g B s' (c.verify g s.nm s.now env) := by
  have hturn : turnMs g s'.nm = turnMs g s.nm := by rw [turnMs, turnMs, verifyTickMs_congr hms]
  have hms := verifyTickMs_congr hms
  have hleaves : c.Leaves s.nm.maxAttempts (c.turnsLeft s.nm.maxAttempts) (Call.dueBy g s.nm s.now) :=
    ⟨hleaves.due, hleaves.tries, hleaves.room, fun _ => le_rfl⟩
  rcases @Call.leaves_verify g s.nm s.now env _ _ hpos hlt hbc howed hleaves with ⟨⟨hsent, hahead⟩, heq⟩ | hless
  · have hbound := h.sent hsent
    rw [heq]
    refine ⟨?_, fun due hdue => ?_, fun _ => ?_⟩
    · rw [hmax, hturn, hnow]
      exact h.now
    · have := htimer due hdue
      rw [hmax, hturn]
      omega
    · rw [hmax, hturn, hms]
      exact hbound
  · have hleft := Call.turnsLeft_pos hleaves (Bool.and_eq_true_iff.mp howed).2
    have hturns := hless.turns howed'
    have hspan : (c.verify g s.nm s.now env).turnsLeft s.nm.maxAttempts * turnMs g s.nm + turnMs g s.nm ≤
        c.turnsLeft s.nm.maxAttempts * turnMs g s.nm := by
      rw [← Nat.succ_mul]
      exact Nat.mul_le_mul_right _ (by omega)
    have hbound := h.now
    have hlong : turnMs g s.nm = g.restartGraceMs + 2 * s.nm.verifyTickMs := rfl
    refine ⟨?_, fun due hdue => ?_, fun _ => ?_⟩
    · rw [hmax, hturn, hnow]
      omega
    · have := htimer due hdue
      rw [hmax, hturn]
      omega
    · have hdue : (c.verify g s.nm s.now env).netMigDue ≤ s.now + g.restartGraceMs + s.nm.verifyTickMs := hless.due
      rw [hmax, hturn, hms]
      omega

theorem awaiting_verifyHandler {B : Nat} (htidy : s.Tidy) (hpaced : s.Paced g) (hnow : s.now ≤ B)
    (howes : s.owes id = true)
    (hcalls : ∀ c ∈ s.calls.take netMaxSnap, c.id = id → c.isOwed s.nm = true → Through g B s c)
    (htidy' : (s.verifyHandler g env).Tidy) : Awaiting g B id (s.verifyHandler g env) := by
  refine ⟨htidy', hpaced.verifyHandler htidy env, ?_, fun howes' => ?_, fun e he hid howed => ?_⟩
  · rw [verifyHandler_of_started htidy.started]
    exact hnow
  · rw [verifyHandler_of_started htidy.started] at howes' ⊢
    obtain ⟨e, he, -, howed⟩ := owes_iff.mp howes'
    exact @isRunning_nextVerify (s.sweepCalls (Call.verify g s.nm s.now env)) e he howed
  · rw [verifyHandler_of_started htidy.started] at he howed ⊢
    have htimer (due : Nat) (hdue : ((s.sweepCalls (Call.verify g s.nm s.now env)).armVerify).nm.tmrVerify =
        some due) : due ≤ s.now + s.nm.verifyTickMs :=
      @nextVerify_le (s.sweepCalls (Call.verify g s.nm s.now env)) hpaced.timer due hdue
    rcases (mem_sweepCalls (List.mem_of_mem_take he)).2 with ⟨c, hc, rfl⟩ | hpast
    · have hmem := List.mem_of_mem_take hc
      have hidc : c.id = id := (Call.works_verify (c := c.idle)).adds.1.symm.trans hid
      obtain ⟨-, howedc⟩ := eq_of_owed htidy howes hmem hidc
      have hthrough : Through g B s c.idle :=
        ⟨(hcalls c hc hidc howedc).now, (hcalls c hc hidc howedc).timer, (hcalls c hc hidc howedc).sent⟩
      have hafter : Through g B (s.sweepCalls (Call.verify g s.nm s.now env)).armVerify
          (c.idle.verify g s.nm s.now env) :=
        hthrough.verify hpaced.pos hpaced.lt (htidy.live c hmem) howedc (hpaced.calls c hmem).idle rfl rfl rfl htimer
          (Bool.and_eq_true_iff.mp howed).2
      exact ⟨hafter.now, hafter.timer, hafter.sent⟩
    · obtain ⟨c, hc, hidc, -⟩ := owes_iff.mp howes
      exact absurd (hid.trans hidc.symm) (not_mem_drop htidy hc hpast)

theorem awaiting_step {B : Nat} {act : SysAct} {os : List SysOut} (h : Awaiting g B id s)
    (hawaits : s.awaits id act = true) (hstep : (system g).step s act = some (s', os)) : Awaiting g B id s' := by
  obtain ⟨hen, rfl, -⟩ := system_step hstep
  simp only [awaits, Bool.and_eq_true] at hawaits
  obtain ⟨⟨howes, htime⟩, hgen⟩ := hawaits
  have htidy : s.idle.Tidy := ⟨h.tidy.started, h.tidy.nodup, h.tidy.live⟩
  have hpaced : s.idle.Paced g := ⟨h.paced.pos, h.paced.lt, h.paced.timer, h.paced.calls⟩
  have hafter : (s.idle.handle g act).Tidy := htidy.handle hen
  have hthrough (c : Call) (hc : c ∈ s.calls.take netMaxSnap) (hid : c.id = id) (howed : c.isOwed s.nm = true) :
      Through g B s.idle c :=
    ⟨(h.calls c hc hid howed).now, (h.calls c hc hid howed).timer, (h.calls c hc hid howed).sent⟩
  have hidle : Awaiting g B id s.idle := ⟨htidy, hpaced, h.now, h.armed, hthrough⟩
  by_cases hfires : ∃ env, act = .verifyFires env
  · obtain ⟨env, rfl⟩ := hfires
    have hfired : ({ s.idle with nm.tmrVerify := none } : Sys).Paced g :=
      ⟨hpaced.pos, hpaced.lt, (fun due hdue => by cases hdue), hpaced.calls⟩
    refine awaiting_verifyHandler (s := { s.idle with nm.tmrVerify := none })
      ⟨htidy.started, htidy.nodup, htidy.live⟩ hfired h.now howes (fun c hc hid howed => ?_) hafter
    exact ⟨(hthrough c hc hid howed).now, (fun due hdue => by cases hdue), (hthrough c hc hid howed).sent⟩
  by_cases hclock : ∃ ms, act = .elapse ms
  · obtain ⟨ms, rfl⟩ := hclock
    exact hidle.elapse howes htime
  have hquiet : s.nm.tmrVerify.isDue s.now = false := by
    cases act with
    | verifyFires env => exact absurd ⟨env, rfl⟩ hfires
    | elapse ms => exact absurd ⟨ms, rfl⟩ hclock
    | _ => exact (Bool.not_eq_true' _).mp htime
  refine hidle.spares howes hquiet hafter (spares_handle htidy.started htidy.live
    (fun ms heq => hclock ⟨ms, heq⟩) (fun env heq => hfires ⟨env, heq⟩) ?_)
  rintro env rfl
  exact (Bool.not_eq_true' _).mp hgen

end Sys

variable {g : Cfg} {id : Nat} {s s' : Sys} {t u : Trace SysAct SysOut}

theorem paced_run (hmax : g.netMaxAttempts < 2 ^ 32)
    (hrun : (system g).Run (fun s act => s.freshGeneration act = true) s t) : s.Tidy ∧ s.Paced g := by
  refine hrun.stateInvariant (I := fun s => s.Tidy ∧ s.Paced g) ?_ fun s act s' os h hfresh hstep => ?_
  · rintro _ ⟨now, up, curLaddr, rfl⟩
    have hlt : g.maxAttempts < 2 ^ 32 := by
      unfold Cfg.maxAttempts
      split
      · decide
      · exact hmax
    refine ⟨⟨rfl, List.nodup_nil, by simp⟩, g.maxAttempts_pos, hlt, ?_, by simp⟩
    intro due hdue
    cases hdue
  · obtain ⟨hen, rfl, -⟩ := system_step hstep
    obtain ⟨htidy, hpaced⟩ := h
    have hidle : s.idle.Tidy := ⟨htidy.started, htidy.nodup, htidy.live⟩
    have hpace : s.idle.Paced g := ⟨hpaced.pos, hpaced.lt, hpaced.timer, hpaced.calls⟩
    exact ⟨hidle.handle hen, hpace.handle hidle hfresh⟩

/-- **A migration ends.** However the network answers and whatever the other calls and the accounts do meanwhile, a
call is owed its verdict for no longer than two turns for each try and two more, as long as the shared timer is served
on time and no new handover begins. -/
theorem migration_ends (hmax : g.netMaxAttempts < 2 ^ 32)
    (hrun : (system g).Run (fun s act => s.keepsOwners act = true ∧ s.freshGeneration act = true) s t)
    (hsteps : (system g).Steps (fun s act => s.awaits id act = true) s u s') :
    s'.now ≤ s.now + (2 * s.nm.maxAttempts + 2) * (g.restartGraceMs + 2 * s.nm.verifyTickMs) := by
  obtain ⟨htidy, hpaced⟩ := paced_run hmax (hrun.mono fun _ _ h => h.2)
  have howned : s.Owned := by
    refine (hrun.mono fun _ _ h => h.1).stateInvariant ?_ fun s act s' os h hkeeps hstep =>
      Sys.owned_step h hkeeps hstep
    rintro _ ⟨now, up, curLaddr, rfl⟩
    exact ⟨rfl, by simp⟩
  have hstart : Sys.Awaiting g (s.now + (2 * s.nm.maxAttempts + 2) * Sys.turnMs g s.nm) id s := by
    refine ⟨htidy, hpaced, Nat.le_add_right _ _, fun howes => ?_, fun c hc hid howed => ?_⟩
    · obtain ⟨c, hc, -, howed⟩ := Sys.owes_iff.mp howes
      exact (howned.calls c (List.mem_of_mem_take hc)).armed (Bool.and_eq_true_iff.mp howed).2
    · exact Sys.through_of_leaves hpaced.timer (hpaced.calls c (List.mem_of_mem_take hc)) howed
  have hend : Sys.Awaiting g (s.now + (2 * s.nm.maxAttempts + 2) * Sys.turnMs g s.nm) id s' := by
    clear hrun htidy hpaced howned
    generalize s.now + (2 * s.nm.maxAttempts + 2) * Sys.turnMs g s.nm = B at hstart ⊢
    induction hsteps with
    | refl => exact hstart
    | step _ hawaits hstep ih => exact Sys.awaiting_step ih hawaits hstep
  exact hend.now

/-- A call that no address reaches is given up within the bound. -/
theorem migration_ends_adrift :
    ∃ s s' t u, (system configInit).Run (fun s act => s.keepsOwners act = true ∧ s.freshGeneration act = true) s t ∧
      (system configInit).Steps (fun s act => s.awaits 1 act = true) s u s' ∧ s.owes 1 = true ∧
        s'.owes 1 = false ∧ s'.now ≤ s.now + (2 * s.nm.maxAttempts + 2) * (configInit.restartGraceMs +
          2 * s.nm.verifyTickMs) := by
  obtain ⟨s, t, hrun, hend⟩ := Machine.exists_run_of_exec
    (fun s act => s.keepsOwners act && s.freshGeneration act) (justStarted_init configInit) waitingCall
    (fun s _ =>
      s.owes 1 && ((system configInit).exec (fun s act => s.awaits 1 act) s
        (List.replicate 6 [.elapse 4000, .verifyFires .adrift]).flatten).any
          fun r : Sys × Trace SysAct SysOut => !r.1.owes 1)
    (by decide +kernel)
  simp only [Bool.and_eq_true, Option.any_eq_true, Bool.not_eq_true'] at hend
  obtain ⟨howes, ⟨s', u⟩, hexec, hthrough⟩ := hend
  have hrun := hrun.mono fun s act h => Bool.and_eq_true_iff.mp h
  have hsteps := Machine.steps_of_exec hexec
  exact ⟨s, s', t, u, hrun, hsteps, howes, hthrough, migration_ends (by decide) hrun hsteps⟩

end VoxSdk
