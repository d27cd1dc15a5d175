import VoxSdk.Handover

/-!
# What migration work does to a call

Between two stampings, everything `netmon.c` does for a call keeps the stamp, and puts out nothing but
what concerns the call.
-/

namespace VoxSdk

open Reactive

/-- The reports about a call. -/
def NetEvent.isCall : NetEvent → Bool
  | .callMigrating | .callMigrateAccepted | .callMigrated | .callMigrationFailed | .callDeferred
  | .callIceStale => true
  | _ => false

/-- What a handler may do for the call with the id. -/
def SysOut.ofCall (id : Nat) : SysOut → Bool
  | .net r => decide (r.call = some id) && r.event.isCall
  | .iceRestart call _ | .callResetTransp call _ | .uaHangup call | .mediaStall call .. =>
      decide (call = id)
  | .acct .. | .dnsRefresh | .uagResetTransp => false

/-- The same without the stall alerts. -/
def SysOut.ofMigration (id : Nat) : SysOut → Bool
  | .mediaStall .. => false
  | o => o.ofCall id

/-- Whether it is a stall alert. -/
def SysOut.isStall : SysOut → Bool
  | .mediaStall .. => true
  | _ => false

theorem SysOut.ofCall_of_ofMigration {o : SysOut} {id : Nat} (h : o.ofMigration id = true) :
    o.ofCall id = true := by
  cases o with
  | mediaStall call elapsedMs recovered => cases h
  | _ => exact h

theorem SysOut.isStall_of_ofMigration {o : SysOut} {id : Nat} (h : o.ofMigration id = true) :
    o.isStall = false := by
  cases o with
  | mediaStall call elapsedMs recovered => cases h
  | _ => rfl

/-- What migration work leaves alone. -/
structure CallStamp where
  id : Nat
  acct : Option CallAcct
  localHold : Bool
  netMigGen : Nat
  netMigStart : Nat
  netMigStall : Bool
  netStallRepairAt : Nat
  netStallRounds : Nat

/-- What stall detection goes by. -/
structure StallPart where
  id : Nat
  stallRxPackets : Nat
  stallSince : Nat
  stallActive : Bool

namespace Call

def stallPart (c : Call) : StallPart :=
  { id := c.id
    stallRxPackets := c.stallRxPackets
    stallSince := c.stallSince
    stallActive := c.stallActive }

def stamp (c : Call) : CallStamp :=
  { id := c.id
    acct := c.acct
    localHold := c.localHold
    netMigGen := c.netMigGen
    netMigStart := c.netMigStart
    netMigStall := c.netMigStall
    netStallRepairAt := c.netStallRepairAt
    netStallRounds := c.netStallRounds }

/-- `d` is `c` after some work on it. -/
structure Continues (c d : Call) : Prop where
  stamp : d.stamp = c.stamp
  out : ∃ os, d.out = c.out ++ os ∧ ∀ o ∈ os, o.ofCall c.id = true

variable {g : Cfg} {nm : Netmon} {now : Nat} {env : NetEnv} {c d e : Call}

theorem Continues.of_out (hstamp : d.stamp = c.stamp) (hout : d.out = c.out) : c.Continues d :=
  ⟨hstamp, [], by simp [hout], by simp⟩

theorem Continues.refl : c.Continues c := .of_out rfl rfl

theorem Continues.id_eq (h : c.Continues d) : d.id = c.id := congrArg CallStamp.id h.stamp

theorem Continues.trans (h : c.Continues d) (h' : d.Continues e) : c.Continues e := by
  obtain ⟨os, hout, hall⟩ := h.out
  obtain ⟨os', hout', hall'⟩ := h'.out
  refine ⟨h'.stamp.trans h.stamp, os ++ os', by rw [hout', hout, List.append_assoc], ?_⟩
  intro o ho
  rcases List.mem_append.mp ho with ho | ho
  · exact hall o ho
  · exact h.id_eq ▸ hall' o ho

theorem Continues.gen_eq (h : c.Continues d) : d.netMigGen = c.netMigGen :=
  congrArg CallStamp.netMigGen h.stamp

theorem Continues.emit (h : c.Continues d) {o : SysOut} (ho : o.ofCall c.id = true) :
    c.Continues (d.emit o) := by
  obtain ⟨os, hout, hall⟩ := h.out
  refine ⟨h.stamp, os ++ [o], by simp [Call.emit, hout], ?_⟩
  intro o' ho'
  rcases List.mem_append.mp ho' with ho' | ho'
  · exact hall o' ho'
  · exact List.mem_singleton.mp ho' ▸ ho

theorem Continues.update (h : c.Continues d) (hstamp : e.stamp = d.stamp)
    (hout : e.out = d.out) : c.Continues e := by
  obtain ⟨os, hos, hall⟩ := h.out
  exact ⟨hstamp.trans h.stamp, os, hout.trans hos, hall⟩

/-- `d` is `c` after work that its stall detection has no part in. -/
structure SameStall (c d : Call) : Prop where
  part : d.stallPart = c.stallPart
  out : d.out.filter SysOut.isStall = c.out.filter SysOut.isStall

theorem SameStall.of_eq (hpart : d.stallPart = c.stallPart) (hout : d.out = c.out) : c.SameStall d :=
  ⟨hpart, congrArg _ hout⟩

theorem SameStall.trans (h : c.SameStall d) (h' : d.SameStall e) : c.SameStall e :=
  ⟨h'.part.trans h.part, h'.out.trans h.out⟩

theorem SameStall.emit (h : c.SameStall d) {o : SysOut} (ho : o.isStall = false) :
    c.SameStall (d.emit o) := by
  refine ⟨h.part, ?_⟩
  rw [Call.emit, List.filter_append, List.filter_cons_of_neg (by simp [ho]), List.filter_nil,
    List.append_nil]
  exact h.out

/-- `d` is `c` after migration work on it: it puts out what concerns the call, and leaves the stamp and the
stall detection alone. -/
inductive Migrates (c : Call) : Call → Prop where
  | refl : Migrates c c
  | emit {d : Call} {o : SysOut} : Migrates c d → o.ofMigration c.id = true → Migrates c (d.emit o)
  | update {d e : Call} : Migrates c d → e.stamp = d.stamp → e.stallPart = d.stallPart →
      e.out = d.out → Migrates c e

theorem Migrates.continues (h : c.Migrates d) : c.Continues d := by
  induction h with
  | refl => exact .refl
  | emit _ ho ih => exact ih.emit (SysOut.ofCall_of_ofMigration ho)
  | update _ hstamp _ hout ih => exact ih.update hstamp hout

theorem Migrates.id_eq (h : c.Migrates d) : d.id = c.id := h.continues.id_eq

theorem Migrates.gen_eq (h : c.Migrates d) : d.netMigGen = c.netMigGen := h.continues.gen_eq

theorem Migrates.sameStall (h : c.Migrates d) : c.SameStall d := by
  induction h with
  | refl => exact .of_eq rfl rfl
  | emit _ ho ih => exact ih.emit (SysOut.isStall_of_ofMigration ho)
  | update _ _ hpart hout ih => exact ih.trans (.of_eq hpart hout)

theorem Migrates.report (h : c.Migrates d) {what : NetEvent} {err : Option Errno} {attempt : Nat}
    (hwhat : what.isCall = true) :
    c.Migrates (d.report g nm now env what err attempt) :=
  h.emit (by simp [SysOut.ofMigration, SysOut.ofCall, hwhat, h.id_eq])

theorem Migrates.setMigState (h : c.Migrates d) (st : MigState) :
    c.Migrates (d.setMigState st) := h.update rfl rfl rfl

theorem Migrates.laddrRemember (h : c.Migrates d) (sa : Sa) :
    c.Migrates (d.laddrRemember sa) := by
  unfold Call.laddrRemember
  split
  · exact h
  · split
    · exact h
    · exact h.update rfl rfl rfl

theorem Migrates.nextLaddr (h : c.Migrates d) (af : Sa) :
    c.Migrates (d.nextLaddr env af).2 := by
  unfold Call.nextLaddr
  split
  · exact h
  · exact h.update rfl rfl rfl

theorem Migrates.failMigration (h : c.Migrates d) (err : Errno) :
    c.Migrates (d.failMigration g nm now env err) := by
  have hreport : c.Migrates ((d.setMigState .failed).report g nm now env .callMigrationFailed
      (some err) d.netMigTries) := (h.setMigState .failed).report rfl
  simp only [Call.failMigration]
  split
  · exact (hreport.emit (o := .uaHangup _) (decide_eq_true hreport.id_eq)).update rfl rfl rfl
  · exact hreport

theorem Migrates.offerRestarted (h : c.Migrates d) :
    c.Migrates (d.offerRestarted g nm now env) :=
  .report (.update h (by rfl) (by rfl) (by rfl)) rfl

theorem Migrates.offerPlain (h : c.Migrates d) : c.Migrates (d.offerPlain g nm now env) := by
  have hreset : c.Migrates (d.emit (.callResetTransp d.id d.netMigLaddr)) :=
    h.emit (decide_eq_true h.id_eq)
  simp only [Call.offerPlain]
  split
  · split
    · exact hreset.failMigration _
    · exact hreset.setMigState _
  · split
    · exact .report (.setMigState (.report (.update hreset (by rfl) (by rfl) (by rfl)) rfl) _) rfl
    · exact .report (.update hreset (by rfl) (by rfl) (by rfl)) rfl

theorem Migrates.reportStale (h : c.Migrates d) (err : Errno) :
    c.Migrates (d.reportStale g nm now env err) := by
  unfold Call.reportStale
  split
  · exact h
  · exact .report (.update h (by rfl) (by rfl) (by rfl)) rfl

theorem Migrates.offer (h : c.Migrates d) : c.Migrates (d.offer g nm now env) := by
  have hrestart : c.Migrates (d.emit (.iceRestart d.id d.netMigLaddr)) :=
    h.emit (decide_eq_true h.id_eq)
  simp only [Call.offer]
  split
  · split
    · exact hrestart.offerRestarted
    · exact hrestart.offerRestarted
    · exact hrestart.offerPlain
    · exact (hrestart.reportStale _).offerPlain
  · exact h.offerPlain

theorem Migrates.countOffer (h : c.Migrates d) : c.Migrates (d.countOffer env) :=
  .laddrRemember (.update h (by rfl) (by rfl) (by rfl)) _

theorem Migrates.sendMigration (h : c.Migrates d) :
    c.Migrates (d.sendMigration g nm now env) := by
  unfold Call.sendMigration
  split
  · exact h.setMigState _
  · split
    · split
      · exact h
      · exact .report (.setMigState h _) rfl
    · exact h.countOffer.offer

theorem Migrates.retryMigration (h : c.Migrates d) :
    c.Migrates (d.retryMigration g nm now env) := by
  have hremember := h.laddrRemember d.netMigLaddr
  simp only [Call.retryMigration]
  split
  · have hnext : c.Migrates (Call.nextLaddr env _ _).2 :=
      hremember.nextLaddr (d.laddrRemember d.netMigLaddr).netMigLaddr
    split
    · rename_i heq
      rw [heq] at hnext
      exact .sendMigration (.update hnext rfl rfl rfl)
    · rename_i heq
      rw [heq] at hnext
      exact hnext.sendMigration
  · exact hremember.sendMigration

theorem Migrates.waitForAddr (h : c.Migrates d) : c.Migrates (d.waitForAddr g nm now env) := by
  unfold Call.waitForAddr
  split
  · exact h
  · exact .report (.setMigState h _) rfl

theorem Migrates.rotateFrom (h : c.Migrates d) (laddr : Sa) :
    c.Migrates (d.rotateFrom env laddr).2 := by
  simp only [Call.rotateFrom]
  split
  · have hnext : c.Migrates (Call.nextLaddr env _ _).2 := h.nextLaddr laddr
    split
    · rename_i heq
      rw [heq] at hnext
      exact hnext
    · rename_i heq
      rw [heq] at hnext
      exact hnext
  · exact h

theorem Migrates.migrateTo (h : c.Migrates d) (laddr : Sa) :
    c.Migrates (d.migrateTo g nm now env laddr) := by
  simp only [Call.migrateTo]
  split
  · exact h.setMigState _
  · exact .sendMigration (.update h rfl rfl rfl)

theorem Migrates.judge (h : c.Migrates d) : c.Migrates (d.judge g nm now env) := by
  unfold Call.judge
  split
  · exact h
  · split
    · exact .report (.setMigState h _) rfl
    · split
      · exact .report (.setMigState h _) rfl
      · split
        · exact h.failMigration _
        · exact h.retryMigration

variable (nm now c) in
@[simp]
theorem claim_frame :
    (c.claim nm now).id = c.id ∧ (c.claim nm now).out = c.out ∧ (c.claim nm now).bc = c.bc ∧
      (c.claim nm now).netMigGen = nm.gen := by
  unfold claim
  split
  · exact ⟨rfl, rfl, rfl, ‹_›⟩
  · exact ⟨rfl, rfl, rfl, rfl⟩

/-- A live call whose migration starts is stamped, and the rest is work on it. -/
theorem claim_migrates (hbc : c.bc = true) :
    (c.claim nm now).Migrates (c.startMigration g nm now env) := by
  simp only [startMigration, hbc]
  split
  · contradiction
  · split
    · exact .waitForAddr .refl
    · exact .migrateTo (.rotateFrom .refl _) _

theorem claim_of_gen (hgen : c.netMigGen = nm.gen) : c.claim nm now = c := by
  simp [claim, hgen]

theorem continues_verify (hbc : c.bc = true) : c.Continues (c.verify g nm now env) := by
  have hcharge : c.Migrates c.charge := .update .refl rfl rfl rfl
  have hstart {d : Call} (hgen : d.netMigGen = nm.gen) (hlive : d.bc = true) :
      d.Continues (d.startMigration g nm now env) := by
    have hstarted := @claim_migrates g nm now env d hlive
    rw [claim_of_gen hgen] at hstarted
    exact hstarted.continues
  simp only [verify]
  split
  · exact .refl
  · rename_i hgen
    have hgen : c.netMigGen = nm.gen := not_not.mp hgen
    rw [if_neg (by simp [hbc])]
    split
    · exact hstart hgen hbc
    · split
      · exact (hcharge.failMigration _).continues
      · exact hcharge.continues.trans (hstart hgen hbc)
    · split
      · exact Migrates.refl.sendMigration.continues
      · split
        · exact (hcharge.failMigration _).continues
        · exact hcharge.continues
    · exact Migrates.refl.judge.continues
    · exact .refl
    · exact .refl
    · exact .refl

/-! ### What a call's handler puts out -/

/-- `d` is `c` after some work that has put out nothing but what concerns it. -/
def Adds (c d : Call) : Prop :=
  d.id = c.id ∧ ∃ os, d.out = c.out ++ os ∧ ∀ o ∈ os, o.ofCall c.id = true

theorem Continues.adds (h : c.Continues d) : c.Adds d := ⟨h.id_eq, h.out⟩

theorem Adds.of_eq (hid : d.id = c.id) (hout : d.out = c.out) : c.Adds d :=
  ⟨hid, [], by simp [hout], by simp⟩

/-- Only the number and the outputs of the call worked on matter. -/
theorem Adds.congr (h : d.Adds e) (hid : d.id = c.id) (hout : d.out = c.out) : c.Adds e := by
  obtain ⟨hid', os, hos, hall⟩ := h
  exact ⟨hid'.trans hid, os, hos.trans (congrArg (· ++ os) hout), hid ▸ hall⟩

/-- `d` is migration work on `c`, which the generation may have claimed first. -/
def Works (c d : Call) : Prop := ∃ r : Call, r.stallPart = c.stallPart ∧ r.out = c.out ∧ r.Migrates d

theorem Migrates.works (h : c.Migrates d) : c.Works d := ⟨c, rfl, rfl, h⟩

theorem Works.of_eq (hpart : d.stallPart = c.stallPart) (hout : d.out = c.out) : c.Works d :=
  ⟨d, hpart, hout, .refl⟩

theorem Works.congr (h : d.Works e) (hpart : d.stallPart = c.stallPart) (hout : d.out = c.out) :
    c.Works e := by
  obtain ⟨r, hpart', hout', hmigrates⟩ := h
  exact ⟨r, hpart'.trans hpart, hout'.trans hout, hmigrates⟩

theorem Works.adds (h : c.Works d) : c.Adds d := by
  obtain ⟨r, hpart, hout, hmigrates⟩ := h
  exact hmigrates.continues.adds.congr (congrArg StallPart.id hpart) hout

theorem Works.sameStall (h : c.Works d) : c.SameStall d := by
  obtain ⟨r, hpart, hout, hmigrates⟩ := h
  exact (SameStall.of_eq hpart hout).trans hmigrates.sameStall

theorem works_startMigration : c.Works (c.startMigration g nm now env) := by
  cases hbc : c.bc with
  | true =>
      have hclaim : (c.claim nm now).stallPart = c.stallPart := by
        unfold claim
        split <;> rfl
      exact ⟨c.claim nm now, hclaim, (claim_frame nm now c).2.1, claim_migrates hbc⟩
  | false =>
      have hidle : c.startMigration g nm now env = c.setMigState .idle := by
        simp [startMigration, hbc]
      exact hidle ▸ .of_eq rfl rfl

theorem works_verify : c.Works (c.verify g nm now env) := by
  have hcharge : c.Migrates c.charge := .update .refl rfl rfl rfl
  simp only [verify]
  split
  · exact .of_eq rfl rfl
  · split
    · exact .of_eq rfl rfl
    · split
      · exact works_startMigration
      · split
        · exact (hcharge.failMigration _).works
        · exact works_startMigration.congr rfl rfl
      · split
        · exact Migrates.refl.sendMigration.works
        · split
          · exact (hcharge.failMigration _).works
          · exact .of_eq rfl rfl
      · exact Migrates.refl.judge.works
      · exact .of_eq rfl rfl
      · exact .of_eq rfl rfl
      · exact .of_eq rfl rfl

theorem works_failPending (err : Errno) : c.Works (c.failPending g nm now env err) := by
  unfold failPending
  split
  · exact .of_eq rfl rfl
  · exact (Migrates.refl.failMigration err).works.congr rfl rfl

theorem works_sdpAnswer : c.Works (c.sdpAnswer g nm now env) := by
  unfold sdpAnswer
  split
  · exact .of_eq rfl rfl
  · split
    · exact .of_eq rfl rfl
    · exact (Migrates.refl.report rfl).works

theorem adds_stallTick (packets : Nat) (setupPending : Bool) :
    c.Adds (c.stallTick g now env packets setupPending).1 := by
  have hclear {d : Call} (h : c.Continues d) : c.Continues (d.stallClear 0) := by
    unfold stallClear
    split
    · exact (h.update (e := { d with stallActive := false }) rfl rfl).emit (decide_eq_true h.id_eq)
    · exact h
  simp only [stallTick]
  split
  · exact .of_eq rfl rfl
  · split
    · exact ((hclear .refl).update rfl rfl).adds
    · split
      · exact (hclear (Continues.refl.update (by rfl) (by rfl))).adds
      · split
        · have hstall : c.Continues { c with stallActive := true } := .update .refl rfl rfl
          exact (hstall.emit (o := .mediaStall c.id _ _) (decide_eq_true rfl)).adds
        · exact .of_eq rfl rfl

theorem stallTick_frame (packets : Nat) (setupPending : Bool) :
    (c.stallTick g now env packets setupPending).1.bc = c.bc ∧
      (c.stallTick g now env packets setupPending).1.netMigState = c.netMigState ∧
      (c.stallTick g now env packets setupPending).1.netMigGen = c.netMigGen := by
  unfold stallTick stallClear
  repeat' split
  all_goals exact ⟨rfl, rfl, rfl⟩

variable (g nm now env c) in
/-- A tick starts a repair, or leaves the call to the app. -/
theorem stallRepair_cases (packets : Nat) (setupPending : Bool) :
    c.stallRepair g nm now env packets setupPending =
        ((c.stallTick g now env packets setupPending).1, false) ∨
      (c.stallTick g now env packets setupPending).1.declinesRepair nm now env = false ∧
        c.stallRepair g nm now env packets setupPending =
          ((c.stallTick g now env packets setupPending).1.repairRound nm now, true) := by
  unfold stallRepair
  cases htick : c.stallTick g now env packets setupPending with
  | mk d asked =>
      cases asked with
      | false => exact .inl rfl
      | true =>
          cases hdeclines : d.declinesRepair nm now env with
          | true => exact .inl (by simp [callStalled, hdeclines])
          | false => exact .inr ⟨rfl, by simp [callStalled, hdeclines]⟩

theorem adds_stallRepair (packets : Nat) (setupPending : Bool) :
    c.Adds (c.stallRepair g nm now env packets setupPending).1 := by
  have htick : c.Adds (c.stallTick g now env packets setupPending).1 := adds_stallTick _ _
  obtain heq | ⟨-, heq⟩ := stallRepair_cases g nm now env c packets setupPending
  · rw [heq]
    exact htick
  · rw [heq]
    exact htick

end Call

end VoxSdk
