import VoxSdk.Lib.Alternation
import VoxSdk.Proof.CallTurns

/-!
# Stall alerts

A tick that finds the packet counter where it was for `media_stall_ms` raises a stall. Ticks restart the clock
while the call is on hold or migrating, but nothing else does: a hold no tick falls into leaves it running, and
the first tick after it counts the hold as silence. And establishing a call once more drops the flag without an
alert.
-/

namespace VoxSdk

open Reactive Reactive.Machine

/-! ### What an observer of one call notes -/

/-- The call is up, and neither on hold nor migrating. -/
def Call.carriesMedia (c : Call) : Bool :=
  decide (c.state = .established) && !c.localHold && !c.netMigState.isPending

/-- The `recovering` flags of the stall alerts for a call. -/
def stallsOf (id : Nat) (os : List SysOut) : List Bool :=
  os.filterMap fun
    | .mediaStall call _ recovered => if call = id then some recovered else none
    | _ => none

/-- The packets the last tick sampled, for how long the call has been free to carry media, how much of that
it has been quiet, and whether the clock still counts from before it was. -/
structure StallLog where
  heard : Nat
  free : Nat
  quiet : Nat
  stale : Bool
  alerts : List Bool

namespace StallLog

/-- A call nobody has seen anything of. -/
def fresh : StallLog := { heard := 0, free := 0, quiet := 0, stale := true, alerts := [] }

def pass (ms : Nat) (carries : Bool) (log : StallLog) : StallLog :=
  if ms = 0 then log
  else if carries then { log with free := log.free + ms, quiet := log.quiet + ms }
  else { log with free := 0, quiet := 0, stale := true }

/-- A counter that has moved to anything but zero has counted a packet. -/
def tick (packets : Nat) (onhold restarts : Bool) (log : StallLog) : StallLog :=
  { log with
    heard := packets
    free := if onhold then 0 else log.free
    quiet :=
      if onhold then 0
      else if packets ≠ log.heard ∧ packets ≠ 0 then 0
      else log.quiet
    stale := log.stale && !restarts }

/-- What a step adds to the notes about the call with the id `k`. -/
def next (k : Nat) (s : Sys) (act : SysAct) (os : List SysOut) (log : StallLog) : StallLog :=
  let log := { log with alerts := log.alerts ++ stallsOf k os }
  match act with
  | .createCall id .. => if id = k then fresh else log
  | .elapse ms => log.pass ms (s.hasCall k Call.carriesMedia)
  | .callEstablished id => if id = k then { log with stale := false } else log
  | .statsTick id packets _ env =>
      if id = k then
        log.tick packets (env.call k).onhold <|
          s.hasCall k fun c => c.stallSuppressed env || decide (packets ≠ c.stallRxPackets)
      else log
  | _ => log

end StallLog

/-- The SDK, with the notes about one call. -/
def stallSystem (g : Cfg) (k : Nat) : Machine (Sys × StallLog) SysAct SysOut :=
  (system g).withHistory .fresh (StallLog.next k)

/-- After a step: a stall was raised only if the call has been quiet long enough, the alerts take turns,
raised first, and the flag is up just when one has been raised and not recovered. -/
structure HonestStalls (g : Cfg) (k : Nat) (p : Sys × StallLog) (os : List SysOut) : Prop where
  raised : ∀ elapsedMs, .mediaStall k elapsedMs false ∈ os → g.mediaStallMs ≤ p.2.quiet
  alternates : Alternates p.2.alerts
  flag : ∀ c ∈ p.1.calls, c.id = k → c.stallActive = begun p.2.alerts

/-- A tick takes the call for stalled only by a clock that some tick, or the call's start, has set since it was
last kept from carrying media, or else when it has been free for long enough anyway; and no call with its flag
up is established again. -/
def clockIsFresh (g : Cfg) (k : Nat) (p : Sys × StallLog) : SysAct → Bool
  | .statsTick id packets setupPending env =>
      !(decide (id = k) && p.1.hasCall k fun c =>
          !c.stallSuppressed env && c.stallDetected g p.1.now packets setupPending)
        || !p.2.stale || decide (g.mediaStallMs ≤ p.2.free)
  | .callEstablished id => !(decide (id = k) && p.1.hasCall k Call.stallActive)
  | _ => true

/-! ### The alerts of a handler -/

section Alerts

variable {k : Nat} {os os' : List SysOut}

@[simp]
theorem stallsOf_nil (k : Nat) : stallsOf k [] = [] := rfl

theorem stallsOf_append : stallsOf k (os ++ os') = stallsOf k os ++ stallsOf k os' :=
  List.filterMap_append

theorem stallsOf_filter {p : SysOut → Bool}
    (hp : ∀ elapsedMs recovered, p (.mediaStall k elapsedMs recovered) = true) :
    stallsOf k (os.filter p) = stallsOf k os := by
  induction os with
  | nil => rfl
  | cons o os ih =>
      have hcons (os : List SysOut) : stallsOf k (o :: os) = stallsOf k [o] ++ stallsOf k os := by
        rw [← List.singleton_append, stallsOf_append]
      cases hkeep : p o with
      | true => rw [List.filter_cons_of_pos hkeep, hcons, hcons os, ih]
      | false =>
          have hnone : stallsOf k [o] = [] := by
            cases o with
            | mediaStall call elapsedMs recovered =>
                have hne : call ≠ k := by
                  rintro rfl
                  simp [hp] at hkeep
                simp [stallsOf, hne]
            | _ => rfl
          rw [List.filter_cons_of_neg (by simp [hkeep]), hcons, hnone, List.nil_append, ih]

theorem stallsOf_said (s : Sys) : stallsOf k (s.said k) = stallsOf k s.out :=
  stallsOf_filter fun _ _ => decide_eq_true rfl

theorem stallsOf_isStall (os : List SysOut) : stallsOf k (os.filter SysOut.isStall) = stallsOf k os :=
  stallsOf_filter fun _ _ => rfl

theorem mem_stallsOf {elapsedMs : Nat} {recovered : Bool} (h : .mediaStall k elapsedMs recovered ∈ os) :
    recovered ∈ stallsOf k os :=
  List.mem_filterMap.mpr ⟨_, h, by simp⟩

end Alerts

/-! ### One tick of one call -/

/-- What the notes say about the call itself. With no tick since, the clock runs from before the call was last
free, and then it is all of that that the call has been quiet. -/
structure StallLog.Fits (g : Cfg) (now : Nat) (c : Call) (log : StallLog) : Prop where
  flag : c.stallActive = begun log.alerts
  counter : g.mediaStallMs ≠ 0 → c.stallRxPackets = log.heard ∨ c.stallRxPackets = 0
  clock : g.mediaStallMs ≠ 0 → log.stale = false → now - c.stallSince ≤ log.quiet
  quiet : g.mediaStallMs ≠ 0 → log.stale = true → log.quiet = log.free

namespace Call

variable {g : Cfg} {now : Nat} {env : NetEnv} {c d : Call} {log : StallLog} {packets : Nat}
  {setupPending : Bool}

/-- A clock that is set off again, whether the flag was up or not. -/
theorem stallRestart_spec (hout : c.out = []) (now packets : Nat) (hd : d = (c.stallClear 0).stallRestart now packets ∨
    d = (c.stallRestart now packets).stallClear 0) :
    d.stallActive = false ∧ d.stallRxPackets = packets ∧ d.stallSince = now ∧
      d.out = if c.stallActive then [.mediaStall c.id 0 true] else [] := by
  cases hflag : c.stallActive with
  | true => rcases hd with rfl | rfl <;> simp [stallClear, stallRestart, emit, hflag, hout]
  | false => rcases hd with rfl | rfl <;> simp [stallClear, stallRestart, hflag, hout]

/-- What a tick can do: nothing, as stalls are not reported; set the clock off again; find the call stalled;
or let the clock run on. -/
inductive StallTurn (g : Cfg) (now : Nat) (env : NetEnv) (packets : Nat) (setupPending : Bool) (c : Call) :
    Call → Prop where
  | unwatched : g.mediaStallMs = 0 → StallTurn g now env packets setupPending c c
  | restarts {d : Call} : (c.stallSuppressed env || decide (packets ≠ c.stallRxPackets)) = true →
      d.stallActive = false → d.stallRxPackets = packets → d.stallSince = now →
      d.out = (if c.stallActive then [.mediaStall c.id 0 true] else []) →
      StallTurn g now env packets setupPending c d
  | raises : c.stallSuppressed env = false → c.stallDetected g now packets setupPending = true →
      StallTurn g now env packets setupPending c
        (({ c with stallActive := true } : Call).emit (.mediaStall c.id (c.stallElapsed now) false))
  | runs : c.stallSuppressed env = false → packets = c.stallRxPackets →
      StallTurn g now env packets setupPending c c

theorem stallTurn (hout : c.out = []) :
    StallTurn g now env packets setupPending c (c.stallTick g now env packets setupPending).1 := by
  unfold stallTick
  split
  · exact .unwatched ‹_›
  · split
    · rename_i hsuppressed
      obtain ⟨hflag, hcounter, hsince, hout'⟩ := stallRestart_spec hout now packets (.inl rfl)
      exact .restarts (by simp [hsuppressed]) hflag hcounter hsince hout'
    · rename_i hsuppressed
      have hsuppressed : c.stallSuppressed env = false := Bool.eq_false_iff.mpr hsuppressed
      split
      · rename_i hmoved
        obtain ⟨hflag, hcounter, hsince, hout'⟩ := stallRestart_spec hout now packets (.inr rfl)
        exact .restarts (by simp [hmoved]) hflag hcounter hsince hout'
      · rename_i hstill
        split
        · exact .raises hsuppressed ‹_›
        · exact .runs hsuppressed (not_not.mp hstill)

/-- A stall that is detected has been none before, and the counter has stood still for long enough. -/
theorem stallDetected_spec (h : c.stallDetected g now packets setupPending = true) :
    packets = c.stallRxPackets ∧ c.stallActive = false ∧ g.mediaStallMs ≤ now - c.stallSince := by
  simp only [stallDetected, Bool.and_eq_true, decide_eq_true_eq, Bool.not_eq_true'] at h
  obtain ⟨⟨⟨hstill, hflag⟩, hlong⟩, -⟩ := h
  refine ⟨hstill, hflag, hlong.trans ?_⟩
  exact Nat.mod_le _ _

theorem StallTurn.alerts (h : StallTurn g now env packets setupPending c d) (hout : c.out = []) :
    stallsOf c.id d.out = if d.stallActive ≠ c.stallActive then [c.stallActive] else [] := by
  cases h with
  | unwatched _ | runs _ _ => simp [hout]
  | restarts _ hflag _ _ hposts =>
      rw [hposts, hflag]
      cases c.stallActive <;> simp [stallsOf]
  | raises _ hdetected =>
      obtain ⟨-, hflag, -⟩ := stallDetected_spec hdetected
      simp [emit, hout, hflag, stallsOf]

/-- The notes of an observer who has seen the call ticked. -/
def tickedLog (packets : Nat) (env : NetEnv) (c d : Call) (log : StallLog) : StallLog :=
  ({ log with alerts := log.alerts ++ stallsOf c.id d.out } : StallLog).tick packets (env.call c.id).onhold
    (c.stallSuppressed env || decide (packets ≠ c.stallRxPackets))

/-- A counter that stands where it stood has heard nothing new, and the call is not on hold. -/
theorem tickedLog_of_still (hfits : log.Fits g now c) (hwatched : g.mediaStallMs ≠ 0)
    (hsuppressed : c.stallSuppressed env = false) (hstill : packets = c.stallRxPackets) :
    tickedLog packets env c d log =
      { log with heard := packets, alerts := log.alerts ++ stallsOf c.id d.out } := by
  have honhold : (env.call c.id).onhold = false := by
    simp only [stallSuppressed, onHold, Bool.or_eq_false_iff] at hsuppressed
    exact hsuppressed.1.2
  have hheard : ¬(packets ≠ log.heard ∧ packets ≠ 0) := by
    rintro ⟨hmoved, hpos⟩
    rcases hfits.counter hwatched with heard | hzero
    · exact hmoved (hstill.trans heard)
    · exact hpos (hstill.trans hzero)
  have hsame : decide (packets ≠ c.stallRxPackets) = false := by simp [hstill]
  simp only [tickedLog, StallLog.tick, honhold, if_neg hheard, hsuppressed, hsame, Bool.or_false,
    Bool.not_false, Bool.and_true, Bool.false_eq_true, if_false]

theorem fits_of_still (hfits : log.Fits g now c) (hsuppressed : c.stallSuppressed env = false)
    (hstill : packets = c.stallRxPackets) (hcounter : d.stallRxPackets = c.stallRxPackets)
    (hsince : d.stallSince = c.stallSince)
    (hflag : d.stallActive = begun (tickedLog packets env c d log).alerts) :
    (tickedLog packets env c d log).Fits g now d := by
  constructor
  · exact hflag
  · exact fun _ => .inl (hcounter.trans hstill.symm)
  · intro hwatched hclock
    rw [tickedLog_of_still hfits hwatched hsuppressed hstill] at hclock ⊢
    exact hsince ▸ hfits.clock hwatched hclock
  · intro hwatched hstale
    rw [tickedLog_of_still hfits hwatched hsuppressed hstill] at hstale ⊢
    exact hfits.quiet hwatched hstale

theorem StallTurn.fits (h : StallTurn g now env packets setupPending c d) (hout : c.out = [])
    (hfits : log.Fits g now c) (halternates : Alternates log.alerts) :
    (tickedLog packets env c d log).Fits g now d ∧
      Alternates (tickedLog packets env c d log).alerts := by
  obtain ⟨halternates', hflag'⟩ := halternates.append_change hfits.flag.symm d.stallActive
  have hposts : (tickedLog packets env c d log).alerts =
      log.alerts ++ if d.stallActive ≠ c.stallActive then [c.stallActive] else [] :=
    congrArg (log.alerts ++ ·) (h.alerts hout)
  have hflag : d.stallActive = begun (tickedLog packets env c d log).alerts := by
    rw [hposts]
    exact hflag'.symm
  refine ⟨?_, hposts ▸ halternates'⟩
  cases h with
  | unwatched hoff => exact ⟨hflag, fun h => absurd hoff h, fun h => absurd hoff h, fun h => absurd hoff h⟩
  | restarts hrestarts _ hcounter hsince _ =>
      have hfresh : (tickedLog packets env c d log).stale = false := by
        simp only [tickedLog, StallLog.tick, hrestarts, Bool.not_true, Bool.and_false]
      refine ⟨hflag, fun _ => .inl hcounter, fun _ _ => ?_, fun _ hstale => ?_⟩
      · rw [hsince, Nat.sub_self]
        exact Nat.zero_le _
      · rw [hfresh] at hstale
        cases hstale
  | raises hsuppressed hdetected =>
      exact fits_of_still hfits hsuppressed (stallDetected_spec hdetected).1 rfl rfl hflag
  | runs hsuppressed hstill => exact fits_of_still hfits hsuppressed hstill rfl rfl hflag

/-- A stall raised by a clock that is fresh, or after long enough anyway, is one. -/
theorem StallTurn.raised (h : StallTurn g now env packets setupPending c d) (hout : c.out = [])
    (hfits : log.Fits g now c)
    (hfresh : c.stallSuppressed env = false → c.stallDetected g now packets setupPending = true →
      log.stale = false ∨ g.mediaStallMs ≤ log.free)
    (hraised : false ∈ stallsOf c.id d.out) :
    g.mediaStallMs ≤ (tickedLog packets env c d log).quiet := by
  cases h with
  | unwatched _ | runs _ _ => simp [hout] at hraised
  | restarts _ _ _ _ hposts =>
      rw [hposts] at hraised
      split at hraised <;> simp [stallsOf] at hraised
  | raises hsuppressed hdetected =>
      obtain hoff | hwatched := Nat.eq_zero_or_pos g.mediaStallMs
      · exact hoff ▸ Nat.zero_le _
      · have hwatched : g.mediaStallMs ≠ 0 := hwatched.ne'
        obtain ⟨hstill, -, hlong⟩ := stallDetected_spec hdetected
        rw [tickedLog_of_still hfits hwatched hsuppressed hstill]
        cases hstale : log.stale with
        | false => exact hlong.trans (hfits.clock hwatched hstale)
        | true =>
            calc g.mediaStallMs
                ≤ log.free := (hfresh hsuppressed hdetected).resolve_left (by simp [hstale])
              _ = log.quiet := (hfits.quiet hwatched hstale).symm

end Call

/-! ### Steps that are not about the stall -/

namespace Sys

variable {g : Cfg} {env : NetEnv} {k : Nat} {s s' s'' : Sys} {work : Call → Call}

/-- `s'` is `s` after work that says nothing of the stall of the call, and does nothing to it. -/
structure StallsKept (k : Nat) (s s' : Sys) : Prop where
  now : s'.now = s.now
  parts : ∀ e ∈ s'.calls, e.id = k → ∃ c ∈ s.calls, e.stallPart = c.stallPart
  stalls : stallsOf k s'.out = stallsOf k s.out

theorem StallsKept.of_eq (hnow : s'.now = s.now) (hcalls : s'.calls = s.calls) (hout : s'.out = s.out) :
    s.StallsKept k s' :=
  ⟨hnow, fun e he _ => ⟨e, hcalls ▸ he, rfl⟩, congrArg _ hout⟩

theorem StallsKept.trans (h : s.StallsKept k s') (h' : s'.StallsKept k s'') : s.StallsKept k s'' where
  now := h'.now.trans h.now
  parts := by
    intro e he hid
    obtain ⟨d, hd, hpart⟩ := h'.parts e he hid
    obtain ⟨c, hc, hpart'⟩ := h.parts d hd ((congrArg StallPart.id hpart).symm.trans hid)
    exact ⟨c, hc, hpart.trans hpart'⟩
  stalls := h'.stalls.trans h.stalls

theorem Quiet.stallsKept (h : s.Quiet s') : s.StallsKept k s' where
  now := h.now
  parts e he _ := ⟨e, h.calls ▸ he, rfl⟩
  stalls :=
    calc stallsOf k s'.out
        = stallsOf k (s'.said k) := (stallsOf_said s').symm
      _ = stallsOf k (s.said k) := congrArg _ (h.said k)
      _ = stallsOf k s.out := stallsOf_said s

theorem stallsOf_eq_nil {os : List SysOut} (h : ∀ o ∈ os, o.isStall = false) : stallsOf k os = [] := by
  have hnone : os.filter SysOut.isStall = [] :=
    List.filter_eq_nil_iff.mpr fun o ho => by simp [h o ho]
  rw [← stallsOf_isStall, hnone, stallsOf_nil]

theorem stallsOf_sweep {test : Call → Bool} {limit : Nat} {calls : List Call}
    (hwork : ∀ c : Call, c.SameStall (work c)) :
    stallsOf k (sweep test (fun c => (work c.idle).flush) limit calls).2 = [] := by
  refine stallsOf_eq_nil fun o ho => ?_
  rw [sweep_outs] at ho
  obtain ⟨c, -, ho⟩ := List.mem_flatMap.mp ho
  have hnone : (work c.idle).out.filter SysOut.isStall = [] := (hwork c.idle).out
  simpa using List.filter_eq_nil_iff.mp hnone o ho

theorem stallsKept_sweepCalls (hwork : ∀ c : Call, c.SameStall (work c)) :
    s.StallsKept k (s.sweepCalls work) where
  now := rfl
  parts := by
    intro e he _
    obtain ⟨-, ⟨c, hc, rfl⟩ | hrest⟩ := mem_sweepCalls he
    · exact ⟨c, List.mem_of_mem_take hc, (hwork c.idle).part⟩
    · exact ⟨e, List.mem_of_mem_drop hrest, rfl⟩
  stalls := by
    refine stallsOf_append.trans ?_
    rw [stallsOf_sweep hwork, List.append_nil]

theorem stallsKept_onCall (id : Nat) (hwork : ∀ c : Call, c.SameStall (work c)) :
    s.StallsKept k (s.onCall id work) where
  now := rfl
  parts := by
    intro e he _
    obtain ⟨c, hc, rfl⟩ | ⟨hmem, -⟩ | hmissed := mem_sweep he
    · exact ⟨c, (mem_reached hc).1, (hwork c.idle).part⟩
    · exact ⟨e, hmem, rfl⟩
    · exact ⟨e, (mem_missed hmissed).1, rfl⟩
  stalls := by
    refine stallsOf_append.trans ?_
    rw [stallsOf_sweep hwork, List.append_nil]

theorem stallsKept_onOther {id : Nat} (hne : id ≠ k) (hadds : ∀ c : Call, c.Adds (work c)) :
    s.StallsKept k (s.onCall id work) where
  now := rfl
  parts := by
    intro e he hid
    obtain ⟨c, hc, rfl⟩ | ⟨hmem, -⟩ | hmissed := mem_sweep he
    · have hcid : c.id = id := of_decide_eq_true (mem_reached hc).2
      exact absurd (hcid.symm.trans ((adds_id hadds c).symm.trans hid)) hne
    · exact ⟨e, hmem, rfl⟩
    · exact ⟨e, (mem_missed hmissed).1, rfl⟩
  stalls := by
    let outs := (sweep (fun c => decide (c.id = id)) (fun c => (work c.idle).flush) 1 s.calls).2
    have hnone : outs.filter (SysOut.ofCall k) = [] := by
      refine List.filter_eq_nil_iff.mpr fun o ho => ?_
      obtain ⟨c, hc, ho⟩ := List.mem_flatMap.mp ((congrArg (o ∈ ·) sweep_outs).mp ho)
      have hcid : c.id = id := of_decide_eq_true (mem_reached hc).2
      rw [adds_owns hadds c o ho k, decide_eq_true_eq, hcid]
      exact hne.symm
    calc stallsOf k (s.out ++ outs)
        = stallsOf k s.out ++ stallsOf k outs := stallsOf_append
      _ = stallsOf k s.out ++ stallsOf k (outs.filter (SysOut.ofCall k)) :=
          congrArg _ (stallsOf_filter fun _ _ => decide_eq_true rfl).symm
      _ = stallsOf k s.out := by rw [hnone, stallsOf_nil, List.append_nil]

theorem stallsKept_settleHandler (hstarted : s.nm.started = true) :
    s.StallsKept k (s.settleHandler g env) := by
  rcases settleHandler_turns g env s hstarted with ⟨-, -, hquiet⟩ | ⟨-, -, r, err, hr, hquiet⟩ |
    ⟨-, -, r, hr, heq⟩
  · exact hquiet.stallsKept
  · have hfail : r.StallsKept k (r.failPendingMigrations g env err) :=
      stallsKept_sweepCalls fun c => (Call.works_failPending err).sameStall
    exact (hr.stallsKept.trans hfail).trans hquiet.stallsKept
  · have hnew : s.StallsKept k s.newGeneration := .of_eq rfl rfl rfl
    have hkept := hnew.trans hr.stallsKept
    rw [heq]
    split
    · have hstart : r.StallsKept k (r.migrateCalls g env) :=
        (stallsKept_sweepCalls fun c => Call.works_startMigration.sameStall).trans (.of_eq rfl rfl rfl)
      exact hkept.trans hstart
    · exact hkept

/-- Whether an event is one in the life of the stall of the call with the id. -/
def concernsStall (k : Nat) : SysAct → Bool
  | .createCall id .. | .callEstablished id | .statsTick id .. => decide (id = k)
  | .elapse _ => true
  | _ => false

theorem stallsKept_handle (hstarted : s.nm.started = true) {act : SysAct}
    (hact : concernsStall k act = false) : s.StallsKept k (s.handle g act) := by
  cases act with
  | elapse ms => cases hact
  | createAccount _ _ _ | destroyAccount _ | setMonitor _ | setPolicy _ _ | localAddr _ =>
      exact .of_eq rfl rfl rfl
  | account id act => exact (quiet_onAccount id act).stallsKept
  | createCall id acct state =>
      refine ⟨rfl, fun e he hid => ?_, rfl⟩
      rcases List.mem_append.mp he with he | he
      · exact ⟨e, he, rfl⟩
      · obtain rfl := List.mem_singleton.mp he
        exact absurd hid (of_decide_eq_false hact)
  | callRinging id | callHeld id | callLocalHold id hold =>
      simp only [handle]
      exact stallsKept_onCall id fun _ => .of_eq (by rfl) (by rfl)
  | callResumed id =>
      exact (stallsKept_onCall id fun _ => .of_eq (by rfl) (by rfl)).trans
        (quiet_callRefreshable id).stallsKept
  | callEstablished id =>
      exact (stallsKept_onOther (of_decide_eq_false hact) fun _ => .of_eq (by rfl) (by rfl)).trans
        (quiet_callRefreshable id).stallsKept
  | callSdpAnswer id env => exact stallsKept_onCall id fun _ => Call.works_sdpAnswer.sameStall
  | callClosed id => exact ⟨rfl, fun e he _ => ⟨e, List.mem_of_mem_filter he, rfl⟩, rfl⟩
  | statsTick id packets setupPending env =>
      have hadds (c : Call) : c.Adds (c.stallRepair g s.nm s.now env packets setupPending).1 :=
        c.adds_stallRepair packets setupPending
      have hkept := stallsKept_onOther (s := s) (of_decide_eq_false hact) hadds
      simp only [handle]
      rcases statsTick_eq g env s id packets setupPending with heq | heq <;> rw [heq]
      · exact hkept
      · exact hkept.trans (.of_eq rfl rfl rfl)
  | networkChanged env => exact (quiet_netmonTrigger env true).stallsKept
  | pollFires env =>
      have hidle : s.StallsKept k { s with nm.tmrPoll := none } := .of_eq rfl rfl rfl
      obtain ⟨tmrPoll, heq⟩ := pollHandler_eq (s := { s with nm.tmrPoll := none }) env hstarted
      simp only [handle]
      rw [heq]
      exact (hidle.trans (quiet_netmonTrigger env false).stallsKept).trans (.of_eq rfl rfl rfl)
  | settleFires env =>
      have hidle : s.StallsKept k { s with nm.tmrSettle := none } := .of_eq rfl rfl rfl
      exact hidle.trans (stallsKept_settleHandler hstarted)
  | verifyFires env =>
      have hidle : s.StallsKept k { s with nm.tmrVerify := none } := .of_eq rfl rfl rfl
      simp only [handle]
      rw [verifyHandler_of_started (s := { s with nm.tmrVerify := none }) hstarted]
      exact (hidle.trans (stallsKept_sweepCalls fun c => Call.works_verify.sameStall)).trans
        (.of_eq rfl rfl rfl)

end Sys

/-! ### Runs -/

/-- The notes so far, and what they say about the call. -/
structure Watched (g : Cfg) (k : Nat) (p : Sys × StallLog) : Prop where
  tidy : p.1.Tidy
  alternates : Alternates p.2.alerts
  fits : ∀ c ∈ p.1.calls, c.id = k → p.2.Fits g p.1.now c

section Step

variable {g : Cfg} {k : Nat} {s s' : Sys} {log log' : StallLog} {act : SysAct}

theorem StallLog.Fits.congr {now : Nat} {c d : Call} (h : log.Fits g now c)
    (hpart : d.stallPart = c.stallPart) : log.Fits g now d := by
  have hcounter : d.stallRxPackets = c.stallRxPackets := congrArg StallPart.stallRxPackets hpart
  have hsince : d.stallSince = c.stallSince := congrArg StallPart.stallSince hpart
  have hflag : d.stallActive = c.stallActive := congrArg StallPart.stallActive hpart
  exact ⟨hflag.trans h.flag, hcounter ▸ h.counter, hsince ▸ h.clock, h.quiet⟩

theorem StallLog.Fits.pass {now : Nat} {c : Call} (h : log.Fits g now c) (ms : Nat) (carries : Bool) :
    (log.pass ms carries).Fits g (now + ms) c := by
  unfold StallLog.pass
  split
  · rename_i hzero
    rw [hzero, Nat.add_zero]
    exact h
  · split
    · refine ⟨h.flag, h.counter, fun hwatched hclock => ?_, fun hwatched hstale => ?_⟩
      · have hclock := h.clock hwatched hclock
        have hgoal : now + ms - c.stallSince ≤ log.quiet + ms := by omega
        exact hgoal
      · exact congrArg (· + ms) (h.quiet hwatched hstale)
    · exact ⟨h.flag, h.counter, fun _ hclock => absurd hclock (by simp), fun _ _ => rfl⟩

theorem alerts_pass (ms : Nat) (carries : Bool) : (log.pass ms carries).alerts = log.alerts := by
  unfold StallLog.pass
  split
  · rfl
  · split <;> rfl

/-- A step that is none in the life of the stall leaves the notes as they are. -/
theorem StallLog.next_of_not_concerns (hact : Sys.concernsStall k act = false) {os : List SysOut}
    (hnone : stallsOf k os = []) : log.next k s act os = log := by
  have hsame : { log with alerts := log.alerts ++ stallsOf k os } = log := by
    rw [hnone, List.append_nil]
  cases act with
  | elapse ms => cases hact
  | createCall id _ _ | callEstablished id | statsTick id _ _ _ =>
      simp only [StallLog.next, hsame]
      exact if_neg (of_decide_eq_false hact)
  | _ => exact hsame

theorem Watched.kept (h : Watched g k (s, log)) (htidy : s'.Tidy) (hkept : s.StallsKept k s') :
    Watched g k (s', log) := by
  refine ⟨htidy, h.alternates, fun e he hid => ?_⟩
  obtain ⟨c, hc, hpart⟩ := hkept.parts e he hid
  have hfits := h.fits c hc ((congrArg StallPart.id hpart).symm.trans hid)
  rw [hkept.now]
  exact hfits.congr hpart

/-- What holds of the notes after a step makes the step an honest one, up to what it raises. -/
theorem Watched.honest (h : Watched g k (s', log')) {os : List SysOut}
    (hraised : ∀ elapsedMs, .mediaStall k elapsedMs false ∈ os → g.mediaStallMs ≤ log'.quiet) :
    HonestStalls g k (s', log') os :=
  ⟨hraised, h.alternates, fun c hc hid => (h.fits c hc hid).flag⟩

/-- The one call with the number, before and after work on it. -/
theorem onCall_one (htidy : s.Tidy) (hout : s.out = []) {work : Call → Call}
    (hadds : ∀ c : Call, c.Adds (work c)) {r : Sys} (hquiet : (s.onCall k work).Quiet r) :
    (∃ c ∈ s.calls, c.id = k ∧ (∀ e ∈ r.calls, e.id = k → e = (work c.idle).idle) ∧
      stallsOf k r.out = stallsOf k (work c.idle).out ∧
        ∀ test, s.hasCall k test = test c) ∨
      (∀ e ∈ r.calls, e.id ≠ k) ∧ stallsOf k r.out = [] ∧ ∀ test, s.hasCall k test = false := by
  by_cases hmem : ∃ c ∈ s.calls, c.id = k
  · obtain ⟨c, hc, rfl⟩ := hmem
    obtain ⟨hself, hsaid⟩ := Sys.onCall_turn htidy hadds hc
    refine .inl ⟨c, hc, rfl, fun e he hid => ?_, ?_, fun test => ?_⟩
    · have hmem : e ∈ (s.onCall c.id work).ofId c.id :=
        List.mem_filter.mpr ⟨hquiet.calls ▸ he, decide_eq_true hid⟩
      rw [hself] at hmem
      exact List.mem_singleton.mp hmem
    · calc stallsOf c.id r.out
          = stallsOf c.id (r.said c.id) := (stallsOf_said r).symm
        _ = stallsOf c.id (s.said c.id ++ (work c.idle).out) := by rw [hquiet.said, hsaid]
        _ = stallsOf c.id (work c.idle).out := by
            rw [Sys.said, hout, List.filter_nil, List.nil_append]
    · rw [Sys.hasCall_eq, Sys.ofId_eq htidy.nodup hc, List.any_cons, List.any_nil, Bool.or_false]
  · have hnone : ∀ c ∈ s.calls, ¬decide (c.id = k) = true := fun c hc hid =>
      hmem ⟨c, hc, of_decide_eq_true hid⟩
    have hreached : reached (fun c : Call => decide (c.id = k)) 1 s.calls = [] := by
      rw [reached, List.filter_eq_nil_iff.mpr hnone, List.take_nil]
    refine .inr ⟨fun e he hid => ?_, ?_, fun test => List.any_eq_false.mpr fun c hc => ?_⟩
    · have hids : (s.onCall k work).calls.map Call.id = s.calls.map Call.id :=
        map_sweep (Sys.adds_id hadds)
      have hold : e.id ∈ s.calls.map Call.id := hids ▸ List.mem_map_of_mem (hquiet.calls ▸ he)
      obtain ⟨c, hc, hcid⟩ := List.mem_map.mp hold
      exact hmem ⟨c, hc, hcid.trans hid⟩
    · have hsilent : (s.onCall k work).out = [] := by
        change s.out ++ (sweep _ _ 1 s.calls).2 = []
        rw [sweep_outs, hreached, List.flatMap_nil, List.append_nil, hout]
      rw [← stallsOf_said, hquiet.said, stallsOf_said, hsilent, stallsOf_nil]
    · rw [Bool.and_eq_true, not_and]
      exact fun hid => absurd hid (hnone c hc)

theorem Watched.created {acct : Option CallAcct} {state : CallState}
    (hen : s.enabled (.createCall k acct state) = true)
    (htidy : (s.handle g (.createCall k acct state)).Tidy) :
    Watched g k (s.handle g (.createCall k acct state), .fresh) := by
  refine ⟨htidy, alternates_nil, fun e he heid => ?_⟩
  rcases List.mem_append.mp he with he | he
  · exact absurd heid (of_decide_eq_true (List.all_eq_true.mp hen e he))
  · obtain rfl := List.mem_singleton.mp he
    exact ⟨rfl, fun _ => .inr rfl, fun _ hclock => absurd hclock (by simp [StallLog.fresh]), fun _ _ => rfl⟩

theorem Watched.elapsed (h : Watched g k (s, log)) {ms : Nat} (htidy : (s.handle g (.elapse ms)).Tidy)
    (carries : Bool) : Watched g k (s.handle g (.elapse ms), log.pass ms carries) := by
  refine ⟨htidy, ?_, fun c hc hid => (h.fits c hc hid).pass ms carries⟩
  rw [alerts_pass]
  exact h.alternates

theorem Watched.established (h : Watched g k (s, log)) (hout : s.out = [])
    (htidy : (s.handle g (.callEstablished k)).Tidy)
    (hC : clockIsFresh g k (s, log) (.callEstablished k) = true) :
    Watched g k (s.handle g (.callEstablished k),
        log.next k s (.callEstablished k) (s.handle g (.callEstablished k)).out) ∧
      stallsOf k (s.handle g (.callEstablished k)).out = [] := by
  let work (c : Call) := ({ c with state := .established } : Call).adaptCallStart s.now
  have hquiet : (s.onCall k work).Quiet (s.handle g (.callEstablished k)) := Sys.quiet_callRefreshable k
  have hsame : ∀ os, stallsOf k os = [] →
      log.next k s (.callEstablished k) os = { log with stale := false } := by
    intro os hnone
    simp [StallLog.next, hnone]
  have hnow : (s.handle g (.callEstablished k)).now = s.now := hquiet.now
  obtain ⟨c, hc, hid, hone, hposts, htest⟩ | ⟨hgone, hnone, -⟩ :=
    onCall_one h.tidy hout (fun _ => .of_eq (by rfl) (by rfl)) hquiet
  · rw [hsame _ hposts]
    refine ⟨⟨htidy, h.alternates, fun e he heid => ?_⟩, hposts⟩
    obtain rfl := hone e he heid
    have hdown : c.stallActive = false := by
      have hdown : s.hasCall k Call.stallActive = false := by simpa [clockIsFresh] using hC
      rwa [htest] at hdown
    have hfits := h.fits c hc hid
    refine ⟨hdown.symm.trans hfits.flag, fun _ => .inr rfl, fun _ _ => ?_, fun _ hstale => ?_⟩
    · rw [hnow]
      exact (Nat.sub_self s.now).trans_le (Nat.zero_le _)
    · exact absurd hstale (by simp)
  · rw [hsame _ hnone]
    exact ⟨⟨htidy, h.alternates, fun e he heid => absurd heid (hgone e he)⟩, hnone⟩

theorem Watched.ticked (h : Watched g k (s, log)) (hout : s.out = []) {packets : Nat} {setupPending : Bool}
    {env : NetEnv} (hen : s.enabled (.statsTick k packets setupPending env) = true)
    (htidy : (s.handle g (.statsTick k packets setupPending env)).Tidy)
    (hC : clockIsFresh g k (s, log) (.statsTick k packets setupPending env) = true) {os : List SysOut}
    (hos : os = (s.handle g (.statsTick k packets setupPending env)).out) :
    Watched g k (s.handle g (.statsTick k packets setupPending env),
        log.next k s (.statsTick k packets setupPending env) os) ∧
      ∀ elapsedMs, .mediaStall k elapsedMs false ∈ os →
        g.mediaStallMs ≤ (log.next k s (.statsTick k packets setupPending env) os).quiet := by
  let work (c : Call) := (c.stallRepair g s.nm s.now env packets setupPending).1
  have hquiet : (s.onCall k work).Quiet (s.handle g (.statsTick k packets setupPending env)) := by
    rcases Sys.statsTick_eq g env s k packets setupPending with heq | heq
    · exact (congrArg (Sys.Quiet _) heq).mpr .refl
    · exact (congrArg (Sys.Quiet _) heq).mpr (.of_eq rfl rfl rfl rfl)
  obtain ⟨c, hc, rfl, hone, hposts, htest⟩ | ⟨-, -, hnone⟩ :=
    onCall_one h.tidy hout (fun c => c.adds_stallRepair packets setupPending) hquiet
  · let d := (c.idle.stallTick g s.now env packets setupPending).1
    have hturn : c.idle.StallTurn g s.now env packets setupPending d := Call.stallTurn rfl
    have hsame : (work c.idle).stallPart = d.stallPart ∧ (work c.idle).out = d.out := by
      obtain heq | ⟨-, heq⟩ := Call.stallRepair_cases g s.nm s.now env c.idle packets setupPending
      · simp only [work, heq]
        exact ⟨rfl, rfl⟩
      · simp only [work, heq]
        exact ⟨rfl, rfl⟩
    have hsaid : stallsOf c.id os = stallsOf c.idle.id d.out := by
      rw [hos, hposts, hsame.2]
      rfl
    have hnotes : log.next c.id s (.statsTick c.id packets setupPending env) os =
        Call.tickedLog packets env c.idle d log := by
      simp only [StallLog.next, if_true, htest, hsaid]
      rfl
    have hfits : log.Fits g s.now c.idle := (h.fits c hc rfl).congr rfl
    have hfresh : c.stallSuppressed env = false →
        c.stallDetected g s.now packets setupPending = true →
        log.stale = false ∨ g.mediaStallMs ≤ log.free := by
      intro hsuppressed hdetected
      simpa [clockIsFresh, htest, hsuppressed, hdetected] using hC
    obtain ⟨hfits', halternates'⟩ := hturn.fits rfl hfits h.alternates
    rw [hnotes]
    refine ⟨⟨htidy, halternates', fun e he heid => ?_⟩, fun elapsedMs hraised => ?_⟩
    · obtain rfl := hone e he heid
      have hnow : (s.handle g (.statsTick c.id packets setupPending env)).now = s.now := hquiet.now
      simp only [hnow]
      exact hfits'.congr hsame.1
    · exact hturn.raised rfl hfits hfresh (hsaid ▸ mem_stallsOf hraised)
  · rw [Sys.enabled, hnone] at hen
    cases hen

end Step

theorem Watched.init {g : Cfg} {k : Nat} {p : Sys × StallLog} (h : (stallSystem g k).init p) :
    Watched g k p := by
  obtain ⟨⟨now, up, curLaddr, hs⟩, hfresh⟩ := h
  rw [← Prod.mk.eta (p := p), hs, hfresh]
  exact ⟨⟨rfl, List.nodup_nil, fun c hc => by cases hc⟩, alternates_nil, fun c hc => by cases hc⟩

theorem Watched.step {g : Cfg} {k : Nat} {p p' : Sys × StallLog} {act : SysAct} {os : List SysOut}
    (h : Watched g k p) (hC : clockIsFresh g k p act = true)
    (hstep : (stallSystem g k).step p act = some (p', os)) :
    Watched g k p' ∧ HonestStalls g k p' os := by
  obtain ⟨s, log⟩ := p
  obtain ⟨s', log'⟩ := p'
  obtain ⟨hsys, hlog⟩ := withHistory_step.mp hstep
  obtain ⟨hen, hs', hos⟩ := system_step hsys
  simp only at hs' hos hlog
  have hidle : Watched g k (s.idle, log) := ⟨⟨h.tidy.started, h.tidy.nodup, h.tidy.live⟩, h.alternates, h.fits⟩
  have htidy : (s.idle.handle g act).Tidy := hidle.tidy.handle hen
  have hsilent (hnone : stallsOf k os = []) (elapsedMs : Nat) :
      .mediaStall k elapsedMs false ∈ os → g.mediaStallMs ≤ log'.quiet := by
    intro hraised
    have hmem := mem_stallsOf hraised
    rw [hnone] at hmem
    cases hmem
  suffices hboth : Watched g k (s', log') ∧ ∀ elapsedMs, .mediaStall k elapsedMs false ∈ os →
      g.mediaStallMs ≤ log'.quiet from ⟨hboth.1, hboth.1.honest hboth.2⟩
  cases hact : Sys.concernsStall k act with
  | false =>
      have hkept := Sys.stallsKept_handle (g := g) (s := s.idle) hidle.tidy.started hact
      have hnone : stallsOf k os = [] := by
        rw [hos, hs', hkept.stalls]
        rfl
      refine ⟨?_, hsilent hnone⟩
      rw [hlog, StallLog.next_of_not_concerns hact hnone, hs']
      exact hidle.kept htidy hkept
  | true =>
      cases act with
      | createCall id acct state =>
          obtain rfl : id = k := of_decide_eq_true hact
          have hnone : stallsOf id os = [] := by
            rw [hos, hs']
            rfl
          refine ⟨?_, hsilent hnone⟩
          have hlog : log' = .fresh := hlog.trans (if_pos rfl)
          rw [hlog, hs']
          exact .created hen htidy
      | callEstablished id =>
          obtain rfl : id = k := of_decide_eq_true hact
          obtain ⟨hwatched, hnone⟩ := hidle.established rfl htidy hC
          have hnone : stallsOf id os = [] := by
            rw [hos, hs', hnone]
          refine ⟨?_, hsilent hnone⟩
          rw [hlog, hos, hs']
          exact hwatched
      | statsTick id packets setupPending env =>
          obtain rfl : id = k := of_decide_eq_true hact
          rw [hlog, hs']
          exact hidle.ticked rfl hen htidy hC (hos.trans (congrArg Sys.out hs'))
      | elapse ms =>
          have hnone : stallsOf k os = [] := by
            rw [hos, hs']
            rfl
          refine ⟨?_, hsilent hnone⟩
          have hlog : log' = log.pass ms (s.hasCall k Call.carriesMedia) := by
            rw [hlog]
            simp only [StallLog.next, hnone, List.append_nil]
          rw [hlog, hs']
          exact hidle.elapsed htidy _
      | _ => cases hact

/-- **Stall alerts are honest.** In every run, if ticks go by a fresh clock and no call is established again
while its stall is up, a stall is raised only after enough silence, the alerts of a call take turns, and the
flag is up just between a raise and the recovery. -/
theorem stall_alerts_honest (g : Cfg) (k : Nat) :
    (stallSystem g k).EveryStep (fun p act => clockIsFresh g k p act = true)
      fun _ _ p' os => HonestStalls g k p' os :=
  everyStep_of_invariant (fun _ => Watched.init) fun _ _ _ _ h hC hstep => h.step hC hstep

/-! ### A hold between two ticks -/

/-- The call 1 is established, and a tick counts fifty packets of it. -/
def heardCall : List SysAct :=
  [.createCall 1 none .calling, .callEstablished 1, .statsTick 1 50 false .calm]

/-- Four seconds of silence. -/
def silentCall : List SysAct := heardCall ++ [.elapse 4000]

/-- A minute on hold, and no tick in it. -/
def heldCall : List SysAct := heardCall ++ [.callHeld 1, .elapse 60000, .callResumed 1]

/-- The next tick still counts fifty packets. -/
def stillTick : SysAct := .statsTick 1 50 false .calm

def raisesNext (elapsedMs quiet : Nat) (p : Sys × StallLog) : Bool :=
  ((stallSystem configInit 1).step p stillTick).any fun r =>
    decide (.mediaStall 1 elapsedMs false ∈ r.2) && decide (r.1.2.quiet = quiet)

theorem exists_raise {elapsedMs quiet : Nat} {p : Sys × StallLog} (h : raisesNext elapsedMs quiet p = true) :
    ∃ p' os, (stallSystem configInit 1).step p stillTick = some (p', os) ∧
      .mediaStall 1 elapsedMs false ∈ os ∧ p'.2.quiet = quiet := by
  obtain ⟨⟨p', os⟩, hstep, hboth⟩ := (Option.any_eq_true _ _).mp h
  rw [Bool.and_eq_true, decide_eq_true_eq, decide_eq_true_eq] at hboth
  exact ⟨p', os, hstep, hboth⟩

theorem stall_alerts_honest_silence :
    ∃ p os, HonestStalls configInit 1 p os ∧ .mediaStall 1 4000 false ∈ os := by
  obtain ⟨p, t, hrun, hend⟩ := exists_run_of_exec (M := stallSystem configInit 1)
    (clockIsFresh configInit 1) (s := (.justStarted configInit, .fresh)) ⟨justStarted_init _, rfl⟩ silentCall
    (fun p _ => clockIsFresh configInit 1 p stillTick && raisesNext 4000 4000 p) (by decide +kernel)
  obtain ⟨hfresh, hraises⟩ := Bool.and_eq_true_iff.mp hend
  obtain ⟨p', os, hstep, hmem, -⟩ := exists_raise hraises
  exact ⟨p', os, stall_alerts_honest configInit 1 p t stillTick p' os hrun hfresh hstep, hmem⟩

/-- A call taken off hold after a minute is reported stalled at once. -/
theorem hold_counts_as_silence :
    ¬∀ (g : Cfg) (k : Nat), (stallSystem g k).EveryStep Always fun _ _ p' os => HonestStalls g k p' os := by
  intro hall
  obtain ⟨p, t, hrun, hraises⟩ := exists_run_of_exec (M := stallSystem configInit 1) (fun _ _ => true)
    (s := (.justStarted configInit, .fresh)) ⟨justStarted_init _, rfl⟩ heldCall
    (fun p _ => raisesNext 60000 0 p) (by decide +kernel)
  obtain ⟨p', os, hstep, hmem, hquiet⟩ := exists_raise hraises
  have hhonest := hall configInit 1 p t stillTick p' os hrun.always trivial hstep
  have hlong : (4000 : Nat) ≤ 0 := hquiet ▸ hhonest.raised 60000 hmem
  cases hlong

end VoxSdk
