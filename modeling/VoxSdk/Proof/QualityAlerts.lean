import VoxSdk.Lib.Alternation
import VoxSdk.Proof.MosScore

/-!
# Quality alerts

A tick compares each of three metrics with its threshold, before and after, and posts an alert when the
answer has changed. What was before is read from the last sample, not from the last alert. A sample without
RTCP reads as no loss and no jitter, and clears those alerts; it reads as no MOS either, but then the MOS is
not compared and only its last value is overwritten: whatever alert was up is forgotten.
-/

namespace VoxSdk

open Reactive Reactive.Machine

/-! ### Beyond a threshold -/

/-- A metric of a record is beyond its threshold; one that is not above zero is switched off. -/
def StatsCfg.beyond (g : StatsCfg) (s : MediaStats) : QualityIssue → Bool
  | .mos => decide (0 < g.mosAlertThreshold) && decide (s.mosLq < g.mosAlertThreshold)
  | .loss => decide (0 < g.lossAlertThreshold) && decide (g.lossAlertThreshold < s.lossPct)
  | .jitter => decide (0 < g.jitterAlertThreshold) && decide (g.jitterAlertThreshold < s.jitterMs)
  | .rtt | .mediaStall => false

/-- The call's memory of it: the last sample, where no MOS is not a bad one. -/
def StatsCall.wasBeyond (g : StatsCfg) (lc : StatsCall) : QualityIssue → Bool
  | .mos =>
      decide (0 < g.mosAlertThreshold) &&
        (decide (0 < lc.lastMosLq) && decide (lc.lastMosLq < g.mosAlertThreshold))
  | .loss => decide (0 < g.lossAlertThreshold) && decide (g.lossAlertThreshold < lc.lastLossPct)
  | .jitter => decide (0 < g.jitterAlertThreshold) && decide (g.jitterAlertThreshold < lc.lastJitterMs)
  | .rtt | .mediaStall => false

/-- The `recovering` flags of the alerts for one issue. -/
def alertsOf (issue : QualityIssue) (outs : List StatsOut) : List Bool :=
  outs.filterMap fun
    | .alert a => if a.issue = issue then some a.recovering else none
    | _ => none

/-- The alerts for an issue take turns, degraded first, and after a tick with an RTCP report the last one
says whether the metric reported is beyond its threshold. -/
structure Faithful (g : StatsCfg) (issue : QualityIssue) (t : Trace StatsAct StatsOut) : Prop where
  alternates : Alternates (alertsOf issue t.outs)
  matches_tick : ∀ t' now au os s, t = t' ++ [(.tick now (some au), os)] → au.rtcp.isSome →
    .stats s ∈ os → begun (alertsOf issue t.outs) = g.beyond s issue

/-! ### One tick -/

section Tick

variable {g : StatsCfg} {lc : StatsCall} {s : MediaStats} {issue : QualityIssue}

theorem alertsOf_append (os os' : List StatsOut) :
    alertsOf issue (os ++ os') = alertsOf issue os ++ alertsOf issue os' :=
  List.filterMap_append

/-- A metric that is switched off is never beyond its threshold, and posts nothing. -/
theorem alertsOf_crossing (issue' : QualityIssue) (value threshold : ℚ) (was is : Bool) (on : Prop)
    [Decidable on] :
    alertsOf issue ((if on then crossing issue' value threshold was is else []).map .alert) =
      if issue' = issue then
        (if (decide on && is) ≠ (decide on && was) then [decide on && was] else [])
      else [] := by
  by_cases hon : on
  · by_cases hchange : is ≠ was
    · by_cases hissue : issue' = issue <;> simp [crossing, hon, hchange, alertsOf, hissue]
    · simp [crossing, hon, hchange, alertsOf]
  · simp [hon, alertsOf]

theorem alertsOf_lossAlerts :
    alertsOf issue ((lc.lossAlerts g s).map .alert) =
      if .loss = issue then
        (if g.beyond s .loss ≠ lc.wasBeyond g .loss then [lc.wasBeyond g .loss] else [])
      else [] :=
  alertsOf_crossing ..

theorem alertsOf_jitterAlerts :
    alertsOf issue ((lc.jitterAlerts g s).map .alert) =
      if .jitter = issue then
        (if g.beyond s .jitter ≠ lc.wasBeyond g .jitter then [lc.wasBeyond g .jitter] else [])
      else [] :=
  alertsOf_crossing ..

/-- Where there is a MOS it is compared like the others. -/
theorem alertsOf_mosAlerts (hmos : 0 < s.mosLq) :
    alertsOf issue ((lc.mosAlerts g s).map .alert) =
      if .mos = issue then
        (if g.beyond s .mos ≠ lc.wasBeyond g .mos then [lc.wasBeyond g .mos] else [])
      else [] := by
  simp only [StatsCall.mosAlerts, hmos, and_true]
  exact alertsOf_crossing ..

theorem alertsOf_mosAlerts_of_ne (h : .mos ≠ issue) :
    alertsOf issue ((lc.mosAlerts g s).map .alert) = [] :=
  (alertsOf_crossing ..).trans (if_neg h)

theorem alertsOf_mosAlerts_of_none (hmos : s.mosLq = 0) :
    alertsOf issue ((lc.mosAlerts g s).map .alert) = [] := by
  simp [StatsCall.mosAlerts, hmos, alertsOf]

end Tick

/-! ### The record of a tick -/

section Record

variable (g : StatsCfg) (now : Nat) (au : AudioStream) (lc : StatsCall)

/-- What a tick reports. -/
def StatsCall.ticked : MediaStats :=
  (lc.sampled g au).2.withHistory g now false (lc.sampled g au).1

theorem collectCallStats_eq :
    lc.collectCallStats g now au =
      ({ (lc.sampled g au).2 with
          lastMosLq := (lc.ticked g now au).mosLq
          lastLossPct := (lc.ticked g now au).lossPct
          lastJitterMs := (lc.ticked g now au).jitterMs },
        ((lc.sampled g au).2.mosAlerts g (lc.ticked g now au) ++
          (lc.sampled g au).2.lossAlerts g (lc.ticked g now au) ++
          (lc.sampled g au).2.jitterAlerts g (lc.ticked g now au)).map .alert ++
            [.stats (lc.ticked g now au)]) := rfl

theorem wasBeyond_sampled (issue : QualityIssue) :
    (lc.sampled g au).2.wasBeyond g issue = lc.wasBeyond g issue := by
  have hlast : (lc.sampled g au).2.lastMosLq = lc.lastMosLq ∧
      (lc.sampled g au).2.lastLossPct = lc.lastLossPct ∧
      (lc.sampled g au).2.lastJitterMs = lc.lastJitterMs := by
    cases hrtcp : au.rtcp <;> simp [StatsCall.sampled, StatsCall.fillAudioStats, hrtcp, StatsCall.advanced]
  obtain ⟨hmos, hloss, hjitter⟩ := hlast
  cases issue <;> simp only [StatsCall.wasBeyond, hmos, hloss, hjitter]

theorem calcMos_lq_pos (lossPct jitterMs jbMs rttMs : ℚ) (method : MosMethod) (cp : CodecParams) :
    0 < (calcMos lossPct jitterMs jbMs rttMs method cp).lq := by
  cases method with
  | emodel => exact mosOfScaled_pos _
  | simplified => exact one_pos.trans_le (clampMos_mem _).1

variable {au}

theorem mosLq_ticked_pos (h : au.rtcp.isSome) : 0 < (lc.ticked g now au).mosLq := by
  obtain ⟨rs, hrs⟩ := Option.isSome_iff_exists.mp h
  simp only [StatsCall.ticked, StatsCall.sampled, StatsCall.fillAudioStats, hrs,
    StatsCall.withHistory, MediaStats.txMos]
  exact calcMos_lq_pos _ _ _ _ _ _

theorem mosLq_ticked_of_none (h : au.rtcp = none) : (lc.ticked g now au).mosLq = 0 := by
  simp only [StatsCall.ticked, StatsCall.sampled, StatsCall.fillAudioStats, h,
    StatsCall.withHistory, AudioStream.measured]

end Record

/-! ### Steps -/

section Step

variable (g : StatsCfg) (lc : StatsCall) (now : Nat) {au : AudioStream} {issue : QualityIssue}

/-- With a report, and for loss and jitter also without, a tick posts what the change asks for and
remembers the new answer. -/
theorem tick_change (hissue : issue = .loss ∨ issue = .jitter ∨ issue = .mos ∧ au.rtcp.isSome) :
    alertsOf issue (lc.collectCallStats g now au).2 =
        (if g.beyond (lc.ticked g now au) issue ≠ lc.wasBeyond g issue then [lc.wasBeyond g issue]
          else []) ∧
      (lc.collectCallStats g now au).1.wasBeyond g issue = g.beyond (lc.ticked g now au) issue := by
  have hstats : alertsOf issue [.stats (lc.ticked g now au)] = [] := rfl
  rw [collectCallStats_eq, List.map_append, List.map_append, alertsOf_append, alertsOf_append,
    alertsOf_append, alertsOf_lossAlerts, alertsOf_jitterAlerts, hstats]
  simp only [wasBeyond_sampled]
  obtain rfl | rfl | ⟨rfl, hrtcp⟩ := hissue
  · rw [alertsOf_mosAlerts_of_ne (by decide)]
    exact ⟨by simp only [reduceCtorEq, reduceIte, List.append_nil, List.nil_append], rfl⟩
  · rw [alertsOf_mosAlerts_of_ne (by decide)]
    exact ⟨by simp only [reduceCtorEq, reduceIte, List.append_nil, List.nil_append], rfl⟩
  · have hmos := mosLq_ticked_pos g now lc hrtcp
    rw [alertsOf_mosAlerts hmos, wasBeyond_sampled]
    refine ⟨by simp only [reduceCtorEq, reduceIte, List.append_nil], ?_⟩
    simp only [StatsCall.wasBeyond, StatsCfg.beyond, hmos, decide_true, Bool.true_and]

/-- Without a report no MOS alert is posted, and none is remembered. -/
theorem tick_forgets (hrtcp : au.rtcp = none) :
    alertsOf .mos (lc.collectCallStats g now au).2 = [] ∧
      (lc.collectCallStats g now au).1.wasBeyond g .mos = false := by
  have hmos := mosLq_ticked_of_none g now lc hrtcp
  have hstats : alertsOf .mos [.stats (lc.ticked g now au)] = [] := rfl
  rw [collectCallStats_eq, List.map_append, List.map_append, alertsOf_append, alertsOf_append,
    alertsOf_append, alertsOf_lossAlerts, alertsOf_jitterAlerts, hstats,
    alertsOf_mosAlerts_of_none hmos]
  refine ⟨rfl, ?_⟩
  simp only [StatsCall.wasBeyond, hmos, lt_irrefl, decide_false, Bool.false_and, Bool.and_false]

end Step

/-! ### Runs -/

/-- The alerts so far alternate, and the last sample remembers whether one is up. -/
structure Remembered (g : StatsCfg) (issue : QualityIssue) (lc : StatsCall)
    (t : Trace StatsAct StatsOut) : Prop where
  alternates : Alternates (alertsOf issue t.outs)
  remembered : begun (alertsOf issue t.outs) = lc.wasBeyond g issue

/-- A tick without an RTCP report finds no bad MOS as the last one. -/
def KeepsMos (g : StatsCfg) (lc : StatsCall) (act : StatsAct) : Prop :=
  ∀ now au, act = .tick now (some au) → au.rtcp = none →
    ¬(0 < lc.lastMosLq ∧ lc.lastMosLq < g.mosAlertThreshold)

section Runs

variable {g : StatsCfg} {lc lc' : StatsCall} {t : Trace StatsAct StatsOut} {issue : QualityIssue}

theorem alertsOf_outs_snoc (act : StatsAct) (os : List StatsOut) :
    alertsOf issue (Trace.outs (t ++ [(act, os)])) = alertsOf issue t.outs ++ alertsOf issue os := by
  rw [Trace.outs_append, Trace.outs_singleton, alertsOf_append]

theorem Remembered.init (h : (statsSystem g).init lc) : Remembered g issue lc [] := by
  obtain ⟨start, rfl⟩ := h
  refine ⟨alternates_nil, ?_⟩
  have hbelow : ∀ x : ℚ, 0 < x → ¬x < 0 := fun x hpos => not_lt.mpr hpos.le
  cases issue <;> simp +contextual [StatsCall.wasBeyond, StatsCall.zero, alertsOf, hbelow]

theorem Remembered.quiet (h : Remembered g issue lc t) {act : StatsAct} {os : List StatsOut}
    (hnone : alertsOf issue os = []) (hsame : lc'.wasBeyond g issue = lc.wasBeyond g issue) :
    Remembered g issue lc' (t ++ [(act, os)]) := by
  constructor <;> rw [alertsOf_outs_snoc, hnone, List.append_nil]
  · exact h.alternates
  · exact h.remembered.trans hsame.symm

theorem Remembered.tick (h : Remembered g issue lc t) {now : Nat} {au : AudioStream}
    (hissue : issue = .loss ∨ issue = .jitter ∨ issue = .mos ∧ au.rtcp.isSome) :
    Remembered g issue (lc.collectCallStats g now au).1
      (t ++ [(.tick now (some au), (lc.collectCallStats g now au).2)]) := by
  obtain ⟨hposts, hanswer⟩ := tick_change g lc now hissue
  have hchange := h.alternates.append_change h.remembered (g.beyond (lc.ticked g now au) issue)
  constructor <;> rw [alertsOf_outs_snoc, hposts]
  · exact hchange.1
  · exact hchange.2.trans hanswer.symm

theorem Remembered.step (h : Remembered g issue lc t) {act : StatsAct} {os : List StatsOut}
    (hissue : issue = .loss ∨ issue = .jitter ∨ issue = .mos ∧ KeepsMos g lc act)
    (hstep : (statsSystem g).step lc act = some (lc', os)) :
    Remembered g issue lc' (t ++ [(act, os)]) := by
  obtain ⟨rfl, rfl⟩ := Prod.ext_iff.mp (Option.some.inj hstep)
  match act with
  | .tick now none => exact h.quiet rfl rfl
  | .getStats _ none | .getStats _ (some _) => exact h.quiet rfl rfl
  | .final _ none | .final _ (some _) => exact h.quiet rfl rfl
  | .tick now (some au) =>
      obtain rfl | rfl | ⟨rfl, hkeeps⟩ := hissue
      · exact h.tick (Or.inl rfl)
      · exact h.tick (Or.inr (Or.inl rfl))
      · cases hrtcp : au.rtcp with
        | some rs => exact h.tick (Or.inr (Or.inr ⟨rfl, by rw [hrtcp]; rfl⟩))
        | none =>
            obtain ⟨hnone, hforgot⟩ := tick_forgets g lc now hrtcp
            refine h.quiet hnone (hforgot.trans ?_)
            have hgood := hkeeps now au rfl hrtcp
            simp only [StatsCall.wasBeyond, ← Bool.decide_and, hgood, decide_false, Bool.and_false]

end Runs

end VoxSdk
