import VoxSdk.Proof.FmtpRewrite

/-!
# The bitrate controller

A tick either leaves the encoder alone or steps to a target: half the rate, not below the minimum, or a
quarter more, not above the maximum. The rate it starts from is the one it applied last, or the maximum. As
long as that is within the bounds the steps go where they should; a rate set by hand below the minimum is
stepped up by a lossy tick, one above the maximum is stepped down by a clean one.
-/

namespace VoxSdk

open Reactive Reactive.Machine

/-! ### One tick -/

namespace AdaptSys

/-- The controller would go to `next`, and the encoder would take it. -/
def Applies (env : AdaptEnv) (next : UInt32) (s : AdaptSys) : Prop :=
  next ≠ s.cur ∧ ∃ fmtp, appliedFmtp env s.params next = .ok fmtp

/-- Everything a tick can do: nothing, count a clean tick, start counting again, or step. -/
inductive TickStep (s : AdaptSys) (env : AdaptEnv) (packetsSent : UInt32) (rttMs lossPct : ℚ) :
    AdaptSys × List AdaptOut → Prop where
  | ignored : s.looksAt env packetsSent rttMs = false → TickStep s env packetsSent rttMs lossPct (s, [])
  | counted : s.looksAt env packetsSent rttMs = true → lossPct ≤ s.cfg.adaptUpPct →
      TickStep s env packetsSent rttMs lossPct ({ s with adaptCleanTicks := s.adaptCleanTicks + 1 }, [])
  | held : s.looksAt env packetsSent rttMs = true →
      TickStep s env packetsSent rttMs lossPct ({ s with adaptCleanTicks := 0 }, [])
  | down (fmtp : CStr) : s.looksAt env packetsSent rttMs = true → s.cfg.adaptDownPct < lossPct →
      s.nextDown ≠ s.cur → appliedFmtp env s.params s.nextDown = .ok fmtp →
      TickStep s env packetsSent rttMs lossPct
        ({ s with adaptCleanTicks := 0, adaptBitrate := s.nextDown, encoder := fmtp },
          [.encoderSet s.nextDown fmtp])
  | up (fmtp : CStr) : s.looksAt env packetsSent rttMs = true → lossPct ≤ s.cfg.adaptUpPct →
      s.cfg.recoverTicks ≤ s.adaptCleanTicks + 1 → s.nextUp ≠ s.cur →
      appliedFmtp env s.params s.nextUp = .ok fmtp →
      TickStep s env packetsSent rttMs lossPct
        ({ s with adaptCleanTicks := 0, adaptBitrate := s.nextUp, encoder := fmtp },
          [.encoderSet s.nextUp fmtp])

variable {s : AdaptSys} {env : AdaptEnv}

theorem stepTo_cases (env : AdaptEnv) (next : UInt32) (s : AdaptSys) :
    s.stepTo env next = (s, []) ∨
      ∃ fmtp, next ≠ s.cur ∧ appliedFmtp env s.params next = .ok fmtp ∧
        s.stepTo env next =
          ({ s with adaptBitrate := next, encoder := fmtp }, [.encoderSet next fmtp]) := by
  by_cases hcur : next = s.cur
  · exact Or.inl (if_pos hcur)
  · cases happlied : appliedFmtp env s.params next with
    | error err =>
        left
        simp only [stepTo, if_neg hcur, voxAdaptApplyBitrate, happlied]
    | ok fmtp =>
        right
        refine ⟨fmtp, hcur, rfl, ?_⟩
        simp only [stepTo, if_neg hcur, voxAdaptApplyBitrate, happlied]

theorem tickStep (s : AdaptSys) (env : AdaptEnv) (packetsSent : UInt32) (rttMs lossPct : ℚ) :
    TickStep s env packetsSent rttMs lossPct (s.bitrateTick env packetsSent rttMs lossPct) := by
  unfold bitrateTick
  split_ifs with hlooks hdown hup hcount
  · exact .ignored hlooks
  · have hlooks := Bool.not_eq_false _ ▸ hlooks
    obtain hsame | ⟨fmtp, hcur, happlied, hstep⟩ :=
      stepTo_cases env s.nextDown { s with adaptCleanTicks := 0 }
    · exact hsame ▸ .held hlooks
    · exact hstep ▸ .down fmtp hlooks hdown hcur happlied
  · exact .counted (Bool.not_eq_false _ ▸ hlooks) hup
  · have hlooks := Bool.not_eq_false _ ▸ hlooks
    obtain hsame | ⟨fmtp, hcur, happlied, hstep⟩ :=
      stepTo_cases env s.nextUp { s with adaptCleanTicks := 0 }
    · exact hsame ▸ .held hlooks
    · exact hstep ▸ .up fmtp hlooks hup (UInt32.not_lt.mp hcount) hcur happlied
  · exact .held (Bool.not_eq_false _ ▸ hlooks)

/-- The API call changes nothing, or sets the rate and has given it to the encoder. -/
theorem voxsdkCallSetBitrate_cases (env : AdaptEnv) (bitrateBps : UInt32) (s : AdaptSys) :
    (∃ r, r ≠ .ok ∧ s.voxsdkCallSetBitrate env bitrateBps = (s, [.result r])) ∨
      ∃ fmtp, appliedFmtp env s.params bitrateBps = .ok fmtp ∧
        s.voxsdkCallSetBitrate env bitrateBps =
          ({ s with adaptBitrate := bitrateBps, encoder := fmtp },
            [.encoderSet bitrateBps fmtp, .result .ok]) := by
  by_cases hrange : bitrateBps ≠ 0 ∧ (bitrateBps < adaptBrMin ∨ adaptBrMax < bitrateBps)
  · exact Or.inl ⟨.inval, by decide, if_pos hrange⟩
  · cases happlied : appliedFmtp env s.params bitrateBps with
    | error err =>
        left
        rw [voxsdkCallSetBitrate, if_neg hrange, setBitrateFn, voxAdaptApplyBitrate, happlied]
        cases err <;> exact ⟨_, by decide, rfl⟩
    | ok fmtp =>
        right
        refine ⟨fmtp, rfl, ?_⟩
        rw [voxsdkCallSetBitrate, if_neg hrange, setBitrateFn, voxAdaptApplyBitrate, happlied]
        rfl

end AdaptSys

/-! ### What a run has seen -/

/-- The rate the encoder was given last, 0 before the first one and after a restore, and how many clean
ticks there were in a row, since the last raise. -/
structure RateLog where
  asked : UInt32
  streak : Nat

/-- The rate a step gave the encoder, if it gave it one. -/
def rateGiven (outs : List AdaptOut) : Option UInt32 :=
  outs.findSome? fun
    | .encoderSet bitrate _ => some bitrate
    | .result _ => none

/-- The encoder's rate, that of an unadapted one standing for the maximum. -/
def rateOf (cfg : AdaptCfg) (asked : UInt32) : UInt32 := if asked ≠ 0 then asked else cfg.adaptMaxBr

namespace RateLog

variable (s : AdaptSys) (act : AdaptAct) (outs : List AdaptOut) (h : RateLog)

def askedNext : UInt32 := (rateGiven outs).getD h.asked

def raised : Prop := rateOf s.cfg h.asked < rateOf s.cfg (askedNext outs h)

instance : Decidable (raised s outs h) := inferInstanceAs (Decidable (_ < _))

def streakNext : Nat :=
  match act with
  | .tick _ _ lossPct _ =>
      if lossPct ≤ s.cfg.adaptUpPct then (if raised s outs h then 0 else h.streak + 1) else 0
  | _ => h.streak

def next : RateLog := { asked := askedNext outs h, streak := streakNext s act outs h }

end RateLog

/-- Calls with their rates and clean ticks. -/
def ratedSystem : Machine (AdaptSys × RateLog) AdaptAct AdaptOut :=
  adaptSystem.withHistory ⟨0, 0⟩ RateLog.next

/-! ### The right way -/

/-- A tick with loss `lossPct` moves the encoder's rate the right way, and only to rates within the
bounds. -/
structure MovesRight (p : AdaptSys × RateLog) (lossPct : ℚ) (p' : AdaptSys × RateLog)
    (outs : List AdaptOut) : Prop where
  lossy : p.1.cfg.adaptDownPct < lossPct → rateOf p.1.cfg p'.2.asked ≤ rateOf p.1.cfg p.2.asked
  clean : lossPct ≤ p.1.cfg.adaptUpPct → rateOf p.1.cfg p.2.asked ≤ rateOf p.1.cfg p'.2.asked
  band : ¬p.1.cfg.adaptDownPct < lossPct → ¬lossPct ≤ p.1.cfg.adaptUpPct →
    rateOf p.1.cfg p'.2.asked = rateOf p.1.cfg p.2.asked
  patient : rateOf p.1.cfg p.2.asked < rateOf p.1.cfg p'.2.asked →
    p.1.cfg.recoverTicks.toNat ≤ p.2.streak + 1
  bounded : ∀ bitrate fmtp, .encoderSet bitrate fmtp ∈ outs →
    p.1.cfg.adaptMinBr ≤ bitrate ∧ bitrate ≤ p.1.cfg.adaptMaxBr

/-- A step down does not raise the encoder's rate when half the controller's rate and the minimum do not,
and ends below the maximum when that half does. -/
def DownFits (p : AdaptSys × RateLog) : Prop :=
  p.1.cur / 2 ≤ rateOf p.1.cfg p.2.asked ∧ p.1.cfg.adaptMinBr ≤ rateOf p.1.cfg p.2.asked ∧
    p.1.cur / 2 ≤ p.1.cfg.adaptMaxBr

/-- The same for a step up. -/
def UpFits (p : AdaptSys × RateLog) : Prop :=
  rateOf p.1.cfg p.2.asked ≤ p.1.cur + p.1.cur / 4 ∧
    rateOf p.1.cfg p.2.asked ≤ p.1.cfg.adaptMaxBr ∧ p.1.cfg.adaptMinBr ≤ p.1.cur + p.1.cur / 4

/-- A tick that steps finds the rate where the step fits; one the controller does not look at is clean,
or finds no clean ticks counted. -/
def FitsTick (p : AdaptSys × RateLog) (act : AdaptAct) : Prop :=
  ∀ packetsSent rttMs lossPct env, act = .tick packetsSent rttMs lossPct env →
    if p.1.looksAt env packetsSent rttMs = true then
      (p.1.cfg.adaptDownPct < lossPct → p.1.Applies env p.1.nextDown → DownFits p) ∧
        (lossPct ≤ p.1.cfg.adaptUpPct → p.1.cfg.recoverTicks ≤ p.1.adaptCleanTicks + 1 →
          p.1.Applies env p.1.nextUp → UpFits p)
    else lossPct ≤ p.1.cfg.adaptUpPct ∨ p.1.adaptCleanTicks = 0

section Proofs

variable {p p' : AdaptSys × RateLog} {env : AdaptEnv} {packetsSent : UInt32} {rttMs lossPct : ℚ}

theorem adaptUpPct_lt (g : AdaptCfg) : g.adaptUpPct < g.adaptDownPct := by
  have hpos : 0 < g.adaptDownPct := by
    unfold AdaptCfg.adaptDownPct
    split
    · assumption
    · norm_num
  simp only [AdaptCfg.adaptUpPct]
  split_ifs <;> linarith

theorem adaptMinBr_le (g : AdaptCfg) : g.adaptMinBr ≤ g.adaptMaxBr := by
  unfold AdaptCfg.adaptMaxBr
  generalize g.adaptMinBr = m
  extract_lets v w
  split
  · exact UInt32.le_refl m
  · next h => exact UInt32.not_lt.mp h

theorem nextDown_le {s : AdaptSys} {bitrate : UInt32} (hhalf : s.cur / 2 ≤ bitrate)
    (hmin : s.cfg.adaptMinBr ≤ bitrate) : s.nextDown ≤ bitrate := by
  unfold AdaptSys.nextDown
  split
  · exact hmin
  · exact hhalf

theorem adaptMinBr_le_nextDown (s : AdaptSys) : s.cfg.adaptMinBr ≤ s.nextDown := by
  unfold AdaptSys.nextDown
  split
  · exact UInt32.le_refl _
  · next hmin => exact UInt32.not_lt.mp hmin

theorem nextUp_le {s : AdaptSys} {bitrate : UInt32}
    (h : s.cfg.adaptMaxBr ≤ bitrate ∨ s.cur + s.cur / 4 ≤ bitrate) : s.nextUp ≤ bitrate := by
  unfold AdaptSys.nextUp
  split
  · next hover =>
      obtain hmax | hmore := h
      · exact hmax
      · exact UInt32.le_trans (UInt32.le_of_lt hover) hmore
  · next hunder =>
      obtain hmax | hmore := h
      · exact UInt32.le_trans (UInt32.not_lt.mp hunder) hmax
      · exact hmore

theorem le_nextUp {s : AdaptSys} {bitrate : UInt32} (hmax : bitrate ≤ s.cfg.adaptMaxBr)
    (hmore : bitrate ≤ s.cur + s.cur / 4) : bitrate ≤ s.nextUp := by
  unfold AdaptSys.nextUp
  split
  · exact hmax
  · exact hmore

theorem nextDown_mem (h : DownFits p) :
    p.1.nextDown ≤ rateOf p.1.cfg p.2.asked ∧ p.1.cfg.adaptMinBr ≤ p.1.nextDown ∧
      p.1.nextDown ≤ p.1.cfg.adaptMaxBr := by
  obtain ⟨hhalf, hmin, hmax⟩ := h
  exact ⟨nextDown_le hhalf hmin, adaptMinBr_le_nextDown p.1, nextDown_le hmax (adaptMinBr_le _)⟩

theorem nextUp_mem (h : UpFits p) :
    rateOf p.1.cfg p.2.asked ≤ p.1.nextUp ∧ p.1.cfg.adaptMinBr ≤ p.1.nextUp ∧
      p.1.nextUp ≤ p.1.cfg.adaptMaxBr := by
  obtain ⟨hmore, hmax, hmin⟩ := h
  exact ⟨le_nextUp hmax hmore, le_nextUp (adaptMinBr_le _) hmin, nextUp_le (.inl (UInt32.le_refl _))⟩

theorem ratedSystem_step {act : AdaptAct} {outs : List AdaptOut}
    (h : ratedSystem.step p act = some (p', outs)) :
    p.1.handle act = (p'.1, outs) ∧ p'.2 = RateLog.next p.1 act outs p.2 := by
  obtain ⟨hstep, hnext⟩ := withHistory_step.mp h
  exact ⟨Option.some.inj hstep, hnext⟩

theorem adaptBrMin_le (g : AdaptCfg) : adaptBrMin ≤ g.adaptMinBr := by
  unfold AdaptCfg.adaptMinBr
  extract_lets v
  split
  · exact UInt32.le_refl _
  · next h => exact UInt32.not_lt.mp h

theorem adaptMinBr_pos (g : AdaptCfg) : 0 < g.adaptMinBr :=
  UInt32.lt_of_lt_of_le (by decide : (0 : UInt32) < adaptBrMin) (adaptBrMin_le g)

theorem rateOf_of_le {g : AdaptCfg} {bitrate : UInt32} (h : g.adaptMinBr ≤ bitrate) :
    rateOf g bitrate = bitrate := by
  have hpos := UInt32.lt_of_lt_of_le (adaptMinBr_pos g) h
  exact if_pos (UInt32.ne_of_lt hpos).symm

theorem movesRight_of_still {outs : List AdaptOut} (hnone : outs = [])
    (hasked : p'.2.asked = p.2.asked) : MovesRight p lossPct p' outs where
  lossy _ := hasked ▸ UInt32.le_refl _
  clean _ := hasked ▸ UInt32.le_refl _
  band _ _ := by rw [hasked]
  patient h := absurd (hasked ▸ h) (UInt32.lt_irrefl _)
  bounded := by
    subst hnone
    intro bitrate fmtp h
    cases h

theorem movesRight_of_down {bitrate : UInt32} {fmtp : CStr} (hloss : p.1.cfg.adaptDownPct < lossPct)
    (hrate : rateOf p.1.cfg p'.2.asked ≤ rateOf p.1.cfg p.2.asked)
    (hbounds : p.1.cfg.adaptMinBr ≤ bitrate ∧ bitrate ≤ p.1.cfg.adaptMaxBr) :
    MovesRight p lossPct p' [.encoderSet bitrate fmtp] where
  lossy _ := hrate
  clean hclean := absurd (hclean.trans_lt (adaptUpPct_lt p.1.cfg)) (not_lt.mpr hloss.le)
  band hnot := absurd hloss hnot
  patient hraise := absurd hraise (UInt32.not_lt.mpr hrate)
  bounded := by
    intro bitrate' fmtp' hmem
    cases List.mem_singleton.mp hmem
    exact hbounds

theorem movesRight_of_up {bitrate : UInt32} {fmtp : CStr} (hclean : lossPct ≤ p.1.cfg.adaptUpPct)
    (hrate : rateOf p.1.cfg p.2.asked ≤ rateOf p.1.cfg p'.2.asked)
    (hticks : p.1.cfg.recoverTicks.toNat ≤ p.2.streak + 1)
    (hbounds : p.1.cfg.adaptMinBr ≤ bitrate ∧ bitrate ≤ p.1.cfg.adaptMaxBr) :
    MovesRight p lossPct p' [.encoderSet bitrate fmtp] where
  lossy hloss := absurd (hclean.trans_lt (adaptUpPct_lt p.1.cfg)) (not_lt.mpr hloss.le)
  clean _ := hrate
  band _ hnot := absurd hclean hnot
  patient _ := hticks
  bounded := by
    intro bitrate' fmtp' hmem
    cases List.mem_singleton.mp hmem
    exact hbounds

/-- No more clean ticks are counted than there were. -/
def CountsTicks (p : AdaptSys × RateLog) : Prop := p.1.adaptCleanTicks.toNat ≤ p.2.streak

theorem toNat_succ_le (n : UInt32) : (n + 1).toNat ≤ n.toNat + 1 := by
  rw [UInt32.toNat_add]
  exact Nat.mod_le _ _

theorem streakNext_still (s : AdaptSys) (h : RateLog) :
    RateLog.streakNext s (.tick packetsSent rttMs lossPct env) [] h =
      if lossPct ≤ s.cfg.adaptUpPct then h.streak + 1 else 0 := by
  have hsame : ¬RateLog.raised s [] h := UInt32.lt_irrefl _
  rw [RateLog.streakNext, if_neg hsame]

/-- A tick that finds no more clean ticks counted than there were, and the rate where its step fits. -/
theorem tick_movesRight (hcount : CountsTicks p) (hfits : FitsTick p (.tick packetsSent rttMs lossPct env))
    {outs : List AdaptOut}
    (hstep : ratedSystem.step p (.tick packetsSent rttMs lossPct env) = some (p', outs)) :
    CountsTicks p' ∧ MovesRight p lossPct p' outs := by
  obtain ⟨s', h'⟩ := p'
  obtain ⟨hhandle, hlog⟩ := ratedSystem_step hstep
  have hfits := hfits packetsSent rttMs lossPct env rfl
  have htick := p.1.tickStep env packetsSent rttMs lossPct
  rw [show p.1.bitrateTick env packetsSent rttMs lossPct = (s', outs) from hhandle] at htick
  simp only at hlog
  subst hlog
  cases htick with
  | ignored hlooks =>
      refine ⟨?_, movesRight_of_still rfl rfl⟩
      rw [if_neg (by simp [hlooks])] at hfits
      rw [CountsTicks, RateLog.next, streakNext_still]
      by_cases hclean : lossPct ≤ p.1.cfg.adaptUpPct
      · rw [if_pos hclean]
        exact Nat.le_succ_of_le hcount
      · rw [if_neg hclean, hfits.resolve_left hclean]
        exact le_rfl
  | counted hlooks hclean =>
      refine ⟨?_, movesRight_of_still rfl rfl⟩
      rw [CountsTicks, RateLog.next, streakNext_still, if_pos hclean]
      exact (toNat_succ_le _).trans (Nat.succ_le_succ hcount)
  | held hlooks => exact ⟨Nat.zero_le _, movesRight_of_still rfl rfl⟩
  | down fmtp hlooks hloss hcur happlied =>
      rw [if_pos hlooks] at hfits
      obtain ⟨hle, hmin, hmax⟩ := nextDown_mem (hfits.1 hloss ⟨hcur, fmtp, happlied⟩)
      have hrate : rateOf p.1.cfg p.1.nextDown ≤ rateOf p.1.cfg p.2.asked := (rateOf_of_le hmin).symm ▸ hle
      exact ⟨Nat.zero_le _, movesRight_of_down hloss hrate ⟨hmin, hmax⟩⟩
  | up fmtp hlooks hclean hticks hcur happlied =>
      rw [if_pos hlooks] at hfits
      obtain ⟨hle, hmin, hmax⟩ := nextUp_mem (hfits.2 hclean hticks ⟨hcur, fmtp, happlied⟩)
      have hrate : rateOf p.1.cfg p.2.asked ≤ rateOf p.1.cfg p.1.nextUp := (rateOf_of_le hmin).symm ▸ hle
      have hstreak : p.1.cfg.recoverTicks.toNat ≤ p.2.streak + 1 :=
        calc p.1.cfg.recoverTicks.toNat
            ≤ (p.1.adaptCleanTicks + 1).toNat := UInt32.le_iff_toNat_le.mp hticks
          _ ≤ p.1.adaptCleanTicks.toNat + 1 := toNat_succ_le _
          _ ≤ p.2.streak + 1 := Nat.succ_le_succ hcount
      exact ⟨Nat.zero_le _, movesRight_of_up hclean hrate hstreak ⟨hmin, hmax⟩⟩

theorem counted_of_not_tick {act : AdaptAct} (hact : ∀ n r l e, act ≠ .tick n r l e)
    (hcount : CountsTicks p) {outs : List AdaptOut} (hstep : ratedSystem.step p act = some (p', outs)) :
    CountsTicks p' := by
  obtain ⟨s', h'⟩ := p'
  obtain ⟨hhandle, hlog⟩ := ratedSystem_step hstep
  simp only at hlog
  subst hlog
  match act with
  | .tick n r l e => exact absurd rfl (hact n r l e)
  | .callStart =>
      cases hhandle
      exact Nat.zero_le _
  | .setAdaptive enabled minBps maxBps =>
      cases hhandle
      exact hcount
  | .setBitrate bitrate env =>
      obtain ⟨r, -, hsame⟩ | ⟨fmtp, -, hset⟩ := p.1.voxsdkCallSetBitrate_cases env bitrate
      · cases hhandle.symm.trans hsame
        exact hcount
      · cases hhandle.symm.trans hset
        exact hcount

theorem countsTicks_run {t : Trace AdaptAct AdaptOut} (hrun : ratedSystem.Run FitsTick p t) : CountsTicks p := by
  refine hrun.stateInvariant ?_ ?_
  · rintro ⟨s, h⟩ ⟨⟨-, hticks, -⟩, rfl⟩
    exact (congrArg UInt32.toNat hticks).le
  · intro p act p' outs hcount hfits hstep
    by_cases htick : ∃ n r l e, act = .tick n r l e
    · obtain ⟨n, r, l, e, rfl⟩ := htick
      exact (tick_movesRight hcount hfits hstep).1
    · exact counted_of_not_tick (fun n r l e h => htick ⟨n, r, l, e, h⟩) hcount hstep

/-- **The controller moves the right way while the rate is within its reach.** In every run of stats ticks
and API calls in which each tick that steps finds the rate where the step fits, every tick moves the rate
the right way, raises it only after enough clean ticks, and stays within the bounds. -/
theorem controller_moves_right {t : Trace AdaptAct AdaptOut} {outs : List AdaptOut}
    (hrun : ratedSystem.Run FitsTick p t) (hfits : FitsTick p (.tick packetsSent rttMs lossPct env))
    (hstep : ratedSystem.step p (.tick packetsSent rttMs lossPct env) = some (p', outs)) :
    MovesRight p lossPct p' outs :=
  (tick_movesRight (countsTicks_run hrun) hfits hstep).2

end Proofs

theorem ratedSystem_handle (p : AdaptSys × RateLog) (act : AdaptAct) :
    ratedSystem.step p act =
      some (((p.1.handle act).1, RateLog.next p.1 act (p.1.handle act).2 p.2), (p.1.handle act).2) :=
  rfl

theorem opusCall_init (params : CStr) : ratedSystem.init (.opusCall params, ⟨0, 0⟩) :=
  ⟨⟨rfl, rfl, rfl⟩, rfl⟩

theorem controller_moves_right_halved :
    ∃ p' outs, ratedSystem.step (.opusCall [], ⟨0, 0⟩) (.tick 100 20 10 .willing) = some (p', outs) ∧
      MovesRight (.opusCall [], ⟨0, 0⟩) 10 p' outs ∧ p'.2.asked = 16000 := by
  refine ⟨_, _, ratedSystem_handle _ _, ?_, by decide +kernel⟩
  refine controller_moves_right (.start (opusCall_init [])) ?_ (ratedSystem_handle _ _)
  rintro n r l e heq
  cases heq
  rw [if_pos (by decide +kernel)]
  refine ⟨fun _ _ => ⟨by decide, by decide, by decide⟩, fun hclean => absurd hclean (by decide +kernel)⟩

/-- A rate of 6000 set by hand is below the minimum, and a lossy tick raises it to 12000. -/
theorem lossy_tick_raises :
    ¬∀ (p p' : AdaptSys × RateLog) (t : Trace AdaptAct AdaptOut) (outs : List AdaptOut) (packetsSent : UInt32)
      (rttMs lossPct : ℚ) (env : AdaptEnv), ratedSystem.Run Always p t →
        ratedSystem.step p (.tick packetsSent rttMs lossPct env) = some (p', outs) →
          MovesRight p lossPct p' outs := by
  intro hall
  have hrun := Run.step (C := Always) (.start (opusCall_init [])) trivial
    (ratedSystem_handle (.opusCall [], ⟨0, 0⟩) (.setBitrate 6000 .willing))
  have hright := hall _ _ _ _ 100 20 10 .willing hrun (ratedSystem_handle _ _)
  have hlossy := hright.lossy (by decide +kernel)
  revert hlossy
  decide +kernel

end VoxSdk
