import Mathlib.Tactic.FieldSimp
import Mathlib.Tactic.GCongr
import Mathlib.Tactic.Linarith
import VoxSdk.Stats

/-!
# What the scores are worth

Both methods take loss and delay off a best value and bring the rest to the scale 1.0..4.5. The
simplified one clamps. The E-model converts its R factor with the cubic of G.107, which is 1 at 0 but
dips below 1 right after it and comes back only at 80 - √5400, about 6.5. Outside the dip the conversion
is monotone, and everything that is said of the scores follows; inside it nothing does.
-/

namespace VoxSdk

/-! ### The conversion -/

/-- The values of the scale 0..100 that the cubic takes below 1: those strictly between 0 and
80 - √5400. -/
def InDip (r : ℚ) : Prop := 0 < r ∧ r < 80 ∧ 5400 < (80 - r) ^ 2

theorem inDip_iff {r : ℚ} (hpos : 0 < r) (hlt : r < 100) : InDip r ↔ 160 * r - r ^ 2 - 1000 < 0 := by
  have hsquare : (80 - r) ^ 2 = 5400 - (160 * r - r ^ 2 - 1000) := by ring
  constructor
  · rintro ⟨-, -, hdip⟩
    linarith
  · intro hneg
    have hfar : 5400 < (80 - r) ^ 2 := by linarith
    refine ⟨hpos, not_le.mp fun hright => ?_, hfar⟩
    have hnear : (r - 80) * (100 - r) ≥ 0 := mul_nonneg (by linarith) (by linarith)
    nlinarith

theorem not_inDip_of_best {r : ℚ} (h : 100 ≤ r) : ¬InDip r := fun hdip => by linarith [hdip.2.1]

theorem mosOfScaled_of_nonpos {r : ℚ} (h : r ≤ 0) : mosOfScaled r = 1 := if_pos h

theorem mosOfScaled_of_best {r : ℚ} (h : 100 ≤ r) : mosOfScaled r = 45 / 10 := by
  rw [mosOfScaled, if_neg (by linarith), if_pos h]

theorem mosOfScaled_of_between {r : ℚ} (hpos : 0 < r) (hlt : r < 100) :
    mosOfScaled r = 1 + r * (160 * r - r ^ 2 - 1000) * (7 / 1000000) := by
  rw [mosOfScaled, if_neg (not_le.mpr hpos), if_neg (not_le.mpr hlt)]
  ring

theorem mosOfScaled_le (r : ℚ) : mosOfScaled r ≤ 45 / 10 := by
  by_cases hpos : 0 < r
  · by_cases hlt : r < 100
    · rw [mosOfScaled_of_between hpos hlt]
      nlinarith [mul_pos (sub_pos.mpr hlt) hpos, mul_pos hpos hpos]
    · exact (mosOfScaled_of_best (not_lt.mp hlt)).le
  · rw [mosOfScaled_of_nonpos (not_lt.mp hpos)]
    norm_num

theorem mosOfScaled_pos (r : ℚ) : 0 < mosOfScaled r := by
  by_cases hpos : 0 < r
  · by_cases hlt : r < 100
    · rw [mosOfScaled_of_between hpos hlt]
      nlinarith [mul_pos (sub_pos.mpr hlt) hpos, mul_pos hpos hpos, sq_nonneg (r - 10)]
    · rw [mosOfScaled_of_best (not_lt.mp hlt)]
      norm_num
  · rw [mosOfScaled_of_nonpos (not_lt.mp hpos)]
    norm_num

theorem one_le_mosOfScaled_iff (r : ℚ) : 1 ≤ mosOfScaled r ↔ ¬InDip r := by
  by_cases hpos : 0 < r
  · by_cases hlt : r < 100
    · have hsign : 0 ≤ r * (160 * r - r ^ 2 - 1000) ↔ 0 ≤ 160 * r - r ^ 2 - 1000 :=
        mul_nonneg_iff_of_pos_left hpos
      rw [mosOfScaled_of_between hpos hlt, inDip_iff hpos hlt, not_lt, ← hsign]
      constructor <;> intro h <;> linarith
    · rw [mosOfScaled_of_best (not_lt.mp hlt)]
      exact ⟨fun _ => not_inDip_of_best (not_lt.mp hlt), fun _ => by norm_num⟩
  · rw [mosOfScaled_of_nonpos (not_lt.mp hpos)]
    exact ⟨fun _ hdip => hpos hdip.1, fun _ => le_rfl⟩

theorem chord_nonneg {r r' : ℚ} (hr : 0 ≤ 160 * r - r ^ 2 - 1000) (hle : r ≤ r') (hr' : r' ≤ 100)
    (hpos : 0 < r) : 0 ≤ 160 * (r + r') - 1000 - (r ^ 2 + r * r' + r' ^ 2) := by
  by_cases hsum : r + r' ≤ 160
  · have hrest : 0 ≤ r' * (160 - r - r') := mul_nonneg (hpos.le.trans hle) (by linarith)
    calc (0 : ℚ)
        ≤ (160 * r - r ^ 2 - 1000) + r' * (160 - r - r') := add_nonneg hr hrest
      _ = 160 * (r + r') - 1000 - (r ^ 2 + r * r' + r' ^ 2) := by ring
  · have hprod : 0 ≤ (100 - r) * (100 - r') := mul_nonneg (by linarith) (by linarith)
    have hmid : 0 ≤ (r + r' - 160) * (200 - (r + r')) := mul_nonneg (by linarith) (by linarith)
    calc (0 : ℚ)
        ≤ (r + r' - 160) * (200 - (r + r')) + 100 * (210 - (r + r'))
            + (100 - r) * (100 - r') := by linarith
      _ = 160 * (r + r') - 1000 - (r ^ 2 + r * r' + r' ^ 2) := by ring

/-- Outside the dip a better R factor is never a worse score. -/
theorem mosOfScaled_mono {r r' : ℚ} (hr : ¬InDip r) (hr' : ¬InDip r') (hle : r ≤ r') :
    mosOfScaled r ≤ mosOfScaled r' := by
  by_cases hpos : 0 < r
  · by_cases hlt : r' < 100
    · have hback : 0 ≤ 160 * r - r ^ 2 - 1000 :=
        not_lt.mp fun hneg => hr ((inDip_iff hpos (hle.trans_lt hlt)).mpr hneg)
      have hchord := chord_nonneg hback hle hlt.le hpos
      have hgain : 0 ≤ (r' - r) * (160 * (r + r') - 1000 - (r ^ 2 + r * r' + r' ^ 2)) :=
        mul_nonneg (by linarith) hchord
      rw [mosOfScaled_of_between hpos (hle.trans_lt hlt),
        mosOfScaled_of_between (hpos.trans_le hle) hlt]
      calc 1 + r * (160 * r - r ^ 2 - 1000) * (7 / 1000000)
          ≤ 1 + r * (160 * r - r ^ 2 - 1000) * (7 / 1000000)
            + (r' - r) * (160 * (r + r') - 1000 - (r ^ 2 + r * r' + r' ^ 2)) * (7 / 1000000) := by
              linarith
        _ = 1 + r' * (160 * r' - r' ^ 2 - 1000) * (7 / 1000000) := by ring
    · rw [mosOfScaled_of_best (not_lt.mp hlt)]
      exact mosOfScaled_le r
  · rw [mosOfScaled_of_nonpos (not_lt.mp hpos)]
    exact (one_le_mosOfScaled_iff r').mpr hr'

/-! ### The clamp -/

theorem clampMos_eq (m : ℚ) : clampMos m = min (max m 1) (45 / 10) := by
  have hlow : (if m < 1 then 1 else m) = max m 1 := by
    by_cases h : m < 1
    · rw [if_pos h, max_eq_right h.le]
    · rw [if_neg h, max_eq_left (not_lt.mp h)]
  have hhigh : ∀ x : ℚ, (if 45 / 10 < x then 45 / 10 else x) = min x (45 / 10) := by
    intro x
    by_cases h : 45 / 10 < x
    · rw [if_pos h, min_eq_right h.le]
    · rw [if_neg h, min_eq_left (not_lt.mp h)]
  exact (hhigh _).trans (by rw [hlow])

theorem clampMos_mem (m : ℚ) : 1 ≤ clampMos m ∧ clampMos m ≤ 45 / 10 := by
  rw [clampMos_eq]
  exact ⟨le_min (le_max_right m 1) (by norm_num), min_le_right _ _⟩

theorem clampMos_mono {m m' : ℚ} (h : m ≤ m') : clampMos m ≤ clampMos m' := by
  rw [clampMos_eq, clampMos_eq]
  gcongr

/-! ### Paths -/

/-- What a path does to a call: loss in percent, times in milliseconds. -/
structure PathQuality where
  lossPct : ℚ
  jitterMs : ℚ
  jbMs : ℚ
  rttMs : ℚ
  lossPct_nonneg : 0 ≤ lossPct
  lossPct_le : lossPct ≤ 100
  jitterMs_nonneg : 0 ≤ jitterMs
  jbMs_nonneg : 0 ≤ jbMs
  rttMs_nonneg : 0 ≤ rttMs

namespace PathQuality

variable (p p' : PathQuality) (cp : CodecParams)

def score (method : MosMethod) : MosPair := calcMos p.lossPct p.jitterMs p.jbMs p.rttMs method cp

/-- More loss or more delay, or as much. -/
structure Worse : Prop where
  loss : p.lossPct ≤ p'.lossPct
  jitter : p.jitterMs ≤ p'.jitterMs
  jb : p.jbMs ≤ p'.jbMs
  rtt : p.rttMs ≤ p'.rttMs

/-- The one-way delay, half the round trip and the jitter buffer, is taken off slowly at first and
faster past 177.3 ms. -/
def delayImpairment : ℚ :=
  24 / 1000 * (p.rttMs / 2 + p.jbMs) + 11 / 100 * max (p.rttMs / 2 + p.jbMs - 1773 / 10) 0

/-- The listening rating of the E-model on the scale 0..100. -/
def ratingLq : ℚ :=
  (cp.bw.ro - (cp.ie + (95 - cp.ie) * (p.lossPct / (p.lossPct + cp.bpl)))) * 100 / cp.bw.rmax

/-- The conversational rating, which the delay makes worse. -/
def ratingCq : ℚ := p.ratingLq cp - p.delayImpairment * 100 / cp.bw.rmax

/-- Neither rating of the path is strictly between 0 and 80 - √5400. -/
def ClearOfDip : Prop := ¬InDip (p.ratingLq cp) ∧ ¬InDip (p.ratingCq cp)

end PathQuality

/-- Both scores are on the scale 1.0..4.5, the conversational one not above the listening one. -/
structure MosPair.OnScale (m : MosPair) : Prop where
  one_le_lq : 1 ≤ m.lq
  lq_le : m.lq ≤ 45 / 10
  one_le_cq : 1 ≤ m.cq
  cq_le : m.cq ≤ 45 / 10
  cq_le_lq : m.cq ≤ m.lq

/-- The scores of a path and of a worse one are on the scale, and the worse path's are not higher. -/
structure WellScored (method : MosMethod) (cp : CodecParams) (p p' : PathQuality) : Prop where
  better : (p.score cp method).OnScale
  worse : (p'.score cp method).OnScale
  lq_le : (p'.score cp method).lq ≤ (p.score cp method).lq
  cq_le : (p'.score cp method).cq ≤ (p.score cp method).cq

/-! ### The ratings -/

/-- What the ratings rely on of a codec. -/
structure CodecParams.Sane (cp : CodecParams) : Prop where
  ie_le : cp.ie ≤ 95
  bpl_pos : 0 < cp.bpl

theorem codecEmodelParams_sane (name : Option CStr) (srate bitrateKbps : UInt32) :
    (codecEmodelParams name srate bitrateKbps).Sane := by
  cases name with
  | none => constructor <;> norm_num [codecEmodelParams]
  | some name =>
      simp only [codecEmodelParams]
      split_ifs <;> constructor <;> norm_num

theorem BwClass.rmax_pos (bw : BwClass) : 0 < bw.rmax := by
  cases bw <;> norm_num [BwClass.rmax]

namespace PathQuality

variable {p p' : PathQuality} {cp : CodecParams}

theorem delayImpairment_nonneg (p : PathQuality) : 0 ≤ p.delayImpairment := by
  have hrtt := p.rttMs_nonneg
  have hjb := p.jbMs_nonneg
  unfold delayImpairment
  positivity

theorem delayImpairment_mono (h : p.Worse p') : p.delayImpairment ≤ p'.delayImpairment := by
  have hrtt := h.rtt
  have hjb := h.jb
  unfold delayImpairment
  gcongr

theorem lossTerm_mono (hcp : cp.Sane) (h : p.Worse p') :
    p.lossPct / (p.lossPct + cp.bpl) ≤ p'.lossPct / (p'.lossPct + cp.bpl) := by
  have hbpl := hcp.bpl_pos
  have hp := p.lossPct_nonneg
  have hp' := p'.lossPct_nonneg
  rw [div_le_div_iff₀ (by linarith) (by linarith)]
  calc p.lossPct * (p'.lossPct + cp.bpl)
      = p.lossPct * p'.lossPct + cp.bpl * p.lossPct := by ring
    _ ≤ p.lossPct * p'.lossPct + cp.bpl * p'.lossPct := by gcongr; exact h.loss
    _ = p'.lossPct * (p.lossPct + cp.bpl) := by ring

theorem ratingLq_anti (hcp : cp.Sane) (h : p.Worse p') : p'.ratingLq cp ≤ p.ratingLq cp := by
  have hie : 0 ≤ 95 - cp.ie := by linarith [hcp.ie_le]
  have hloss := mul_le_mul_of_nonneg_left (lossTerm_mono hcp h) hie
  have hrmax := cp.bw.rmax_pos
  unfold ratingLq
  gcongr

theorem ratingCq_anti (hcp : cp.Sane) (h : p.Worse p') : p'.ratingCq cp ≤ p.ratingCq cp := by
  have hlq := ratingLq_anti hcp h
  have hdelay := delayImpairment_mono h
  have hrmax := cp.bw.rmax_pos
  unfold ratingCq
  gcongr

theorem ratingCq_le_ratingLq (p : PathQuality) (cp : CodecParams) : p.ratingCq cp ≤ p.ratingLq cp := by
  have hdelay := p.delayImpairment_nonneg
  have hrmax := cp.bw.rmax_pos
  have htaken : 0 ≤ p.delayImpairment * 100 / cp.bw.rmax := by positivity
  exact sub_le_self _ htaken

/-- The delay term of the code: its last branch, for a negative sum, is never taken. -/
theorem delay_eq (p : PathQuality) :
    (let ta := p.rttMs * (1 / 2) + p.jbMs
     let id := 24 / 1000 * ta + 11 / 100 * (ta - 1773 / 10) * (if 1773 / 10 < ta then 1 else 0)
     if id < 0 then 0 else id) = p.delayImpairment := by
  have hta : p.rttMs * (1 / 2) + p.jbMs = p.rttMs / 2 + p.jbMs := by ring
  have hid : 24 / 1000 * (p.rttMs / 2 + p.jbMs) + 11 / 100 * (p.rttMs / 2 + p.jbMs - 1773 / 10) *
      (if 1773 / 10 < p.rttMs / 2 + p.jbMs then 1 else 0) = p.delayImpairment := by
    by_cases hlong : 1773 / 10 < p.rttMs / 2 + p.jbMs
    · rw [delayImpairment, if_pos hlong, max_eq_left (by linarith)]
      ring
    · rw [delayImpairment, if_neg hlong, max_eq_right (by linarith)]
      ring
  simp only [hta, hid]
  exact if_neg (not_lt.mpr p.delayImpairment_nonneg)

theorem score_emodel_lq (p : PathQuality) (cp : CodecParams) :
    (p.score cp .emodel).lq = mosOfScaled (p.ratingLq cp) := by
  simp only [score, calcMos, mosEmodel, rToMos, ratingLq, mul_div_assoc]

theorem score_emodel_cq (p : PathQuality) (cp : CodecParams) :
    (p.score cp .emodel).cq = mosOfScaled (p.ratingCq cp) := by
  have hdelay := p.delay_eq
  simp only [score, calcMos, mosEmodel, rToMos] at hdelay ⊢
  rw [hdelay]
  congr 1
  unfold ratingCq ratingLq
  ring

/-! ### The simplified method -/

theorem onScale_simplified (p : PathQuality) (cp : CodecParams) :
    (p.score cp .simplified).OnScale where
  one_le_lq := (clampMos_mem _).1
  lq_le := (clampMos_mem _).2
  one_le_cq := (clampMos_mem _).1
  cq_le := (clampMos_mem _).2
  cq_le_lq := clampMos_mono (by linarith [p.rttMs_nonneg])

theorem wellScored_simplified (cp : CodecParams) (h : p.Worse p') : WellScored .simplified cp p p' where
  better := onScale_simplified p cp
  worse := onScale_simplified p' cp
  lq_le := clampMos_mono (by linarith [h.loss, h.jitter])
  cq_le := clampMos_mono (by linarith [h.loss, h.jitter, h.rtt])

/-! ### The E-model -/

theorem onScale_emodel_iff (p : PathQuality) (cp : CodecParams) :
    (p.score cp .emodel).OnScale ↔ p.ClearOfDip cp := by
  constructor
  · intro h
    have hlq := h.one_le_lq
    have hcq := h.one_le_cq
    rw [score_emodel_lq] at hlq
    rw [score_emodel_cq] at hcq
    exact ⟨(one_le_mosOfScaled_iff _).mp hlq, (one_le_mosOfScaled_iff _).mp hcq⟩
  · rintro ⟨hlq, hcq⟩
    constructor <;> simp only [score_emodel_lq, score_emodel_cq]
    · exact (one_le_mosOfScaled_iff _).mpr hlq
    · exact mosOfScaled_le _
    · exact (one_le_mosOfScaled_iff _).mpr hcq
    · exact mosOfScaled_le _
    · exact mosOfScaled_mono hcq hlq (p.ratingCq_le_ratingLq cp)

theorem wellScored_emodel_iff (hcp : cp.Sane) (h : p.Worse p') :
    WellScored .emodel cp p p' ↔ p.ClearOfDip cp ∧ p'.ClearOfDip cp := by
  constructor
  · intro hwell
    exact ⟨(onScale_emodel_iff p cp).mp hwell.better, (onScale_emodel_iff p' cp).mp hwell.worse⟩
  · rintro ⟨hp, hp'⟩
    refine ⟨(onScale_emodel_iff p cp).mpr hp, (onScale_emodel_iff p' cp).mpr hp', ?_, ?_⟩
    · rw [score_emodel_lq, score_emodel_lq]
      exact mosOfScaled_mono hp'.1 hp.1 (ratingLq_anti hcp h)
    · rw [score_emodel_cq, score_emodel_cq]
      exact mosOfScaled_mono hp'.2 hp.2 (ratingCq_anti hcp h)

end PathQuality

/-- **The scores are in range and monotone exactly outside the dip.** A path and a worse one are scored
on the scale 1.0..4.5, in the right order, by the simplified method always, and by the E-model just when
no R factor of the two falls where the conversion dips below 1. -/
theorem wellScored_iff (name : Option CStr) (srate bitrateKbps : UInt32) (method : MosMethod)
    (p p' : PathQuality) (h : p.Worse p') :
    WellScored method (codecEmodelParams name srate bitrateKbps) p p' ↔
      method = .simplified ∨
        p.ClearOfDip (codecEmodelParams name srate bitrateKbps) ∧
          p'.ClearOfDip (codecEmodelParams name srate bitrateKbps) := by
  cases method with
  | simplified =>
      exact ⟨fun _ => Or.inl rfl, fun _ => PathQuality.wellScored_simplified _ h⟩
  | emodel =>
      rw [PathQuality.wellScored_emodel_iff (codecEmodelParams_sane name srate bitrateKbps) h]
      constructor
      · exact Or.inr
      · rintro (hmethod | hclear)
        · cases hmethod
        · exact hclear

/-- A path with the given loss and no delay at all. -/
def PathQuality.lossy (lossPct : ℚ) (h : 0 ≤ lossPct) (h' : lossPct ≤ 100) : PathQuality :=
  ⟨lossPct, 0, 0, 0, h, h', le_rfl, le_rfl, le_rfl⟩

theorem codecEmodelParams_pcmu :
    codecEmodelParams (some "PCMU".toList) 8000 64 = ⟨0, 43 / 10, .narrow⟩ := by
  rw [codecEmodelParams, if_pos (by decide)]

theorem zero_le_ten : (0 : ℚ) ≤ 10 := by norm_num

theorem zero_le_hundred : (0 : ℚ) ≤ 100 := by norm_num

theorem ten_le_hundred : (10 : ℚ) ≤ 100 := by norm_num

theorem wellScored_iff_clean :
    WellScored .emodel (codecEmodelParams (some "PCMU".toList) 8000 64)
      (.lossy 0 le_rfl zero_le_hundred) (.lossy 10 zero_le_ten ten_le_hundred) := by
  have hworse : (PathQuality.lossy 0 le_rfl zero_le_hundred).Worse (.lossy 10 zero_le_ten ten_le_hundred) :=
    ⟨by norm_num [PathQuality.lossy], le_rfl, le_rfl, le_rfl⟩
  apply (wellScored_iff (some "PCMU".toList) 8000 64 .emodel _ _ hworse).mpr
  right
  rw [codecEmodelParams_pcmu]
  norm_num [PathQuality.ClearOfDip, PathQuality.ratingCq, PathQuality.ratingLq,
    PathQuality.delayImpairment, PathQuality.lossy, BwClass.ro, BwClass.rmax, InDip]

/-- A path that loses every packet leaves a G.711 call an R factor of about 2.1, and a score below 1. -/
theorem total_loss_below_scale :
    ¬∀ (name : Option CStr) (srate bitrateKbps : UInt32) (method : MosMethod) (p p' : PathQuality),
      p.Worse p' → WellScored method (codecEmodelParams name srate bitrateKbps) p p' := by
  intro hall
  let gone : PathQuality := .lossy 100 (by norm_num) (by norm_num)
  have hwell := hall (some "PCMU".toList) 8000 64 .emodel gone gone ⟨le_rfl, le_rfl, le_rfl, le_rfl⟩
  have hone := hwell.better.one_le_lq
  rw [codecEmodelParams_pcmu] at hone
  norm_num [gone, PathQuality.score, PathQuality.lossy, calcMos, mosEmodel, rToMos, mosOfScaled,
    BwClass.ro, BwClass.rmax] at hone

end VoxSdk
