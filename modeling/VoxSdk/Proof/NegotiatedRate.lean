import VoxSdk.Proof.BitrateControl

/-!
# The negotiated rate

What the encoder runs at is read from the fmtp it was given last. The controller knows its own bounds and
not the peer's: it climbs above a negotiated rate, and starts from its maximum when the encoder runs below
that. Restoring strips the parameter it rewrites, so the negotiated fmtp comes back only if that parameter
was not in it.
-/

namespace VoxSdk

open Text Reactive Reactive.Machine

/-! ### The encoder -/

/-- An encoder's view of its fmtp: it reads the value of the bitrate, its own digits at least, and picks a
rate by the other parameters when there is none in its range. -/
structure OpusEncoder where
  reader : FmtpReader
  value : CStr → Option UInt32
  auto : List (CStr × CStr) → UInt32
  value_repr : ∀ b : UInt32, value (Nat.repr b.toNat).toList = some b

namespace OpusEncoder

variable (e : OpusEncoder)

/-- The first bitrate of an fmtp. -/
def named (fmtp : CStr) : Option UInt32 :=
  ((e.reader.params fmtp).find? fun q => decide (q.1 = maxAverageBitrate)).bind fun q => e.value q.2

/-- The rate it runs at; what is outside the range of Opus is ignored. -/
def rate (fmtp : CStr) : UInt32 :=
  let auto := e.auto ((e.reader.params fmtp).filter fun q => decide (q.1 ≠ maxAverageBitrate))
  match e.named fmtp with
  | some b => if adaptBrMin ≤ b ∧ b ≤ adaptBrMax then b else auto
  | none => auto

/-! ### Respect -/

/-- A step respects the negotiation: a tick applies no rate above the negotiated one, its step down from
the unadapted state lowers the encoder's rate, and a restore brings the negotiated parameters back. -/
structure Respects (s : AdaptSys) (act : AdaptAct) (s' : AdaptSys) (outs : List AdaptOut) : Prop where
  below : ∀ n r l env, act = .tick n r l env → ∀ bitrate fmtp, .encoderSet bitrate fmtp ∈ outs →
    ∀ negotiated, e.named s.params = some negotiated → bitrate ≤ negotiated
  lowers : ∀ n r l env, act = .tick n r l env → s.cfg.adaptDownPct < l → s.adaptBitrate = 0 →
    ∀ bitrate fmtp, .encoderSet bitrate fmtp ∈ outs → e.rate s'.encoder < e.rate s.encoder
  restores : ∀ env, act = .setBitrate 0 env → .result .ok ∈ outs →
    e.reader.params s'.encoder = e.reader.params s.params

/-- The target of a step down from the unadapted state is a rate that the encoder finds in its fmtp, takes,
and finds lower than its own. -/
def FirstDownFits (s : AdaptSys) : Prop :=
  e.reader.Recognises s.params ∧ s.cfg.adaptMinBr ≤ adaptBrMax ∧
    s.cfg.adaptMaxBr / 2 < e.rate s.encoder ∧ s.cfg.adaptMinBr < e.rate s.encoder

/-- What the steps of a run have to find: a tick that steps, a negotiated rate that is not below its
target; a restore, an fmtp without a bitrate. -/
structure Fits (s : AdaptSys) (act : AdaptAct) : Prop where
  down : ∀ n r l env, act = .tick n r l env → s.looksAt env n r = true → s.cfg.adaptDownPct < l →
    s.Applies env s.nextDown →
      (∀ negotiated, e.named s.params = some negotiated →
        s.cur / 2 ≤ negotiated ∧ s.cfg.adaptMinBr ≤ negotiated) ∧
      (s.adaptBitrate = 0 → e.FirstDownFits s)
  up : ∀ n r l env, act = .tick n r l env → s.looksAt env n r = true → l ≤ s.cfg.adaptUpPct →
    s.cfg.recoverTicks ≤ s.adaptCleanTicks + 1 → s.Applies env s.nextUp →
      ∀ negotiated, e.named s.params = some negotiated →
        s.cfg.adaptMaxBr ≤ negotiated ∨ s.cur + s.cur / 4 ≤ negotiated
  restore : ∀ env, act = .setBitrate 0 env → (∃ fmtp, appliedFmtp env s.params 0 = .ok fmtp) →
    ∀ p ∈ s.params.splitOn ';', isMaxAverageBitrate p = false

end OpusEncoder

/-! ### What the encoder is given -/

section Proofs

variable {e : OpusEncoder} {s : AdaptSys} {env : AdaptEnv} {bitrate : UInt32}

theorem text_of_appliedFmtp {params fmtp : CStr} (h : appliedFmtp env params bitrate = .ok fmtp) :
    fmtp = rewritten params bitrate := by
  unfold appliedFmtp at h
  split_ifs at h
  split at h
  · cases h
  · cases h
  · next b hset henc =>
      have hok : (voxAdaptFmtpSetBitrate 512 params bitrate).2 = true := by rw [hset]
      rw [← voxAdaptFmtpSetBitrate_text hok, hset]
      exact (Except.ok.inj h).symm

/-- A rate in range that is written where everything is recognised is what the encoder runs at. -/
theorem rate_rewritten (hrate : bitrate ≠ 0) (hall : e.reader.Recognises s.params)
    (hmin : adaptBrMin ≤ bitrate) (hmax : bitrate ≤ adaptBrMax) :
    e.rate (rewritten s.params bitrate) = bitrate := by
  have hparams := e.reader.params_rewritten (s := s.params) hrate
  rw [e.reader.kept_eq_iff.mpr hall] at hparams
  have hothers : ((e.reader.params s.params).filter fun q => decide (q.1 ≠ maxAverageBitrate)).find?
      (fun q => decide (q.1 = maxAverageBitrate)) = none := by
    rw [List.find?_eq_none]
    intro q hq
    simpa using (List.mem_filter.mp hq).2
  have hnamed : e.named (rewritten s.params bitrate) = some bitrate := by
    rw [OpusEncoder.named, hparams, List.find?_append, hothers, Option.none_or,
      List.find?_cons_of_pos (by simp), Option.bind_some, e.value_repr]
  rw [OpusEncoder.rate, hnamed]
  exact if_pos ⟨hmin, hmax⟩

/-- Nothing recognised, nothing stripped. -/
theorem params_restored (r : FmtpReader) {params : CStr}
    (hnone : ∀ p ∈ params.splitOn ';', isMaxAverageBitrate p = false) :
    r.params (rewritten params 0) = r.params params := by
  rw [rewritten_zero, r.params_intercalate fun p hp => (keptParams_spec hp).2, keptParams,
    FmtpReader.params, List.filterMap_filter]
  apply List.filterMap_congr
  intro p hp
  by_cases hnil : p = []
  · simp [isKept, hnil, r.param_nil]
  · rw [if_pos ((isKept_iff p).mpr ⟨hnil, hnone p hp⟩)]

/-! ### Steps -/

theorem adaptMaxBr_le {g : AdaptCfg} (h : g.adaptMinBr ≤ adaptBrMax) : g.adaptMaxBr ≤ adaptBrMax := by
  unfold AdaptCfg.adaptMaxBr
  generalize g.adaptMinBr = m at h ⊢
  extract_lets v w
  have hcut : w ≤ adaptBrMax := by
    by_cases hover : adaptBrMax < v
    · have hw : w = adaptBrMax := if_pos hover
      rw [hw]
      exact UInt32.le_refl _
    · have hw : w = v := if_neg hover
      rw [hw]
      exact UInt32.not_lt.mp hover
  split
  · exact h
  · exact hcut

theorem half_le (b : UInt32) : b / 2 ≤ b := by
  rw [UInt32.le_iff_toNat_le, UInt32.toNat_div]
  exact Nat.div_le_self _ _

theorem nextDown_first (hfirst : s.adaptBitrate = 0) (h : e.FirstDownFits s) :
    s.nextDown < e.rate s.encoder ∧ s.cfg.adaptMinBr ≤ s.nextDown ∧ s.nextDown ≤ adaptBrMax := by
  obtain ⟨-, hmin, hhalf, hleast⟩ := h
  have hcur : s.cur = s.cfg.adaptMaxBr := if_neg (not_not.mpr hfirst)
  rw [AdaptSys.nextDown, hcur]
  split
  · exact ⟨hleast, UInt32.le_refl _, hmin⟩
  · next hle =>
      exact ⟨hhalf, UInt32.not_lt.mp hle, UInt32.le_trans (half_le _) (adaptMaxBr_le hmin)⟩

theorem respects_tick {n : UInt32} {r l : ℚ} (hfits : e.Fits s (.tick n r l env)) :
    e.Respects s (.tick n r l env) (s.bitrateTick env n r l).1 (s.bitrateTick env n r l).2 := by
  have htick := s.tickStep env n r l
  generalize s.bitrateTick env n r l = res at htick
  cases htick with
  | ignored | counted | held =>
      constructor
      · rintro - - - - - - - ⟨⟩
      · rintro - - - - - - - - - ⟨⟩
      · rintro - ⟨⟩
  | down fmtp hlooks hloss hcur happlied =>
      obtain ⟨hbelow, hfirst⟩ := hfits.down n r l env rfl hlooks hloss ⟨hcur, fmtp, happlied⟩
      constructor
      · rintro - - - - - bitrate fmtp' hmem negotiated hnamed
        cases List.mem_singleton.mp hmem
        obtain ⟨hhalf, hleast⟩ := hbelow negotiated hnamed
        exact nextDown_le hhalf hleast
      · rintro - - - - - - hunadapted bitrate fmtp' -
        obtain ⟨hlower, hmin, hmax⟩ := nextDown_first hunadapted (hfirst hunadapted)
        have hpos := UInt32.lt_of_lt_of_le (adaptMinBr_pos s.cfg) hmin
        have hrange := UInt32.le_trans (adaptBrMin_le s.cfg) hmin
        rw [text_of_appliedFmtp happlied,
          rate_rewritten (UInt32.ne_of_lt hpos).symm (hfirst hunadapted).1 hrange hmax]
        exact hlower
      · rintro - ⟨⟩
  | up fmtp hlooks hclean hticks hcur happlied =>
      have hband := adaptUpPct_lt s.cfg
      have hbelow := hfits.up n r l env rfl hlooks hclean hticks ⟨hcur, fmtp, happlied⟩
      constructor
      · rintro - - - - - bitrate fmtp' hmem negotiated hnamed
        cases List.mem_singleton.mp hmem
        exact nextUp_le (hbelow negotiated hnamed)
      · intro n' r' l' env' heq hloss
        obtain rfl : l = l' := by
          cases heq
          rfl
        exact absurd (hclean.trans_lt hband) (not_lt.mpr hloss.le)
      · rintro - ⟨⟩

theorem respects_setBitrate (hfits : e.Fits s (.setBitrate bitrate env)) :
    e.Respects s (.setBitrate bitrate env) (s.voxsdkCallSetBitrate env bitrate).1
      (s.voxsdkCallSetBitrate env bitrate).2 := by
  constructor
  · rintro - - - - ⟨⟩
  · rintro - - - - ⟨⟩
  · rintro env' ⟨⟩ hok
    obtain ⟨err, herr, hsame⟩ | ⟨fmtp, happlied, hset⟩ := s.voxsdkCallSetBitrate_cases env 0
    · rw [hsame] at hok
      cases List.mem_singleton.mp hok
      exact absurd rfl herr
    · rw [hset, text_of_appliedFmtp happlied]
      exact params_restored e.reader (hfits.restore env rfl ⟨fmtp, happlied⟩)

end Proofs

/-- **The negotiated rate is respected where the controller could not do otherwise.** In every run in which
each tick that steps finds the negotiated rate at or above its target, the first step down a target the
encoder takes and finds lower, and each restore an fmtp without a bitrate, every step respects the
negotiation. -/
theorem negotiated_rate_respected (e : OpusEncoder) : adaptSystem.EveryStep e.Fits e.Respects := by
  refine everyStep_of_invariant (I := fun _ => True) (fun _ _ => trivial) ?_
  intro s act s' outs _ hfits hstep
  obtain ⟨rfl, rfl⟩ := Prod.ext_iff.mp (Option.some.inj hstep)
  refine ⟨trivial, ?_⟩
  match act with
  | .tick n r l env => exact respects_tick hfits
  | .setBitrate bitrate env => exact respects_setBitrate hfits
  | .callStart | .setAdaptive .. =>
      constructor
      · rintro - - - - ⟨⟩
      · rintro - - - - ⟨⟩
      · rintro - ⟨⟩

/-! ### An encoder -/

/-- An encoder that reads decimal numbers and runs at 51000 by itself. -/
def decimalEncoder : OpusEncoder where
  reader := blankReader
  value s := some (Nat.ofDigitChars 10 s 0).toUInt32
  auto _ := 51000
  value_repr b := by rw [Nat.toList_repr, Nat.ofDigitChars_ten_toDigits]; simp

/-- A peer that negotiated 40000: the first step down takes the encoder from there to 16000. And a peer that
negotiated no rate: setting 0 takes the encoder back to what was negotiated. -/
theorem negotiated_rate_respected_stereo :
    (let s := AdaptSys.opusCall "maxaveragebitrate=40000".toList
     let (s', outs) := s.bitrateTick .willing 50 20 6
     outs = [.encoderSet 16000 "maxaveragebitrate=16000".toList] ∧
       decimalEncoder.Respects s (.tick 50 20 6 .willing) s' outs) ∧
    decimalEncoder.Respects (.opusCall "stereo=0".toList) (.setBitrate 0 .willing)
      ((AdaptSys.opusCall "stereo=0".toList).voxsdkCallSetBitrate .willing 0).1
      ((AdaptSys.opusCall "stereo=0".toList).voxsdkCallSetBitrate .willing 0).2 := by
  refine ⟨⟨by decide +kernel, ?_⟩, ?_⟩
  · refine negotiated_rate_respected decimalEncoder _ [] _ _ _ (.start ⟨rfl, rfl, rfl⟩) ?_ rfl
    constructor
    · rintro n r l env ⟨⟩ - - -
      refine ⟨fun negotiated hnegotiated => ?_, fun _ => ?_⟩
      · have hnamed : decimalEncoder.named "maxaveragebitrate=40000".toList = some 40000 := by decide +kernel
        cases hnamed.symm.trans hnegotiated
        decide +kernel
      · refine ⟨?_, ?_, ?_, ?_⟩ <;> decide +kernel
    · rintro n r l env ⟨⟩ - hclean -
      exact absurd hclean (by decide +kernel)
    · rintro - ⟨⟩
  · refine negotiated_rate_respected decimalEncoder _ [] _ _ _ (.start ⟨rfl, rfl, rfl⟩) ?_ rfl
    constructor
    · rintro - - - - ⟨⟩
    · rintro - - - - ⟨⟩
    · intro env henv _
      decide +kernel

/-- A peer that negotiated 16000: setting 0 leaves the encoder without its `maxaveragebitrate`. -/
theorem restore_loses_rate : ¬∀ e : OpusEncoder, adaptSystem.EveryStep Always e.Respects := by
  intro hall
  have hrespects := hall decimalEncoder (.opusCall "maxaveragebitrate=16000".toList) []
    (.setBitrate 0 .willing) _ _ (.start ⟨rfl, rfl, rfl⟩) trivial rfl
  have hrestores := hrespects.restores .willing rfl (by decide +kernel)
  revert hrestores
  decide +kernel

end VoxSdk
