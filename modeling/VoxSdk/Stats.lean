import VoxSdk.Config
import VoxSdk.Lib.Machine

/-!
# Call statistics

`stats.c`: the MOS scores, what one poll of a call's audio stream reports, and the alerts a poll raises.
The polling tick owns the loss window and the session history of a call; the getter and the final
snapshot read them. Floating-point values are rationals, counters are of the width the code gives them.
-/

namespace VoxSdk

open Reactive

/-! ### Scores -/

/-- `voxsdk_mos_method_t`. -/
inductive MosMethod where
  | emodel
  | simplified
  deriving DecidableEq, Repr

/-- `vox_bw_class_t`. -/
inductive BwClass where
  | narrow
  | wide
  deriving DecidableEq, Repr

/-- `codec_params_t`. -/
structure CodecParams where
  ie : ℚ
  bpl : ℚ
  bw : BwClass
  deriving DecidableEq, Repr

/-- `str_casecmp(name, codec) == 0`, for a `codec` in small letters. -/
def isCodec (codec : String) (name : CStr) : Bool := decide (name.map Char.toLower = codec.toList)

def codecEmodelParams (name : Option CStr) (srate bitrateKbps : UInt32) : CodecParams :=
  let bw := if 16000 ≤ srate then .wide else .narrow
  match name with
  | none => ⟨0, 43 / 10, .narrow⟩
  | some name =>
      if isCodec "pcmu" name || isCodec "pcma" name then ⟨0, 43 / 10, .narrow⟩
      else if isCodec "g729" name then ⟨11, 19, .narrow⟩
      else if isCodec "g723" name then ⟨15, 16, .narrow⟩
      else if isCodec "g722" name then ⟨0, 43 / 10, .wide⟩
      else if isCodec "opus" name then
        if bitrateKbps ≤ 8 then ⟨14, 12, bw⟩
        else if bitrateKbps ≤ 12 then ⟨11, 14, bw⟩
        else ⟨7, 14, bw⟩
      else ⟨0, 43 / 10, bw⟩

/-- `mos_pair_t`. -/
structure MosPair where
  lq : ℚ
  cq : ℚ
  q : ℚ
  deriving DecidableEq, Repr

/-- The R scale of a bandwidth class: its best value, and the value that counts as 100. -/
def BwClass.ro : BwClass → ℚ
  | .narrow => 932 / 10
  | .wide => 129

def BwClass.rmax : BwClass → ℚ
  | .narrow => 100
  | .wide => 129

/-- `r_to_mos`, for an R factor already brought to the scale 0..100. -/
def mosOfScaled (r : ℚ) : ℚ :=
  if r ≤ 0 then 1
  else if 100 ≤ r then 45 / 10
  else 1 + 35 / 1000 * r + 7 / 1000000 * r * (r - 60) * (100 - r)

def rToMos (R : ℚ) (bw : BwClass) : ℚ := mosOfScaled (R * 100 / bw.rmax)

def mosEmodel (lossPct jbMs rttMs : ℚ) (cp : CodecParams) : MosPair :=
  let ieEff := cp.ie + (95 - cp.ie) * lossPct / (lossPct + cp.bpl)
  let rLq := cp.bw.ro - ieEff
  let ta := rttMs * (1 / 2) + jbMs
  let id := 24 / 1000 * ta + 11 / 100 * (ta - 1773 / 10) * (if 1773 / 10 < ta then 1 else 0)
  let id := if id < 0 then 0 else id
  { lq := rToMos rLq cp.bw
    cq := rToMos (rLq - id) cp.bw
    q := rLq }

/-- The clamp to 1.0..4.5 at the end of `mos_simplified`. -/
def clampMos (m : ℚ) : ℚ :=
  let m := if m < 1 then 1 else m
  if 45 / 10 < m then 45 / 10 else m

def mosSimplified (lossPct jitterMs rttMs : ℚ) : MosPair :=
  let lq := 45 / 10 - 9 / 100 * lossPct - 9 / 10000 * jitterMs
  let cq := lq - 5 / 10000 * rttMs
  { lq := clampMos lq
    cq := clampMos cq
    q := clampMos lq }

def calcMos (lossPct jitterMs jbMs rttMs : ℚ) (method : MosMethod) (cp : CodecParams) : MosPair :=
  match method with
  | .simplified => mosSimplified lossPct jitterMs rttMs
  | .emodel => mosEmodel lossPct jbMs rttMs cp

/-! ### Counters -/

def counterDelta (now prev : UInt32) : UInt32 := if prev ≤ now then now - prev else 0

def counterDeltaI (now prev : Int32) : UInt32 := if prev < now then (now - prev).toUInt32 else 0

/-- `part` of `whole` in percent; nothing of nothing is no loss. -/
def pctOf (part whole : UInt32) : ℚ :=
  if 0 < whole then (part.toNat : ℚ) * 100 / whole.toNat else 0

/-! ### What baresip reports of a stream -/

/-- `struct jbuf_stat`. -/
structure JbufStat where
  cDelay : UInt32
  cPackets : UInt32
  cJitter : UInt32
  nLate : UInt32
  nOverflow : UInt32
  nFlush : UInt32
  nLost : UInt32
  nGet : UInt32

/-- One direction of `struct rtcp_stats`. -/
structure RtcpDir where
  sent : UInt32
  lost : Int32
  jit : UInt32

/-- `struct rtcp_stats`. -/
structure RtcpStats where
  tx : RtcpDir
  rx : RtcpDir
  rtt : UInt32

/-- `struct aucodec`. -/
structure AuCodec where
  name : CStr
  crate : UInt32
  srate : UInt32
  ch : UInt8

/-- The audio stream of a call, as baresip and the level meters answer for it. -/
structure AudioStream where
  txNPackets : UInt32
  rxNPackets : UInt32
  txNBytes : UInt32
  rxNBytes : UInt32
  txNErr : UInt32
  rxNErr : UInt32
  txBitrate : UInt32
  rxBitrate : UInt32
  txAvgBitrate : ℚ
  rxAvgBitrate : ℚ
  codec : Option AuCodec
  jbuf : Option JbufStat
  jbAdaptive : Bool
  rtcp : Option RtcpStats
  rxLevelBits : UInt32
  txLevelBits : UInt32
  ssrcTx : UInt32
  ssrcRx : UInt32
  ptEnc : Int
  raddr : CStr

/-- `voxsdk_ev_media_stats_t`. -/
structure MediaStats where
  packetsSent : UInt32
  packetsReceived : UInt32
  packetsLost : UInt32
  packetsLostRx : UInt32
  bytesSent : UInt32
  bytesReceived : UInt32
  txErrors : UInt32
  rxErrors : UInt32
  lossPct : ℚ
  lossPctRx : ℚ
  jitterMs : ℚ
  txJitterMs : ℚ
  rttMs : ℚ
  jitterBufferMs : UInt32
  jitterBufferLoad : UInt32
  latePackets : UInt32
  discardedPackets : UInt32
  jitterBufferTargetMs : UInt32
  jitterBufferAdaptive : Bool
  plcFrames : UInt32
  plcRatio : ℚ
  bandwidthKbpsTx : UInt32
  bandwidthKbpsRx : UInt32
  avgBandwidthKbpsTx : UInt32
  avgBandwidthKbpsRx : UInt32
  mosLq : ℚ
  mosCq : ℚ
  mosLqRx : ℚ
  mosCqRx : ℚ
  mosMethod : MosMethod
  codecName : Option CStr
  codecClockRate : UInt32
  codecSampleRate : UInt32
  codecChannels : UInt8
  payloadType : Int
  audioLevelBits : UInt32
  micLevelBits : UInt32
  ssrcTx : UInt32
  ssrcRx : UInt32
  remoteAddr : CStr
  mosLqMin : ℚ
  mosLqAvg : ℚ
  statsTick : UInt32
  callDurationMs : Nat
  isFinal : Bool

/-- A stream that has carried nothing yet. -/
def AudioStream.idle : AudioStream :=
  { txNPackets := 0
    rxNPackets := 0
    txNBytes := 0
    rxNBytes := 0
    txNErr := 0
    rxNErr := 0
    txBitrate := 0
    rxBitrate := 0
    txAvgBitrate := 0
    rxAvgBitrate := 0
    codec := none
    jbuf := none
    jbAdaptive := false
    rtcp := none
    rxLevelBits := 0
    txLevelBits := 0
    ssrcTx := 0
    ssrcRx := 0
    ptEnc := 0
    raddr := [] }

/-! ### The call -/

/-- What `stats.c` keeps in `struct voxsdk_call`. -/
structure StatsCall where
  statsMosMin : ℚ
  statsQSum : ℚ
  statsMosN : UInt32
  statsTick : UInt32
  statsCallStart : Nat
  statsPrevTxSent : UInt32
  statsPrevTxLost : Int32
  statsPrevRxRecv : UInt32
  statsPrevRxLost : Int32
  statsPrevJbGet : UInt32
  statsPrevJbDiscard : UInt32
  lastMosLq : ℚ
  lastLossPct : ℚ
  lastJitterMs : ℚ

/-- A new call. -/
def StatsCall.zero : StatsCall :=
  { statsMosMin := 0
    statsQSum := 0
    statsMosN := 0
    statsTick := 0
    statsCallStart := 0
    statsPrevTxSent := 0
    statsPrevTxLost := 0
    statsPrevRxRecv := 0
    statsPrevRxLost := 0
    statsPrevJbGet := 0
    statsPrevJbDiscard := 0
    lastMosLq := 0
    lastLossPct := 0
    lastJitterMs := 0 }

/-- What the code reads of `g_vox.cfg`; nothing changes it. -/
structure StatsCfg where
  mosMethod : MosMethod
  mosAlertThreshold : ℚ
  lossAlertThreshold : ℚ
  jitterAlertThreshold : ℚ

/-- `jb_discard_total`. -/
def AudioStream.jbDiscardTotal (au : AudioStream) : UInt32 :=
  match au.jbuf with
  | none => 0
  | some jb => jb.nLate + jb.nOverflow + jb.nFlush

/-- `jb_get_total`. -/
def AudioStream.jbGetTotal (au : AudioStream) : UInt32 :=
  match au.jbuf with
  | none => 0
  | some jb => jb.nGet

/-- The counts of one poll window, with the sums that loss percentages are taken of. -/
structure LossWindow where
  dTxSent : UInt32
  dTxLost : UInt32
  dRxRecv : UInt32
  dRxLost : UInt32
  dJbGet : UInt32
  dJbDisc : UInt32
  deriving DecidableEq, Repr

namespace LossWindow

def dRxExpected (w : LossWindow) : UInt32 := w.dRxRecv + w.dRxLost

def dJbTotal (w : LossWindow) : UInt32 := w.dJbGet + w.dJbDisc

def lossPct (w : LossWindow) : ℚ := pctOf w.dTxLost w.dTxSent

def lossPctRx (w : LossWindow) : ℚ := pctOf w.dRxLost w.dRxExpected

def discardPct (w : LossWindow) : ℚ := pctOf w.dJbDisc w.dJbTotal

def effLossRx (w : LossWindow) : ℚ :=
  if 100 < w.lossPctRx + w.discardPct then 100 else w.lossPctRx + w.discardPct

end LossWindow

/-- The differences `fill_audio_stats` takes. -/
def StatsCall.lossWindow (lc : StatsCall) (au : AudioStream) (rs : RtcpStats) : LossWindow :=
  let dTxSent := counterDelta rs.tx.sent lc.statsPrevTxSent
  let dTxLost := counterDeltaI rs.tx.lost lc.statsPrevTxLost
  { dTxSent
    dTxLost := if dTxSent < dTxLost then dTxSent else dTxLost
    dRxRecv := counterDelta rs.rx.sent lc.statsPrevRxRecv
    dRxLost := counterDeltaI rs.rx.lost lc.statsPrevRxLost
    dJbGet := counterDelta au.jbGetTotal lc.statsPrevJbGet
    dJbDisc := counterDelta au.jbDiscardTotal lc.statsPrevJbDiscard }

/-- `fill_audio_stats` up to the RTCP part, of a zeroed record. -/
def AudioStream.measured (g : StatsCfg) (au : AudioStream) : MediaStats :=
  { packetsSent := au.txNPackets
    packetsReceived := au.rxNPackets
    packetsLost := 0
    packetsLostRx := 0
    bytesSent := au.txNBytes
    bytesReceived := au.rxNBytes
    txErrors := au.txNErr
    rxErrors := au.rxNErr
    lossPct := 0
    lossPctRx := 0
    jitterMs := 0
    txJitterMs := 0
    rttMs := 0
    jitterBufferMs := au.jbuf.elim 0 JbufStat.cDelay
    jitterBufferLoad := au.jbuf.elim 0 JbufStat.cPackets
    latePackets := au.jbuf.elim 0 JbufStat.nLate
    discardedPackets := au.jbuf.elim 0 fun jb => jb.nOverflow + jb.nFlush
    jitterBufferTargetMs := au.jbuf.elim 0 JbufStat.cJitter
    jitterBufferAdaptive := au.jbuf.isSome && au.jbAdaptive
    plcFrames := au.jbuf.elim 0 JbufStat.nLost
    plcRatio := au.jbuf.elim 0 fun jb => if 0 < jb.nGet then (jb.nLost.toNat : ℚ) / jb.nGet.toNat else 0
    bandwidthKbpsTx := au.txBitrate / 1000
    bandwidthKbpsRx := au.rxBitrate / 1000
    avgBandwidthKbpsTx := (castU32 (au.txAvgBitrate / 1000)).toUInt32
    avgBandwidthKbpsRx := (castU32 (au.rxAvgBitrate / 1000)).toUInt32
    mosLq := 0
    mosCq := 0
    mosLqRx := 0
    mosCqRx := 0
    mosMethod := g.mosMethod
    codecName := none
    codecClockRate := au.codec.elim 0 AuCodec.crate
    codecSampleRate := au.codec.elim 0 AuCodec.srate
    codecChannels := au.codec.elim 0 AuCodec.ch
    payloadType := au.ptEnc
    audioLevelBits := au.rxLevelBits
    micLevelBits := au.txLevelBits
    ssrcTx := au.ssrcTx
    ssrcRx := au.ssrcRx
    remoteAddr := au.raddr
    mosLqMin := 0
    mosLqAvg := 0
    statsTick := 0
    callDurationMs := 0
    isFinal := false }

/-- What the sending direction is scored: what the peer hears. -/
def MediaStats.txMos (g : StatsCfg) (au : AudioStream) (s : MediaStats) : MosPair :=
  calcMos s.lossPct s.txJitterMs (2 * s.txJitterMs) s.rttMs g.mosMethod
    (codecEmodelParams (au.codec.map AuCodec.name) s.codecSampleRate s.avgBandwidthKbpsTx)

/-- What the receiving direction is scored: what we hear. -/
def MediaStats.rxMos (g : StatsCfg) (au : AudioStream) (effLossRx : ℚ) (s : MediaStats) : MosPair :=
  calcMos effLossRx s.jitterMs s.jitterBufferMs.toNat s.rttMs g.mosMethod
    (codecEmodelParams (au.codec.map AuCodec.name) s.codecSampleRate s.avgBandwidthKbpsTx)

/-- A positive count; a signed count below zero reads as none. -/
def lostCount (lost : Int32) : UInt32 := if 0 < lost then lost.toUInt32 else 0

namespace StatsCall

/-- The numbers of the RTCP part of `fill_audio_stats`. -/
def withRtcp (au : AudioStream) (rs : RtcpStats) (s : MediaStats) (lc : StatsCall) : MediaStats :=
  { s with
    rttMs := rs.rtt.toNat / 1000
    jitterMs := rs.rx.jit.toNat / 1000
    txJitterMs := rs.tx.jit.toNat / 1000
    packetsLost := lostCount rs.tx.lost
    packetsLostRx := lostCount rs.rx.lost
    lossPct := (lc.lossWindow au rs).lossPct
    lossPctRx := (lc.lossWindow au rs).lossPctRx }

/-- The end of the RTCP part: the tick rolls the window forward and folds its score in. -/
def advanced (au : AudioStream) (rs : RtcpStats) (tx : MosPair) (lc : StatsCall) : StatsCall :=
  { lc with
    statsPrevTxSent := rs.tx.sent
    statsPrevTxLost := rs.tx.lost
    statsPrevRxRecv := rs.rx.sent
    statsPrevRxLost := rs.rx.lost
    statsPrevJbDiscard := au.jbDiscardTotal
    statsPrevJbGet := au.jbGetTotal
    statsQSum := lc.statsQSum + tx.q
    statsMosN := lc.statsMosN + 1
    statsMosMin := if lc.statsMosMin = 0 ∨ tx.lq < lc.statsMosMin then tx.lq else lc.statsMosMin }

def fillAudioStats (g : StatsCfg) (au : AudioStream) (advance : Bool) (lc : StatsCall) :
    MediaStats × StatsCall :=
  let s := au.measured g
  match au.rtcp with
  | none => (s, lc)
  | some rs =>
      let s := lc.withRtcp au rs s
      let tx := s.txMos g au
      let rx := s.rxMos g au (lc.lossWindow au rs).effLossRx
      let s := { s with mosLq := tx.lq, mosCq := tx.cq, mosLqRx := rx.lq, mosCqRx := rx.cq }
      (s, if advance then lc.advanced au rs tx else lc)

def sessionMosAvg (g : StatsCfg) (s : MediaStats) (lc : StatsCall) : ℚ :=
  if lc.statsMosN = 0 then 0
  else
    let mean := lc.statsQSum / lc.statsMosN.toNat
    match g.mosMethod with
    | .simplified => mean
    | .emodel => rToMos mean (codecEmodelParams s.codecName s.codecSampleRate s.avgBandwidthKbpsTx).bw

/-- The session history of a record. -/
def withHistory (g : StatsCfg) (now : Nat) (isFinal : Bool) (s : MediaStats) (lc : StatsCall) :
    MediaStats :=
  { s with
    mosLqMin := lc.statsMosMin
    mosLqAvg := lc.sessionMosAvg g s
    statsTick := lc.statsTick
    callDurationMs := if lc.statsCallStart = 0 then 0 else now - lc.statsCallStart
    isFinal }

end StatsCall

/-- `voxsdk_quality_issue_t`. -/
inductive QualityIssue where
  | mos
  | loss
  | jitter
  | rtt
  | mediaStall
  deriving DecidableEq, Repr

/-- `voxsdk_ev_quality_alert_t`. -/
structure QualityAlert where
  issue : QualityIssue
  value : ℚ
  threshold : ℚ
  recovering : Bool
  deriving DecidableEq, Repr

inductive StatsOut where
  | alert (a : QualityAlert)
  | stats (s : MediaStats)
  | got (s : Option MediaStats)

/-- One threshold of `collect_call_stats`. -/
def crossing (issue : QualityIssue) (value threshold : ℚ) (wasBad isBad : Bool) : List QualityAlert :=
  if isBad ≠ wasBad then [{ issue, value, threshold, recovering := wasBad }] else []

namespace StatsCall

def mosAlerts (g : StatsCfg) (s : MediaStats) (lc : StatsCall) : List QualityAlert :=
  if 0 < g.mosAlertThreshold ∧ 0 < s.mosLq then
    crossing .mos s.mosLq g.mosAlertThreshold
      (decide (0 < lc.lastMosLq) && decide (lc.lastMosLq < g.mosAlertThreshold))
      (decide (s.mosLq < g.mosAlertThreshold))
  else []

def lossAlerts (g : StatsCfg) (s : MediaStats) (lc : StatsCall) : List QualityAlert :=
  if 0 < g.lossAlertThreshold then
    crossing .loss s.lossPct g.lossAlertThreshold (decide (g.lossAlertThreshold < lc.lastLossPct))
      (decide (g.lossAlertThreshold < s.lossPct))
  else []

def jitterAlerts (g : StatsCfg) (s : MediaStats) (lc : StatsCall) : List QualityAlert :=
  if 0 < g.jitterAlertThreshold then
    crossing .jitter s.jitterMs g.jitterAlertThreshold
      (decide (g.jitterAlertThreshold < lc.lastJitterMs))
      (decide (g.jitterAlertThreshold < s.jitterMs))
  else []

/-- What a tick looks at: the record before its history is filled in, and the call it leaves. -/
def sampled (g : StatsCfg) (au : AudioStream) (lc : StatsCall) : MediaStats × StatsCall :=
  let (s, lc) := lc.fillAudioStats g au true
  ({ s with codecName := au.codec.map fun ac => strNcpy 4096 ac.name },
    { lc with statsTick := lc.statsTick + 1 })

/-- `collect_call_stats` of a call with a stream. What `vox_adapt_tick` does with the record does not
touch the fields here. -/
def collectCallStats (g : StatsCfg) (now : Nat) (au : AudioStream) (lc : StatsCall) :
    StatsCall × List StatsOut :=
  let (s, lc) := lc.sampled g au
  let s := lc.withHistory g now false s
  let alerts := lc.mosAlerts g s ++ lc.lossAlerts g s ++ lc.jitterAlerts g s
  ({ lc with lastMosLq := s.mosLq, lastLossPct := s.lossPct, lastJitterMs := s.jitterMs },
    alerts.map .alert ++ [.stats s])

/-- A record taken without advancing the call: `getstats_fn`, `vox_stats_collect_final`. -/
def peeked (g : StatsCfg) (now : Nat) (isFinal : Bool) (name : AuCodec → CStr) (au : AudioStream)
    (lc : StatsCall) : MediaStats :=
  let (s, lc) := lc.fillAudioStats g au false
  lc.withHistory g now isFinal { s with codecName := au.codec.map name }

end StatsCall

/-! ### The machine -/

/-- Who asks for statistics, and the stream found, if there is one. -/
inductive StatsAct where
  | tick (now : Nat) (au : Option AudioStream)
  | getStats (now : Nat) (au : Option AudioStream)
  | final (now : Nat) (au : Option AudioStream)

def StatsCall.handle (g : StatsCfg) (lc : StatsCall) : StatsAct → StatsCall × List StatsOut
  | .tick now (some au) => lc.collectCallStats g now au
  | .getStats now (some au) => (lc, [.got (some (lc.peeked g now false AuCodec.name au))])
  | .getStats _ none => (lc, [.got none])
  | .final now (some au) =>
      (lc, [.stats (lc.peeked g now true (fun ac => strNcpy 4096 ac.name) au)])
  | .tick _ none | .final _ none => (lc, [])

/-- The statistics of one call, from its beginning. -/
def statsSystem (g : StatsCfg) : Machine StatsCall StatsAct StatsOut where
  init lc := ∃ start, lc = { StatsCall.zero with statsCallStart := start }
  step lc act := some (lc.handle g act)

end VoxSdk
