import VoxSdk.Lib.Machine
import VoxSdk.Outbound

/-!
# Bitrate adaptation

The second half of `adapt.c`: the fmtp rewriter, what applies a bitrate to a call's encoder, the controller
the stats tick drives, and the two API calls. (The media stall is with the migration.) A call has one
negotiated fmtp; its encoder runs with the last one that `audio_encoder_set` was given.
-/

namespace VoxSdk

open Reactive

/-! ### Configuration -/

def adaptBrMin : UInt32 := 6000

def adaptBrMax : UInt32 := 510000

/-- What `adapt.c` reads of `g_vox.cfg`. -/
structure AdaptCfg where
  adaptiveBitrate : Bool
  adaptMinBitrate : UInt32
  adaptMaxBitrate : UInt32
  adaptLossDownPct : ℚ
  adaptLossUpPct : ℚ
  adaptRecoverTicks : UInt32

namespace AdaptCfg

variable (g : AdaptCfg)

def adaptMinBr : UInt32 :=
  let v := if g.adaptMinBitrate ≠ 0 then g.adaptMinBitrate else 12000
  if v < adaptBrMin then adaptBrMin else v

def adaptMaxBr : UInt32 :=
  let v := if g.adaptMaxBitrate ≠ 0 then g.adaptMaxBitrate else 32000
  let v := if adaptBrMax < v then adaptBrMax else v
  if v < g.adaptMinBr then g.adaptMinBr else v

def adaptDownPct : ℚ := if 0 < g.adaptLossDownPct then g.adaptLossDownPct else 5

def adaptUpPct : ℚ :=
  let up := if 0 < g.adaptLossUpPct then g.adaptLossUpPct else 1
  if g.adaptDownPct ≤ up then g.adaptDownPct * (1 / 2) else up

def recoverTicks : UInt32 := if g.adaptRecoverTicks ≠ 0 then g.adaptRecoverTicks else 5

end AdaptCfg

/-! ### The fmtp rewriter -/

/-- `key` of `vox_adapt_fmtp_set_bitrate`. -/
def maxAverageBitrate : CStr := "maxaveragebitrate".toList

/-- The parameter that is replaced: the key alone, or the key and a `=`. -/
def isMaxAverageBitrate (p : CStr) : Bool :=
  decide (maxAverageBitrate.length ≤ p.length) && startsWithCase maxAverageBitrate p &&
    (decide (p.length = maxAverageBitrate.length) ||
      decide (p[maxAverageBitrate.length]? = some '='))

/-- `buf`: its text, and one past the last byte that was written. -/
structure FmtpBuf where
  text : CStr
  written : Nat
  deriving DecidableEq

namespace FmtpBuf

/-- `s` at the end of the text, and the NUL behind it. -/
def put (s : CStr) (b : FmtpBuf) : FmtpBuf :=
  { text := b.text ++ s
    written := max b.written (b.text.length + s.length + 1) }

/-- `re_snprintf(buf + pos, sz - pos, ..)` of the text `s`; `false` is an error, and writes what fits. -/
def print (sz : Nat) (s : CStr) (b : FmtpBuf) : FmtpBuf × Bool :=
  if b.text.length + s.length < sz then (b.put s, true)
  else ({ text := b.text ++ s.take (sz - b.text.length - 1), written := max b.written sz }, false)

/-- A `;`, unless the text is empty. -/
def separator (b : FmtpBuf) : CStr := if b.text = [] then [] else [';']

end FmtpBuf

/-- The loop of `vox_adapt_fmtp_set_bitrate` over what stands between the `;` of `src`. -/
def fmtpCopy (sz : Nat) : List CStr → FmtpBuf → FmtpBuf × Bool
  | [], b => (b, true)
  | p :: ps, b =>
      if p ≠ [] ∧ isMaxAverageBitrate p = false then
        if sz < b.text.length + p.length + 2 then (b, false)
        else fmtpCopy sz ps (b.put (b.separator ++ p))
      else fmtpCopy sz ps b

/-- `maxaveragebitrate=` and the bitrate. -/
def bitrateParam (bitrate : UInt32) : CStr :=
  maxAverageBitrate ++ '=' :: (Nat.repr bitrate.toNat).toList

/-- `vox_adapt_fmtp_set_bitrate`, into a buffer of `sz` bytes, none being one of size 0; `false` is
`EINVAL`. -/
def voxAdaptFmtpSetBitrate (sz : Nat) (src : CStr) (bitrate : UInt32) : FmtpBuf × Bool :=
  if sz = 0 then (⟨[], 0⟩, false)
  else
    match fmtpCopy sz (src.splitOn ';') ⟨[], 1⟩ with
    | (b, false) => (b, false)
    | (b, true) =>
        if bitrate ≠ 0 then b.print sz (b.separator ++ bitrateParam bitrate) else (b, true)

/-! ### The call -/

/-- The errors of `vox_adapt_apply_bitrate`; `other` is any other that `audio_encoder_set` returns. -/
inductive AdaptErr where
  | inval
  | noent
  | notsup
  | other
  deriving DecidableEq, Repr

/-- What `vox_adapt_apply_bitrate` finds: the call, its stream, a negotiated codec, that codec's update
handler, and what `audio_encoder_set` returns. -/
structure AdaptEnv where
  bc : Bool
  strm : Bool
  format : Bool
  encupdh : Bool
  encoderSet : Option AdaptErr

/-- An established call with the part of `g_vox.cfg` that can change. `params` is the negotiated fmtp,
`encoder` the one the encoder runs with. -/
structure AdaptSys where
  cfg : AdaptCfg
  params : CStr
  encoder : CStr
  adaptBitrate : UInt32
  adaptCleanTicks : UInt32

/-- A call whose codec has an update handler that takes everything. -/
def AdaptEnv.willing : AdaptEnv := ⟨true, true, true, true, none⟩

/-- A call with the default bounds, adaptation switched on. -/
def AdaptSys.opusCall (params : CStr) : AdaptSys :=
  { cfg := ⟨true, 12000, 32000, 5, 1, 5⟩
    params
    encoder := params
    adaptBitrate := 0
    adaptCleanTicks := 0 }

inductive AdaptOut where
  | encoderSet (bitrate : UInt32) (fmtp : CStr)
  | result (r : VoxError)
  deriving DecidableEq, Repr

/-- What `vox_adapt_apply_bitrate` hands to the encoder, and that it was taken. -/
def appliedFmtp (env : AdaptEnv) (params : CStr) (bitrate : UInt32) : Except AdaptErr CStr :=
  if env.bc = false then .error .inval
  else if env.strm = false then .error .noent
  else if env.format = false then .error .noent
  else if env.encupdh = false then .error .notsup
  else
    match voxAdaptFmtpSetBitrate 512 params bitrate, env.encoderSet with
    | (_, false), _ => .error .inval
    | (_, true), some err => .error err
    | (b, true), none => .ok b.text

namespace AdaptSys

def voxAdaptApplyBitrate (env : AdaptEnv) (bitrate : UInt32) (s : AdaptSys) :
    AdaptSys × List AdaptOut × Option AdaptErr :=
  match appliedFmtp env s.params bitrate with
  | .error err => (s, [], some err)
  | .ok fmtp =>
      ({ s with adaptBitrate := bitrate, encoder := fmtp }, [.encoderSet bitrate fmtp], none)

/-- The rate the controller takes the encoder to run at. -/
def cur (s : AdaptSys) : UInt32 := if s.adaptBitrate ≠ 0 then s.adaptBitrate else s.cfg.adaptMaxBr

/-- The target of a step down. -/
def nextDown (s : AdaptSys) : UInt32 :=
  if s.cur / 2 < s.cfg.adaptMinBr then s.cfg.adaptMinBr else s.cur / 2

/-- The target of a step up. -/
def nextUp (s : AdaptSys) : UInt32 :=
  if s.cfg.adaptMaxBr < s.cur + s.cur / 4 then s.cfg.adaptMaxBr else s.cur + s.cur / 4

/-- The end of `bitrate_tick`: an error leaves the rate be. -/
def stepTo (env : AdaptEnv) (next : UInt32) (s : AdaptSys) : AdaptSys × List AdaptOut :=
  if next = s.cur then (s, [])
  else
    let (s, outs, _) := s.voxAdaptApplyBitrate env next
    (s, outs)

/-- `bitrate_tick` without a call to read the rate of is none (`vox_adapt_tick`). -/
def looksAt (env : AdaptEnv) (packetsSent : UInt32) (rttMs : ℚ) (s : AdaptSys) : Bool :=
  env.bc && s.cfg.adaptiveBitrate && decide (packetsSent ≠ 0) && decide (0 < rttMs)

def bitrateTick (env : AdaptEnv) (packetsSent : UInt32) (rttMs lossPct : ℚ) (s : AdaptSys) :
    AdaptSys × List AdaptOut :=
  if s.looksAt env packetsSent rttMs = false then (s, [])
  else if s.cfg.adaptDownPct < lossPct then
    { s with adaptCleanTicks := 0 }.stepTo env s.nextDown
  else if lossPct ≤ s.cfg.adaptUpPct then
    if s.adaptCleanTicks + 1 < s.cfg.recoverTicks then
      ({ s with adaptCleanTicks := s.adaptCleanTicks + 1 }, [])
    else { s with adaptCleanTicks := 0 }.stepTo env s.nextUp
  else ({ s with adaptCleanTicks := 0 }, [])

/-- The bitrate part of `vox_adapt_call_start`. -/
def voxAdaptCallStart (s : AdaptSys) : AdaptSys := { s with adaptBitrate := 0, adaptCleanTicks := 0 }

/-- `set_bitrate_fn`. -/
def setBitrateFn (env : AdaptEnv) (bitrate : UInt32) (s : AdaptSys) : AdaptSys × List AdaptOut :=
  match s.voxAdaptApplyBitrate env bitrate with
  | (s, outs, none) => (s, outs ++ [.result .ok])
  | (s, outs, some .inval) => (s, outs ++ [.result .inval])
  | (s, outs, some .noent) | (s, outs, some .notsup) => (s, outs ++ [.result .state])
  | (s, outs, some .other) => (s, outs ++ [.result .transport])

/-- `voxsdk_call_set_bitrate`. -/
def voxsdkCallSetBitrate (env : AdaptEnv) (bitrateBps : UInt32) (s : AdaptSys) :
    AdaptSys × List AdaptOut :=
  if bitrateBps ≠ 0 ∧ (bitrateBps < adaptBrMin ∨ adaptBrMax < bitrateBps) then (s, [.result .inval])
  else s.setBitrateFn env bitrateBps

/-- `set_adaptive_fn`. -/
def setAdaptiveFn (enabled : Bool) (minBps maxBps : UInt32) (s : AdaptSys) : AdaptSys :=
  { s with
    cfg :=
      { s.cfg with
        adaptiveBitrate := enabled
        adaptMinBitrate := if minBps ≠ 0 then minBps else s.cfg.adaptMinBitrate
        adaptMaxBitrate := if maxBps ≠ 0 then maxBps else s.cfg.adaptMaxBitrate } }

end AdaptSys

/-! ### The machine -/

/-- The call is answered or established, a stats tick with what `bitrate_tick` reads of its sample, and
the two API calls. -/
inductive AdaptAct where
  | callStart
  | tick (packetsSent : UInt32) (rttMs lossPct : ℚ) (env : AdaptEnv)
  | setBitrate (bitrateBps : UInt32) (env : AdaptEnv)
  | setAdaptive (enabled : Bool) (minBps maxBps : UInt32)

def AdaptSys.handle (s : AdaptSys) : AdaptAct → AdaptSys × List AdaptOut
  | .callStart => (s.voxAdaptCallStart, [])
  | .tick packetsSent rttMs lossPct env => s.bitrateTick env packetsSent rttMs lossPct
  | .setBitrate bitrateBps env => s.voxsdkCallSetBitrate env bitrateBps
  | .setAdaptive enabled minBps maxBps => (s.setAdaptiveFn enabled minBps maxBps, [])

/-- A call from its answer on, under any configuration. -/
def adaptSystem : Machine AdaptSys AdaptAct AdaptOut where
  init s := s.adaptBitrate = 0 ∧ s.adaptCleanTicks = 0 ∧ s.encoder = s.params
  step s act := some (s.handle act)

end VoxSdk
