import VoxSdk.Lib.Machine
import VoxSdk.Record
import Mathlib.Logic.Function.Basic

/-!
# The app-owned capture device

`audio_external.c`, the capture side: baresip opens and frees sources, the app pushes samples, and the source
opened last hands them to its encoder in frames. `s_lock` makes each push, each opening and each freeing one step;
a push reads `s_ready` before it takes the lock, so what it saw may be out of date by then. A buffer is libre's
`aubuf` as the source describes it: first in first out, with the oldest samples dropped once it holds more than its
maximum, and nothing read from it, but silence, while it holds less than its minimum.
-/

namespace VoxSdk

open Reactive

/-- The `errno` values of the driver. -/
inductive AuErr where
  | inval
  | nodev
  | notsup
  | nomem
  deriving DecidableEq, Repr

/-- `struct ausrc_prm`. -/
structure AusrcPrm where
  srate : UInt32
  ch : UInt8
  ptime : UInt32
  fmt : Aufmt
  deriving DecidableEq

/-- `EXT_BUF_MAX_MS`. -/
def extBufMaxMs : UInt32 := 500

/-- `nsamp_for`, in `size_t`. -/
def nsampFor (srate : UInt32) (ch : UInt8) (ptime : UInt32) : Nat :=
  srate.toNat * ch.toNat * (if ptime ≠ 0 then ptime.toNat else 20) % 2 ^ 64 / 1000

/-! ### The buffer -/

/-- `struct aubuf`; its limits are in bytes. -/
structure Aubuf where
  minSz : Nat
  maxSz : Nat
  sampv : List Int16
  deriving DecidableEq

namespace Aubuf

/-- `aubuf_alloc`. -/
def alloc (minSz maxSz : Nat) : Aubuf := { minSz, maxSz, sampv := [] }

/-- `aubuf_cur_size`. -/
def curSize (ab : Aubuf) : Nat := ab.sampv.length * 2

/-- `aubuf_write_auframe`. -/
def writeAuframe (pcm : List Int16) (ab : Aubuf) : Aubuf :=
  let sampv := ab.sampv ++ pcm
  if sampv.length * 2 ≤ ab.maxSz then { ab with sampv }
  else { ab with sampv := sampv.drop (sampv.length - ab.maxSz / 2) }

/-- `aubuf_read_auframe`, of `sampc` samples. -/
def readAuframe (sampc : Nat) (ab : Aubuf) : List Int16 × Aubuf :=
  if ab.curSize < ab.minSz then (List.replicate sampc 0, ab)
  else (ab.sampv.take sampc, { ab with sampv := ab.sampv.drop sampc })

/-- The loop of `voxsdk_audio_external_push`, of at most so many rounds: the frames it hands to `rh`, and what it
leaves. Each round but the last takes a sample at least. -/
def drain (sampc : Nat) : Nat → Aubuf → List (List Int16) × Aubuf
  | 0, ab => ([], ab)
  | rounds + 1, ab =>
      if sampc * 2 ≤ ab.curSize then
        let read := ab.readAuframe sampc
        if ab.curSize ≤ read.2.curSize then ([], read.2)
        else
          let drained := drain sampc rounds read.2
          (read.1 :: drained.1, drained.2)
      else ([], ab)

end Aubuf

/-! ### The driver -/

/-- `struct ausrc_st`. -/
structure AusrcSt where
  prm : AusrcPrm
  ab : Aubuf
  sampc : Nat
  deriving DecidableEq

/-- A source as `ext_src_alloc` fills it in. The minimum of its buffer is one frame. -/
def AusrcSt.new (prm : AusrcPrm) : AusrcSt :=
  let sampc := nsampFor prm.srate prm.ch prm.ptime
  { prm, sampc, ab := Aubuf.alloc (sampc * 2) (nsampFor prm.srate prm.ch extBufMaxMs * 2) }

/-- The driver and the sources baresip holds, each under the number it was opened with; `srcl` is `s_srcl`, the
newest last. -/
structure AudioExternal where
  ready : Bool
  opened : Nat
  src : Nat → Option AusrcSt
  srcl : List Nat

/-- What can happen: `fails` is an allocation of `ext_src_alloc` that fails, or an error of the buffer that a push
writes to; `sawReady` is what the push has read of `s_ready`. -/
inductive ExtAct where
  | init (registers : Bool)
  | close
  | alloc (prm : AusrcPrm) (fails : Option AuErr)
  | free (id : Nat)
  | push (pcm : Option (List Int16)) (sawReady : Bool) (fails : Option AuErr)

/-- What is seen of a step: a source that was opened, a frame handed to a source's `rh`, and what a function
returns. -/
inductive ExtOut where
  | opened (id : Nat) (prm : AusrcPrm)
  | frame (id : Nat) (sampv : List Int16)
  | returned (err : Option AuErr)
  deriving DecidableEq

namespace AudioExternal

/-- `cur_src`. -/
def curSrc (s : AudioExternal) : Option (Nat × AusrcSt) :=
  s.srcl.getLast?.bind fun id => (s.src id).map fun st => (id, st)

/-- `ausrc_destructor`. -/
def ausrcDestructor (id : Nat) (s : AudioExternal) : AudioExternal :=
  { s with src := Function.update s.src id none, srcl := s.srcl.filter fun other => decide (other ≠ id) }

/-- `ext_src_alloc`, of parameters and a handler that are not NULL. -/
def extSrcAlloc (prm : AusrcPrm) (fails : Option AuErr) (s : AudioExternal) : AudioExternal × List ExtOut :=
  if prm.fmt ≠ .s16le then (s, [.returned (some .notsup)])
  else
    match fails with
    | some err => (s, [.returned (some err)])
    | none =>
        ({ s with
          opened := s.opened + 1
          src := Function.update s.src s.opened (some (.new prm))
          srcl := s.srcl ++ [s.opened] }, [.opened s.opened prm, .returned none])

/-- The checks of `voxsdk_audio_external_push`: the source it writes to, and what it writes. -/
def pushTarget (pcm : Option (List Int16)) (sawReady : Bool) (s : AudioExternal) :
    Except AuErr (Nat × AusrcSt × List Int16) :=
  match pcm with
  | none => .error .inval
  | some pcm =>
      if pcm.length = 0 then .error .inval
      else if !sawReady then .error .nodev
      else
        match s.curSrc with
        | none => .error .nodev
        | some (id, st) => if pcm.length % st.prm.ch.toNat ≠ 0 then .error .inval else .ok (id, st, pcm)

/-- `voxsdk_audio_external_push`. -/
def push (pcm : Option (List Int16)) (sawReady : Bool) (fails : Option AuErr) (s : AudioExternal) :
    AudioExternal × List ExtOut :=
  match s.pushTarget pcm sawReady with
  | .error err => (s, [.returned (some err)])
  | .ok (id, st, pcm) =>
      match fails with
      | some err => (s, [.returned (some err)])
      | none =>
          let ab := st.ab.writeAuframe pcm
          let drained := ab.drain st.sampc (ab.sampv.length + 1)
          ({ s with src := Function.update s.src id (some { st with ab := drained.2 }) },
            drained.1.map (ExtOut.frame id) ++ [.returned none])

/-- A step, if it can be taken. -/
def act (s : AudioExternal) : ExtAct → Option (AudioExternal × List ExtOut)
  | .init registers => some ({ s with ready := s.ready || registers }, [])
  | .close => some (if s.ready then { s with ready := false, srcl := [] } else s, [])
  | .alloc prm fails => some (s.extSrcAlloc prm fails)
  | .free id => (s.src id).map fun _ => (s.ausrcDestructor id, [])
  | .push pcm sawReady fails => some (s.push pcm sawReady fails)

end AudioExternal

/-- The runs of the driver, from the start of the process on. -/
def audioExternal : Machine AudioExternal ExtAct ExtOut where
  init s := s = { ready := false, opened := 0, src := fun _ => none, srcl := [] }
  step := AudioExternal.act

end VoxSdk
