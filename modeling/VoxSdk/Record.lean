import VoxSdk.Lib.Bytes
import VoxSdk.Lib.Machine
import VoxSdk.Netmon

/-!
# The call recorder

`record.c` writes what is heard on a call to a WAV file. Frames come from the audio threads through the tap
filter (`media_tap.c`); `rec_lock` makes each of them, and what start, stop and the destructor do to the
recorder, one step. The header goes out with the first received frame, as it is in memory on a host that has
the low byte first, and is written again when the recording is stopped. A write to the file succeeds.
-/

namespace VoxSdk

open Reactive Bytes

/-- `voxsdk_media_dir_t`. -/
inductive MediaDir where
  | rx
  | tx
  deriving DecidableEq, Repr

/-- `enum aufmt`, as far as the tap tells its values apart. -/
inductive Aufmt where
  | s16le
  | other
  deriving DecidableEq, Repr

/-- `struct auframe`. The samples of all channels are in `sampv`, which means nothing in another format. -/
structure AuFrame where
  fmt : Aufmt
  sampv : List Int16
  srate : Nat
  ch : Nat
  deriving DecidableEq

/-! ### The file -/

/-- The bytes of a four letter chunk name. -/
def fourCc (a b c d : Char) : List UInt8 := [a, b, c, d].map fun x => UInt8.ofNat x.toNat

/-- `wav_write_header`; `ch` is a `uint8_t`, and what is computed from it is cut to the field it goes into. -/
def wavHeader (srate ch dataBytes : Nat) : List UInt8 :=
  fourCc 'R' 'I' 'F' 'F' ++ le 4 (36 + dataBytes) ++ fourCc 'W' 'A' 'V' 'E' ++
    fourCc 'f' 'm' 't' ' ' ++ le 4 16 ++ le 2 1 ++ le 2 ch ++ le 4 srate ++ le 4 (srate * ch * 2) ++
    le 2 (ch * 2) ++ le 2 16 ++ fourCc 'd' 'a' 't' 'a' ++ le 4 dataBytes

/-- Samples in memory. -/
def pcmBytes (pcm : List Int16) : List UInt8 := pcm.flatMap fun x => le 2 x.toUInt16.toNat

/-- One sample of `mix_s16`. -/
def mixSample (dst src : Int16) : Int16 :=
  let v := dst.toInt + src.toInt
  if v > 32767 then 32767 else if v < -32768 then -32768 else Int16.ofInt v

/-- `mix_s16`, of two buffers with the same count. -/
def mixS16 (dst src : List Int16) : List Int16 := List.zipWith mixSample dst src

/-! ### The recorder -/

/-- The samples `rec_tx_buf` has room for, as has the buffer a received frame is mixed in. -/
def recTxCap : Nat := 4096

/-- What `struct voxsdk_call` has for recording. `recTx` is the first `rec_tx_count` samples of `rec_tx_buf`. -/
structure Recorder where
  recFile : Option File
  recDataBytes : Nat
  recSrate : Nat
  recCh : Nat
  recHdrWritten : Bool
  recActive : Bool
  recTx : List Int16
  freed : Bool
  deriving DecidableEq

namespace Recorder

/-- The recorder of a new call: the wrapper comes from `mem_zalloc`. -/
def zeroed : Recorder :=
  { recFile := none, recDataBytes := 0, recSrate := 0, recCh := 0, recHdrWritten := false
    recActive := false, recTx := [], freed := false }

/-- A received frame with the sent one mixed in, if that has the same length. -/
def mixRx (pcm : List Int16) (r : Recorder) : List Int16 :=
  let mix := pcm.take recTxCap
  if r.recTx.length = mix.length then mixS16 mix r.recTx else mix

/-- What a received frame does once its format is the recording's. -/
def writeRx (pcm : List Int16) (file : File) (r : Recorder) : Recorder :=
  let file := if r.recHdrWritten then file else file.fwrite (wavHeader r.recSrate r.recCh 0)
  { r with
    recFile := some (file.fwrite (pcmBytes (r.mixRx pcm)))
    recHdrWritten := true
    recDataBytes := u32 (r.recDataBytes + u32 ((r.mixRx pcm).length * 2)) }

/-- The first frame gives the recording its format. -/
def capture (srate ch : Nat) (r : Recorder) : Recorder :=
  if r.recSrate = 0 then { r with recSrate := srate, recCh := ch } else r

/-- `vox_record_write_frame`. -/
def voxRecordWriteFrame (dir : MediaDir) (pcm : List Int16) (srate ch : Nat) (r : Recorder) : Recorder :=
  match r.recFile, r.recActive with
  | some file, true =>
      let r := r.capture srate ch
      if srate ≠ r.recSrate ∨ ch ≠ r.recCh then r
      else
        match dir with
        | .tx => { r with recTx := pcm.take recTxCap }
        | .rx => r.writeRx pcm file
  | _, _ => r

/-- `record_start_fn`, with `ctx->result`; `fopen` says with what error the file cannot be opened. -/
def recordStartFn (fopen : Option Errno) (r : Recorder) : Recorder × Option Errno :=
  if r.recActive then (r, some .already)
  else
    match fopen with
    | some err => ({ r with recFile := none }, some err)
    | none =>
        ({ r with
            recFile := some .opened, recDataBytes := 0, recSrate := 0, recCh := 0
            recHdrWritten := false, recTx := [], recActive := true }, none)

/-- `record_stop_fn`, with the file it closes. -/
def recordStopFn (r : Recorder) : Recorder × Option (List UInt8) :=
  let finished := r.recFile.map fun file =>
    if r.recSrate ≠ 0 then file.rewind.fwrite (wavHeader r.recSrate r.recCh r.recDataBytes) else file
  ({ r with recActive := false, recFile := none }, finished.map File.bytes)

/-- What `vox_call_destructor` does to the recorder, with the file it closes. -/
def destructor (r : Recorder) : Recorder × Option (List UInt8) :=
  ({ r with recActive := false, recFile := none, freed := true }, r.recFile.map File.bytes)

/-- `voxsdk_call_record_start`, with what it returns: `path` says whether there is one, `dispatch` is the error
of `vox_dispatch_sync`, and `ctx.result` is not looked at. -/
def voxsdkCallRecordStart (path : Bool) (dispatch : Int) (fopen : Option Errno) (r : Recorder) :
    Recorder × Int :=
  if !path then (r, VoxError.inval.code)
  else if dispatch ≠ 0 then (r, dispatch)
  else ((r.recordStartFn fopen).1, 0)

/-- `voxsdk_call_record_stop`. -/
def voxsdkCallRecordStop (dispatch : Int) (r : Recorder) : Recorder × Option (List UInt8) × Int :=
  if dispatch ≠ 0 then (r, none, dispatch) else (r.recordStopFn.1, r.recordStopFn.2, 0)

/-- `tap_encode` and `tap_decode`, of the filter states whose call this is. -/
def tap (dir : MediaDir) (af : AuFrame) (r : Recorder) : Recorder :=
  if af.fmt ≠ .s16le then r else r.voxRecordWriteFrame dir af.sampv af.srate af.ch

end Recorder

/-! ### The call as a machine -/

/-- What happens to the recorder of a call. -/
inductive RecordAct where
  | start (path : Bool) (dispatch : Int) (fopen : Option Errno)
  | frame (dir : MediaDir) (af : AuFrame)
  | stop (dispatch : Int)
  | destroy
  deriving DecidableEq

/-- What comes of it: a return value, a file that is closed with these bytes in it. -/
inductive RecordOut where
  | returned (err : Int)
  | closed (bytes : List UInt8)
  deriving DecidableEq

namespace Recorder

def perform (r : Recorder) : RecordAct → Recorder × List RecordOut
  | .start path dispatch fopen =>
      let started := r.voxsdkCallRecordStart path dispatch fopen
      (started.1, [.returned started.2])
  | .frame dir af => (r.tap dir af, [])
  | .stop dispatch =>
      let stopped := r.voxsdkCallRecordStop dispatch
      (stopped.1, stopped.2.1.toList.map .closed ++ [.returned stopped.2.2])
  | .destroy => (r.destructor.1, r.destructor.2.toList.map .closed)

end Recorder

/-- Nothing happens to a recorder that was freed with its call. -/
def recordSystem : Machine Recorder RecordAct RecordOut where
  init r := r = .zeroed
  step r act := if r.freed then none else some (r.perform act)

end VoxSdk
