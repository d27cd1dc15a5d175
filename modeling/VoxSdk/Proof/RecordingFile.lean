import VoxSdk.Record

/-!
# The file a recording leaves

The header goes out with sizes of an empty recording, and stopping the recording writes it again with the sizes
it has by then. A call that goes away closes the file as it stands.
-/

namespace VoxSdk

open Reactive Bytes

/-! ### The sizes in a WAV file -/

/-- The size in the RIFF chunk's header. -/
def riffSize (bytes : List UInt8) : Nat := ofLe ((bytes.drop 4).take 4)

/-- The size in the header of the data chunk, of a file with a 44 byte header. -/
def dataSize (bytes : List UInt8) : Nat := ofLe ((bytes.drop 40).take 4)

/-- The sizes in the file say what is in it. -/
structure SizesMatch (bytes : List UInt8) : Prop where
  riff : riffSize bytes + 8 = bytes.length
  data : dataSize bytes + 44 = bytes.length

/-- The sizes are those of a recording with nothing in it. -/
structure Provisional (bytes : List UInt8) : Prop where
  riff : riffSize bytes = 36
  data : dataSize bytes = 0

section Header

variable {srate ch n : Nat} {data : List UInt8}

theorem length_fourCc (a b c d : Char) : (fourCc a b c d).length = 4 := rfl

theorem length_wavHeader : (wavHeader srate ch n).length = 44 := by
  simp only [wavHeader, List.length_append, length_fourCc, length_le]

theorem riffSize_wavHeader : riffSize (wavHeader srate ch n ++ data) = (36 + n) % 2 ^ 32 := by
  simp only [riffSize, wavHeader, List.append_assoc]
  rw [List.drop_left' (length_fourCc _ _ _ _), List.take_left' (length_le _ _), ofLe_le]
  rfl

theorem dataSize_wavHeader : dataSize (wavHeader srate ch n ++ data) = n % 2 ^ 32 := by
  rw [dataSize, wavHeader, List.append_assoc, List.drop_left', List.take_left' (length_le _ _), ofLe_le]
  · rfl
  · simp only [List.length_append, length_fourCc, length_le]

theorem provisional_wavHeader : Provisional (wavHeader srate ch 0 ++ data) where
  riff := riffSize_wavHeader
  data := dataSize_wavHeader

theorem sizesMatch_wavHeader (hlt : (wavHeader srate ch (u32 data.length) ++ data).length < 2 ^ 32 + 8) :
    SizesMatch (wavHeader srate ch (u32 data.length) ++ data) := by
  rw [List.length_append, length_wavHeader] at hlt
  have hu32 : u32 data.length = data.length := Nat.mod_eq_of_lt (by omega)
  constructor
  · rw [riffSize_wavHeader, hu32, List.length_append, length_wavHeader, Nat.mod_eq_of_lt (by omega)]
    omega
  · rw [dataSize_wavHeader, hu32, List.length_append, length_wavHeader, Nat.mod_eq_of_lt (by omega)]
    omega

end Header

/-! ### What the recorder hears -/

/-- A frame of the tap the recorder can use. -/
structure TapFrame where
  dir : MediaDir
  pcm : List Int16
  srate : Nat
  ch : Nat
  deriving DecidableEq

def AuFrame.heard (dir : MediaDir) (af : AuFrame) : Option TapFrame :=
  if af.fmt = .s16le then some { dir, pcm := af.sampv, srate := af.srate, ch := af.ch } else none

/-- The call of `voxsdk_call_record_start` starts a recording. -/
def Recorder.starts (path : Bool) (dispatch : Int) (fopen : Option Errno) (r : Recorder) : Bool :=
  path && decide (dispatch = 0) && (!r.recActive && fopen.isNone)

/-- The frames heard since the recording was started. -/
def heardSince (r : Recorder) (act : RecordAct) (_ : List RecordOut) (frames : List TapFrame) : List TapFrame :=
  match act with
  | .start path dispatch fopen => if r.starts path dispatch fopen then [] else frames
  | .frame dir af => frames ++ (af.heard dir).toList
  | .stop _ | .destroy => frames

/-- The recorder with the frames it heard. -/
def heardSystem : Machine (Recorder × List TapFrame) RecordAct RecordOut :=
  recordSystem.withHistory [] heardSince

/-- A received frame is among them; a frame has a sample rate. -/
def Received (frames : List TapFrame) : Prop := ∃ f ∈ frames, f.dir = .rx ∧ f.srate ≠ 0

instance (frames : List TapFrame) : Decidable (Received frames) := by
  unfold Received
  infer_instance

namespace Recorder

variable {r r' : Recorder} {file : File} {data bytes : List UInt8} {pcm : List Int16} {srate ch : Nat}
  {dir : MediaDir} {frames : List TapFrame} {act : RecordAct} {os : List RecordOut}

/-- What has gone to the file: the header of an empty recording, and data behind it. -/
structure Written (r : Recorder) (file : File) (data : List UInt8) : Prop where
  atEnd : file.AtEnd
  bytes : if r.recHdrWritten then ∃ srate ch, file.bytes = wavHeader srate ch 0 ++ data
    else file.bytes = [] ∧ data = []
  count : r.recDataBytes = u32 data.length

theorem length_pcmBytes (pcm : List Int16) : (pcmBytes pcm).length = pcm.length * 2 := by
  induction pcm with
  | nil => rfl
  | cons x pcm ih =>
      rw [pcmBytes, List.flatMap_cons, List.length_append, length_le, List.length_cons, ← pcmBytes, ih]
      omega

theorem Written.congr (h : Written r file data) (hhdr : r'.recHdrWritten = r.recHdrWritten)
    (hcount : r'.recDataBytes = r.recDataBytes) : Written r' file data :=
  ⟨h.atEnd, by rw [hhdr]; exact h.bytes, hcount.trans h.count⟩

theorem written_opened (hhdr : r.recHdrWritten = false) (hcount : r.recDataBytes = 0) :
    Written r .opened [] where
  atEnd := File.atEnd_opened
  bytes := by
    rw [hhdr]
    exact ⟨rfl, rfl⟩
  count := hcount

/-- The header goes out with the first received frame, if it is not there. -/
theorem Written.headed (h : Written r file data) :
    (if r.recHdrWritten then file else file.fwrite (wavHeader r.recSrate r.recCh 0)).AtEnd ∧
      ∃ srate ch, (if r.recHdrWritten then file else file.fwrite (wavHeader r.recSrate r.recCh 0)).bytes =
        wavHeader srate ch 0 ++ data := by
  have hbytes := h.bytes
  cases hhdr : r.recHdrWritten with
  | true =>
      rw [hhdr, if_pos rfl] at hbytes
      exact ⟨h.atEnd, hbytes⟩
  | false =>
      rw [hhdr, if_neg Bool.false_ne_true] at hbytes
      obtain ⟨hempty, rfl⟩ := hbytes
      refine ⟨h.atEnd.fwrite _, r.recSrate, r.recCh, ?_⟩
      rw [if_neg Bool.false_ne_true, h.atEnd.bytes_fwrite, hempty, List.nil_append, List.append_nil]

/-- A received frame adds what is mixed of it. -/
theorem Written.writeRx (h : Written r file data) (pcm : List Int16) :
    ∃ file', (r.writeRx pcm file).recFile = some file' ∧
      Written (r.writeRx pcm file) file' (data ++ pcmBytes (r.mixRx pcm)) := by
  obtain ⟨hend, srate, ch, hbytes⟩ := h.headed
  refine ⟨_, rfl, hend.fwrite _, ?_, ?_⟩
  · refine ⟨srate, ch, ?_⟩
    rw [hend.bytes_fwrite, hbytes, List.append_assoc]
  · change u32 (r.recDataBytes + u32 ((r.mixRx pcm).length * 2)) = _
    rw [h.count, List.length_append, length_pcmBytes]
    simp only [u32, Nat.mod_add_mod, Nat.add_mod_mod]

/-! ### One frame -/

@[simp]
theorem recFile_capture : (r.capture srate ch).recFile = r.recFile := by
  unfold capture
  split <;> rfl

@[simp]
theorem recActive_capture : (r.capture srate ch).recActive = r.recActive := by
  unfold capture
  split <;> rfl

@[simp]
theorem recTx_capture : (r.capture srate ch).recTx = r.recTx := by
  unfold capture
  split <;> rfl

theorem Written.capture (h : Written r file data) (srate ch : Nat) :
    Written (r.capture srate ch) file data := by
  unfold Recorder.capture
  split
  · exact h.congr rfl rfl
  · exact h

/-- The recording has taken the frame's format, or has another one. -/
theorem voxRecordWriteFrame_eq (hfile : r.recFile = some file) (hactive : r.recActive = true) :
    r.voxRecordWriteFrame dir pcm srate ch =
      if srate ≠ (r.capture srate ch).recSrate ∨ ch ≠ (r.capture srate ch).recCh then r.capture srate ch
      else if dir = .tx then { r.capture srate ch with recTx := pcm.take recTxCap }
      else (r.capture srate ch).writeRx pcm file := by
  unfold voxRecordWriteFrame
  rw [hfile, hactive]
  cases dir <;> rfl

theorem voxRecordWriteFrame_of_closed (h : r.recFile = none) : r.voxRecordWriteFrame dir pcm srate ch = r := by
  unfold voxRecordWriteFrame
  rw [h]

/-! ### Stopping, and going away -/

theorem Written.drop_header (h : Written r file data) : file.bytes.drop 44 = data := by
  have hbytes := h.bytes
  split at hbytes
  · obtain ⟨srate, ch, heq⟩ := hbytes
    rw [heq, List.drop_left' length_wavHeader]
  · obtain ⟨hempty, rfl⟩ := hbytes
    rw [hempty, List.drop_nil]

/-- A recording that has a format gets its header written again when it is stopped. -/
theorem Written.recordStopFn (h : Written r file data) (hfile : r.recFile = some file) (hrate : r.recSrate ≠ 0) :
    r.recordStopFn.2 = some (wavHeader r.recSrate r.recCh (u32 data.length) ++ data) := by
  unfold Recorder.recordStopFn
  simp only [hfile, Option.map_some, if_pos hrate]
  rw [File.bytes_rewind_fwrite, length_wavHeader, h.drop_header, h.count]

theorem Written.provisional (h : Written r file data) (hne : file.bytes ≠ []) : Provisional file.bytes := by
  have hbytes := h.bytes
  split at hbytes
  · obtain ⟨srate, ch, heq⟩ := hbytes
    rw [heq]
    exact provisional_wavHeader
  · exact absurd hbytes.1 hne

/-- The invariant of the runs: while a recording is on, there is a file with what was written, and a format
once a frame was heard. -/
structure Underway (r : Recorder) (frames : List TapFrame) : Prop where
  active : r.recActive = r.recFile.isSome
  written : ∀ file, r.recFile = some file → ∃ data, Written r file data
  rated : ∀ file, r.recFile = some file → Received frames → r.recSrate ≠ 0

theorem underway_of_none (hfile : r.recFile = none) (hactive : r.recActive = false) : Underway r frames where
  active := by rw [hfile, hactive]; rfl
  written := by
    rw [hfile]
    exact nofun
  rated := by
    rw [hfile]
    exact nofun

theorem Underway.of_recFile_none (h : Underway r frames) (hfile : r.recFile = none) {frames' : List TapFrame} :
    Underway r frames' :=
  underway_of_none hfile (by rw [h.active, hfile]; rfl)

/-- A call of `voxsdk_call_record_start` begins an empty file, or changes nothing, or finds no recording on and
starts none. -/
theorem voxsdkCallRecordStart_cases (path : Bool) (dispatch : Int) (fopen : Option Errno) (r : Recorder) :
    r.starts path dispatch fopen = true ∧
        (r.voxsdkCallRecordStart path dispatch fopen).1 =
          { r with
            recFile := some .opened, recDataBytes := 0, recSrate := 0, recCh := 0
            recHdrWritten := false, recTx := [], recActive := true } ∨
      r.starts path dispatch fopen = false ∧
        ((r.voxsdkCallRecordStart path dispatch fopen).1 = r ∨
          (r.voxsdkCallRecordStart path dispatch fopen).1.recFile = none ∧
            (r.voxsdkCallRecordStart path dispatch fopen).1.recActive = false) := by
  unfold Recorder.voxsdkCallRecordStart Recorder.starts Recorder.recordStartFn
  by_cases hdispatch : dispatch = 0
  · cases path <;> cases hactive : r.recActive <;> cases fopen <;> simp [hdispatch]
  · cases path <;> simp [hdispatch]

theorem Underway.voxsdkCallRecordStart (h : Underway r frames) {path : Bool} {dispatch : Int}
    {fopen : Option Errno} :
    Underway (r.voxsdkCallRecordStart path dispatch fopen).1
      (if r.starts path dispatch fopen then [] else frames) := by
  rcases r.voxsdkCallRecordStart_cases path dispatch fopen with ⟨hstarts, heq⟩ | ⟨hstarts, heq | ⟨hnone, hoff⟩⟩
  · rw [heq, if_pos hstarts]
    refine ⟨rfl, fun file hfile => ?_, fun file _ hreceived => ?_⟩
    · obtain rfl := Option.some.inj hfile
      exact ⟨[], written_opened rfl rfl⟩
    · obtain ⟨f, hmem, -⟩ := hreceived
      cases hmem
  · rw [heq, hstarts]
    exact h
  · exact underway_of_none hnone hoff

theorem recSrate_capture_ne (h : r.recSrate ≠ 0 ∨ srate ≠ 0) : (r.capture srate ch).recSrate ≠ 0 := by
  unfold capture
  split
  · rename_i hzero
    exact h.resolve_left fun hne => hne hzero
  · assumption

/-- The step of a frame. -/
theorem Underway.voxRecordWriteFrame (h : Underway r frames) :
    Underway (r.voxRecordWriteFrame dir pcm srate ch) (frames ++ [⟨dir, pcm, srate, ch⟩]) := by
  cases hfile : r.recFile with
  | none =>
      rw [voxRecordWriteFrame_of_closed hfile]
      exact h.of_recFile_none hfile
  | some file =>
      have hactive : r.recActive = true := by rw [h.active, hfile]; rfl
      obtain ⟨data, hdata⟩ := h.written file hfile
      have hrated : Received (frames ++ [⟨dir, pcm, srate, ch⟩]) → (r.capture srate ch).recSrate ≠ 0 := by
        rintro ⟨f, hmem, hrx, hrate⟩
        apply recSrate_capture_ne
        rcases List.mem_append.mp hmem with hold | hnew
        · exact .inl (h.rated file hfile ⟨f, hold, hrx, hrate⟩)
        · obtain rfl := List.mem_singleton.mp hnew
          exact .inr hrate
      rw [voxRecordWriteFrame_eq hfile hactive]
      split
      · refine ⟨?_, fun file' hfile' => ?_, fun _ _ => hrated⟩
        · rw [recActive_capture, recFile_capture, hfile, hactive]
          rfl
        · rw [recFile_capture, hfile] at hfile'
          obtain rfl := Option.some.inj hfile'
          exact ⟨data, hdata.capture srate ch⟩
      · split
        · refine ⟨?_, fun file' hfile' => ?_, fun _ _ => hrated⟩
          · simp only [recActive_capture, recFile_capture, hfile, hactive]
            rfl
          · simp only [recFile_capture, hfile] at hfile'
            obtain rfl := Option.some.inj hfile'
            exact ⟨data, (hdata.capture srate ch).congr rfl rfl⟩
        · obtain ⟨file', hfile', hwritten⟩ := (hdata.capture srate ch).writeRx pcm
          refine ⟨?_, fun file'' hfile'' => ?_, fun _ _ => hrated⟩
          · rw [hfile']
            exact (recActive_capture).trans hactive
          · rw [hfile'] at hfile''
            obtain rfl := Option.some.inj hfile''
            exact ⟨_, hwritten⟩

/-- What the recorder hears of a frame, if it can use it. -/
theorem Underway.tap (h : Underway r frames) (af : AuFrame) :
    Underway (r.tap dir af) (frames ++ (af.heard dir).toList) := by
  unfold Recorder.tap AuFrame.heard
  by_cases hfmt : af.fmt = .s16le
  · rw [if_neg (not_not_intro hfmt), if_pos hfmt]
    exact h.voxRecordWriteFrame
  · rw [if_pos hfmt, if_neg hfmt, Option.toList_none, List.append_nil]
    exact h

theorem Underway.voxsdkCallRecordStop (h : Underway r frames) {dispatch : Int} :
    Underway (r.voxsdkCallRecordStop dispatch).1 frames := by
  unfold Recorder.voxsdkCallRecordStop
  split
  · exact h
  · exact underway_of_none rfl rfl

theorem recordSystem_step (hstep : recordSystem.step r act = some (r', os)) :
    r' = (r.perform act).1 ∧ os = (r.perform act).2 := by
  obtain ⟨-, heq⟩ := Option.ite_none_left_eq_some.mp hstep
  exact Prod.mk.inj (Option.some.inj heq.symm)

theorem Underway.step (h : Underway r frames) (hstep : recordSystem.step r act = some (r', os)) :
    Underway r' (heardSince r act os frames) := by
  obtain ⟨rfl, -⟩ := recordSystem_step hstep
  cases act with
  | start path dispatch fopen => exact h.voxsdkCallRecordStart
  | frame dir af => exact h.tap af
  | stop dispatch => exact h.voxsdkCallRecordStop
  | destroy => exact underway_of_none rfl rfl

theorem underway_of_run {p : Recorder × List TapFrame} {t : Trace RecordAct RecordOut}
    (hrun : heardSystem.Run Machine.Always p t) : Underway p.1 p.2 := by
  refine hrun.stateInvariant (I := fun p => Underway p.1 p.2) ?_ ?_
  · rintro p ⟨hp, -⟩
    rw [hp]
    exact underway_of_none rfl rfl
  · intro p act p' os h _ hs
    obtain ⟨hstep, hnext⟩ := Machine.withHistory_step.mp hs
    rw [hnext]
    exact h.step hstep

/-- Only a stop that is dispatched closes a file, and it is the one that was open. -/
theorem closed_of_stop {dispatch : Int} (h : .closed bytes ∈ (r.perform (.stop dispatch)).2) :
    r.recordStopFn.2 = some bytes := by
  rcases List.mem_append.mp h with hclosed | hreturned
  · obtain ⟨bytes', hmem, heq⟩ := List.mem_map.mp hclosed
    obtain rfl := RecordOut.closed.inj heq
    unfold voxsdkCallRecordStop at hmem
    split at hmem
    · cases hmem
    · exact Option.mem_toList.mp hmem
  · cases List.mem_singleton.mp hreturned

theorem closed_of_destroy (h : .closed bytes ∈ (r.perform .destroy).2) :
    ∃ file, r.recFile = some file ∧ file.bytes = bytes := by
  obtain ⟨bytes', hmem, heq⟩ := List.mem_map.mp h
  obtain rfl := RecordOut.closed.inj heq
  exact Option.map_eq_some_iff.mp (Option.mem_toList.mp hmem)

end Recorder

/-- **A recording that was stopped says in its header what is in it**, if a frame was received and the sizes fit
the header's fields. One that was closed with its call has the header of an empty recording. -/
theorem recording_closed {p p' : Recorder × List TapFrame} {t : Trace RecordAct RecordOut} {act : RecordAct}
    {os : List RecordOut} {bytes : List UInt8} (hrun : heardSystem.Run Machine.Always p t)
    (hstep : heardSystem.step p act = some (p', os)) (hclosed : .closed bytes ∈ os) :
    (∀ dispatch, act = .stop dispatch → Received p.2 → bytes.length < 2 ^ 32 + 8 → SizesMatch bytes) ∧
      (act = .destroy → bytes ≠ [] → Provisional bytes) := by
  have hunderway := Recorder.underway_of_run hrun
  obtain ⟨-, rfl⟩ := Recorder.recordSystem_step (Machine.withHistory_step.mp hstep).1
  constructor
  · rintro dispatch rfl hreceived hlt
    have hstopped := Recorder.closed_of_stop hclosed
    have hopen : p.1.recFile ≠ none := by
      intro hnone
      rw [Recorder.recordStopFn, hnone] at hstopped
      cases hstopped
    obtain ⟨file, hfile⟩ := Option.ne_none_iff_exists'.mp hopen
    obtain ⟨data, hwritten⟩ := hunderway.written file hfile
    have hbytes := hwritten.recordStopFn hfile (hunderway.rated file hfile hreceived)
    obtain rfl := Option.some.inj (hbytes.symm.trans hstopped)
    exact sizesMatch_wavHeader hlt
  · rintro rfl hne
    obtain ⟨file, hfile, rfl⟩ := Recorder.closed_of_destroy hclosed
    obtain ⟨data, hwritten⟩ := hunderway.written file hfile
    exact hwritten.provisional hne

/-- A recorder that was started and has received one sample of telephone quality. -/
def oneSample : Recorder :=
  { recFile := some { bytes := wavHeader 8000 1 0 ++ [5, 0], pos := 46 }, recDataBytes := 2
    recSrate := 8000, recCh := 1, recHdrWritten := true, recActive := true, recTx := [], freed := false }

theorem exists_run_oneSample :
    ∃ t, heardSystem.Run Machine.Always
      (oneSample, [{ dir := .rx, pcm := [5], srate := 8000, ch := 1 }]) t := by
  obtain ⟨p, t, hrun, hend⟩ := Machine.exists_run_of_exec (M := heardSystem) (fun _ _ => true)
    (show heardSystem.init (.zeroed, []) from ⟨rfl, rfl⟩)
    [.start true 0 none, .frame .rx { fmt := .s16le, sampv := [5], srate := 8000, ch := 1 }]
    (fun p _ => decide (p = (oneSample, [{ dir := .rx, pcm := [5], srate := 8000, ch := 1 }])))
    (by decide +kernel)
  obtain rfl := of_decide_eq_true hend
  exact ⟨t, hrun.always⟩

/-- It is stopped. -/
theorem recording_closed_stopped : SizesMatch (wavHeader 8000 1 2 ++ [5, 0]) := by
  obtain ⟨t, hrun⟩ := exists_run_oneSample
  have hstep : heardSystem.step (oneSample, [{ dir := .rx, pcm := [5], srate := 8000, ch := 1 }]) (.stop 0) =
      some (((oneSample.perform (.stop 0)).1, [{ dir := .rx, pcm := [5], srate := 8000, ch := 1 }]),
        (oneSample.perform (.stop 0)).2) := rfl
  exact (recording_closed hrun hstep List.mem_cons_self).1 0 rfl (by decide) (by decide)

/-- Its call goes away. -/
theorem recording_torn_down :
    ¬∀ (p p' : Recorder × List TapFrame) (t : Trace RecordAct RecordOut) (act : RecordAct)
      (os : List RecordOut), heardSystem.Run Machine.Always p t → heardSystem.step p act = some (p', os) →
      (∀ bytes, .closed bytes ∈ os → Received p.2 → bytes.length < 2 ^ 32 + 8 → SizesMatch bytes) ∧
        ∀ path dispatch fopen, act = .start path dispatch fopen → .returned 0 ∈ os →
          p.1.starts path dispatch fopen = true := by
  intro h
  obtain ⟨t, hrun⟩ := exists_run_oneSample
  have hsizes := (h _ _ _ .destroy _ hrun rfl).1 (wavHeader 8000 1 0 ++ [5, 0]) List.mem_cons_self (by decide)
  exact absurd (hsizes (by decide)).data (by decide)

end VoxSdk
