import VoxSdk.Proof.RecordingFile

/-!
# What a recording has in it

What one hears on the call: the received frames one after the other, each with the last sent frame in it. The
recorder has room for 4096 samples of either.
-/

namespace VoxSdk

open Reactive Bytes

/-! ### The mixdown -/

/-- The sum of two samples, held within what a sample can be. -/
def satAdd (a b : Int16) : Int16 := Int16.ofInt (max (-32768) (min 32767 (a.toInt + b.toInt)))

def TapFrame.format (f : TapFrame) : Nat × Nat := (f.srate, f.ch)

/-- The format of a recording is that of the first frame it hears. -/
def committed (frames : List TapFrame) : Option (Nat × Nat) := frames.head?.map TapFrame.format

def inFormat (frames : List TapFrame) : List TapFrame :=
  frames.filter fun f => committed frames = some f.format

/-- A received frame with the last sent one in it, when they are as long as each other. -/
def mixed (sent : Option (List Int16)) (pcm : List Int16) : List Int16 :=
  match sent with
  | some tx => if tx.length = pcm.length then List.zipWith satAdd pcm tx else pcm
  | none => pcm

/-- The last frame sent, and all that was received. -/
structure Mixdown where
  sent : Option (List Int16)
  samples : List Int16

def Mixdown.hear (m : Mixdown) (f : TapFrame) : Mixdown :=
  match f.dir with
  | .tx => { m with sent := some f.pcm }
  | .rx => { m with samples := m.samples ++ mixed m.sent f.pcm }

/-- What a recording of these frames should have in it. -/
def mixdown (frames : List TapFrame) : Mixdown :=
  (inFormat frames).foldl Mixdown.hear { sent := none, samples := [] }

/-- A frame the recorder has room for: a received one has at most 4096 samples, and where it has as many, a
longer sent frame would add nothing to it. -/
def Carried (frames : List TapFrame) (f : TapFrame) : Prop :=
  f.srate ≠ 0 ∧
    (f.dir = .rx → committed (frames ++ [f]) = some f.format →
      f.pcm.length ≤ 4096 ∧
        ∀ tx ∈ (mixdown frames).sent, f.pcm.length = 4096 → 4096 < tx.length →
          List.zipWith satAdd f.pcm tx = f.pcm)

instance (frames : List TapFrame) (f : TapFrame) : Decidable (Carried frames f) :=
  inferInstanceAs (Decidable (_ ∧ _))

/-- Every frame that comes while a recording is on is carried. -/
def Lossless (p : Recorder × List TapFrame) : RecordAct → Prop
  | .frame dir af => p.1.recActive = true → ∀ f ∈ af.heard dir, Carried p.2 f
  | .start _ _ _ | .stop _ | .destroy => True

instance (p : Recorder × List TapFrame) : (act : RecordAct) → Decidable (Lossless p act)
  | .frame dir af => inferInstanceAs (Decidable (p.1.recActive = true → ∀ f ∈ af.heard dir, Carried p.2 f))
  | .start _ _ _ | .stop _ | .destroy => inferInstanceAs (Decidable True)

section Mixdown

variable {frames : List TapFrame} {f : TapFrame} {pcm : List Int16}

theorem committed_snoc : committed (frames ++ [f]) = some ((committed frames).getD f.format) := by
  cases frames <;> rfl

theorem inFormat_snoc : inFormat (frames ++ [f]) =
    inFormat frames ++ if committed (frames ++ [f]) = some f.format then [f] else [] := by
  cases frames with
  | nil => simp [inFormat, committed]
  | cons f' frames =>
      have hcommitted : committed (f' :: frames ++ [f]) = committed (f' :: frames) := rfl
      rw [inFormat, hcommitted, List.filter_append]
      split
      · rename_i hformat
        rw [List.filter_singleton, decide_eq_true hformat]
        rfl
      · rename_i hformat
        rw [List.filter_singleton, decide_eq_false hformat]
        rfl

theorem mixdown_snoc : mixdown (frames ++ [f]) =
    if committed (frames ++ [f]) = some f.format then (mixdown frames).hear f else mixdown frames := by
  rw [mixdown, inFormat_snoc, List.foldl_append]
  split <;> rfl

theorem mixSample_eq (a b : Int16) : mixSample a b = satAdd a b := by
  unfold mixSample satAdd
  simp only
  split
  · rw [show max (-32768) (min 32767 (a.toInt + b.toInt)) = 32767 by omega]
    rfl
  · split
    · rw [show max (-32768) (min 32767 (a.toInt + b.toInt)) = -32768 by omega]
      rfl
    · rw [show max (-32768) (min 32767 (a.toInt + b.toInt)) = a.toInt + b.toInt by omega]

theorem mixS16_eq (dst src : List Int16) : mixS16 dst src = List.zipWith satAdd dst src := by
  rw [mixS16, funext fun a => funext fun b => mixSample_eq a b]

theorem zipWith_take {tx : List Int16} {n : Nat} (h : pcm.length ≤ n) :
    List.zipWith satAdd pcm (tx.take n) = List.zipWith satAdd pcm tx := by
  calc
    List.zipWith satAdd pcm (tx.take n) = List.zipWith satAdd (pcm.take n) (tx.take n) := by
      rw [List.take_of_length_le h]
    _ = (List.zipWith satAdd pcm tx).take n := List.take_zipWith.symm
    _ = List.zipWith satAdd pcm tx := by
      apply List.take_of_length_le
      rw [List.length_zipWith]
      omega

/-- With room for both, the last sent frame is in the received one as it should be. -/
theorem mixRx_eq {r : Recorder} {sent : Option (List Int16)} (htx : r.recTx = (sent.getD []).take 4096)
    (hfits : pcm.length ≤ 4096)
    (hclip : ∀ tx ∈ sent, pcm.length = 4096 → 4096 < tx.length → List.zipWith satAdd pcm tx = pcm) :
    r.mixRx pcm = mixed sent pcm := by
  unfold Recorder.mixRx recTxCap
  simp only [List.take_of_length_le hfits, htx, mixS16_eq]
  cases sent with
  | none =>
      cases pcm with
      | nil => rfl
      | cons x pcm => rfl
  | some tx =>
      simp only [Option.getD_some, mixed, List.length_take, zipWith_take hfits]
      by_cases hlong : 4096 < tx.length
      · rw [if_neg (show ¬tx.length = pcm.length by omega)]
        split
        · exact hclip tx rfl (by omega) hlong
        · rfl
      · rw [Nat.min_eq_right (Nat.le_of_not_lt hlong)]

end Mixdown

/-! ### The runs -/

namespace Recorder

variable {r r' : Recorder} {file : File} {frames : List TapFrame} {f : TapFrame} {srate ch : Nat}
  {act : RecordAct} {os : List RecordOut} {bytes : List UInt8}

/-- The recording has the format of the first frame, if there was one. -/
structure Committed (r : Recorder) (frames : List TapFrame) : Prop where
  unheard : r.recSrate = 0 → frames = []
  heard : r.recSrate ≠ 0 → committed frames = some (r.recSrate, r.recCh)

theorem Committed.capture (h : Committed r frames) (hrate : f.srate ≠ 0) :
    Committed (r.capture f.srate f.ch) (frames ++ [f]) := by
  unfold Recorder.capture
  split
  · rename_i hzero
    rw [h.unheard hzero]
    exact ⟨fun h => absurd h hrate, fun _ => rfl⟩
  · rename_i hne
    refine ⟨fun h => absurd h hne, fun _ => ?_⟩
    rw [committed_snoc, h.heard hne, Option.getD_some]

theorem Committed.format_iff (h : Committed r (frames ++ [f])) :
    ¬(f.srate ≠ r.recSrate ∨ f.ch ≠ r.recCh) ↔ committed (frames ++ [f]) = some f.format := by
  have hne : r.recSrate ≠ 0 := by
    intro hzero
    have := h.unheard hzero
    simp at this
  rw [h.heard hne, Option.some.injEq, TapFrame.format, Prod.mk.injEq, not_or, not_not, not_not, eq_comm,
    eq_comm (a := f.ch)]

/-- The invariant of the runs: what has gone to the open file is the mixdown of what was heard. -/
structure Mixes (r : Recorder) (frames : List TapFrame) (file : File) : Prop where
  committed : Committed r frames
  sent : r.recTx = ((mixdown frames).sent.getD []).take 4096
  written : Written r file (pcmBytes (mixdown frames).samples)

theorem pcmBytes_append (pcm pcm' : List Int16) : pcmBytes (pcm ++ pcm') = pcmBytes pcm ++ pcmBytes pcm' :=
  List.flatMap_append

/-- The step of a frame that is carried. -/
theorem Mixes.frame (h : Mixes r frames file) (hfile : r.recFile = some file) (hactive : r.recActive = true)
    (hcarried : Carried frames f) :
    ∃ file', (r.voxRecordWriteFrame f.dir f.pcm f.srate f.ch).recFile = some file' ∧
      Mixes (r.voxRecordWriteFrame f.dir f.pcm f.srate f.ch) (frames ++ [f]) file' := by
  have hcommitted := h.committed.capture hcarried.1
  have hwritten := h.written.capture f.srate f.ch
  have hsent : (r.capture f.srate f.ch).recTx = _ := recTx_capture.trans h.sent
  rw [voxRecordWriteFrame_eq hfile hactive]
  by_cases hformat : VoxSdk.committed (frames ++ [f]) = some f.format
  · rw [if_neg (hcommitted.format_iff.mpr hformat)]
    have hmixdown : mixdown (frames ++ [f]) = (mixdown frames).hear f := by
      rw [mixdown_snoc, if_pos hformat]
    cases hdir : f.dir with
    | tx =>
        have hhear : (mixdown frames).hear f = { mixdown frames with sent := some f.pcm } := by
          rw [Mixdown.hear, hdir]
        rw [if_pos rfl]
        refine ⟨file, recFile_capture.trans hfile, ⟨⟨hcommitted.unheard, hcommitted.heard⟩, ?_, ?_⟩⟩
        · rw [hmixdown, hhear]
          rfl
        · rw [hmixdown, hhear]
          exact hwritten.congr rfl rfl
    | rx =>
        have hhear : (mixdown frames).hear f =
            { mixdown frames with
              samples := (mixdown frames).samples ++ mixed (mixdown frames).sent f.pcm } := by
          rw [Mixdown.hear, hdir]
        obtain ⟨hfits, hclip⟩ := hcarried.2 hdir hformat
        have hmix := mixRx_eq hsent hfits hclip
        obtain ⟨file', hfile', hwritten'⟩ := hwritten.writeRx f.pcm
        rw [if_neg (by decide)]
        refine ⟨file', hfile', ⟨⟨hcommitted.unheard, hcommitted.heard⟩, ?_, ?_⟩⟩
        · rw [hmixdown, hhear]
          exact hsent
        · rw [hmixdown, hhear, pcmBytes_append, ← hmix]
          exact hwritten'
  · rw [if_pos (not_not.mp fun hno => hformat (hcommitted.format_iff.mp hno))]
    have hmixdown : mixdown (frames ++ [f]) = mixdown frames := by
      rw [mixdown_snoc, if_neg hformat]
    refine ⟨file, recFile_capture.trans hfile, hcommitted, ?_, ?_⟩
    · rw [hmixdown]
      exact hsent
    · rw [hmixdown]
      exact hwritten

/-- What a recording has behind its header is the mixdown, while it is on. -/
def Faithful (p : Recorder × List TapFrame) : Prop :=
  Underway p.1 p.2 ∧ ∀ file, p.1.recFile = some file → Mixes p.1 p.2 file

theorem mixes_opened (hrate : r.recSrate = 0) (htx : r.recTx = []) (hhdr : r.recHdrWritten = false)
    (hcount : r.recDataBytes = 0) : Mixes r [] .opened where
  committed := ⟨fun _ => rfl, fun h => absurd hrate h⟩
  sent := htx
  written := written_opened hhdr hcount

theorem Faithful.voxsdkCallRecordStart (h : Faithful (r, frames)) {path : Bool} {dispatch : Int}
    {fopen : Option Errno} :
    ∀ file, (r.voxsdkCallRecordStart path dispatch fopen).1.recFile = some file →
      Mixes (r.voxsdkCallRecordStart path dispatch fopen).1
        (if r.starts path dispatch fopen then [] else frames) file := by
  intro file hfile
  rcases r.voxsdkCallRecordStart_cases path dispatch fopen with ⟨hstarts, heq⟩ | ⟨hstarts, heq | ⟨hnone, -⟩⟩
  · rw [heq] at hfile ⊢
    obtain rfl := Option.some.inj hfile
    rw [if_pos hstarts]
    exact mixes_opened rfl rfl rfl rfl
  · rw [heq] at hfile ⊢
    rw [hstarts]
    exact h.2 file hfile
  · rw [hnone] at hfile
    cases hfile

theorem Faithful.voxsdkCallRecordStop (h : Faithful (r, frames)) {dispatch : Int} :
    ∀ file, (r.voxsdkCallRecordStop dispatch).1.recFile = some file →
      Mixes (r.voxsdkCallRecordStop dispatch).1 frames file := by
  unfold Recorder.voxsdkCallRecordStop
  split
  · exact h.2
  · exact nofun

theorem Faithful.tap (h : Faithful (r, frames)) {dir : MediaDir} {af : AuFrame}
    (hcarried : r.recActive = true → ∀ f ∈ af.heard dir, Carried frames f) :
    ∀ file, (r.tap dir af).recFile = some file → Mixes (r.tap dir af) (frames ++ (af.heard dir).toList) file := by
  unfold Recorder.tap
  cases hheard : af.heard dir with
  | none =>
      have hfmt : af.fmt ≠ .s16le := fun hfmt => by simp [AuFrame.heard, hfmt] at hheard
      rw [if_pos hfmt, Option.toList_none, List.append_nil]
      exact h.2
  | some f =>
      obtain ⟨hfmt, heq⟩ := Option.ite_none_right_eq_some.mp hheard
      obtain rfl := Option.some.inj heq
      rw [if_neg (not_not_intro hfmt)]
      cases hfile : r.recFile with
      | none =>
          rw [voxRecordWriteFrame_of_closed hfile, hfile]
          exact nofun
      | some file =>
          have hactive : r.recActive = true := by rw [h.1.active, hfile]; rfl
          obtain ⟨file', hfile', hmixes⟩ := (h.2 file hfile).frame hfile hactive (hcarried hactive _ hheard)
          intro file'' hfile''
          obtain rfl := Option.some.inj (hfile'.symm.trans hfile'')
          exact hmixes

end Recorder

open Recorder

theorem recordSystem_faithful {p : Recorder × List TapFrame} {t : Trace RecordAct RecordOut}
    (hrun : heardSystem.Run Lossless p t) : Faithful p := by
  refine hrun.stateInvariant ?_ ?_
  · rintro ⟨r, frames⟩ ⟨rfl, rfl⟩
    exact ⟨underway_of_none rfl rfl, nofun⟩
  · rintro ⟨r, frames⟩ act ⟨r', frames'⟩ os h hlossless hs
    obtain ⟨hstep, hnext⟩ := Machine.withHistory_step.mp hs
    obtain rfl : frames' = _ := hnext
    refine ⟨h.1.step hstep, ?_⟩
    obtain ⟨rfl, -⟩ := recordSystem_step hstep
    cases act with
    | start path dispatch fopen => exact h.voxsdkCallRecordStart
    | frame dir af => exact h.tap hlossless
    | stop dispatch => exact h.voxsdkCallRecordStop
    | destroy => exact nofun

/-- Rewriting the header leaves what is behind it. -/
theorem drop_of_recordStopFn {r : Recorder} {bytes data : List UInt8}
    (hdata : ∀ file, r.recFile = some file → file.bytes.drop 44 = data) (h : r.recordStopFn.2 = some bytes) :
    bytes.drop 44 = data := by
  obtain ⟨finished, hfinished, rfl⟩ := Option.map_eq_some_iff.mp h
  obtain ⟨file, hfile, rfl⟩ := Option.map_eq_some_iff.mp hfinished
  rw [← hdata file hfile]
  split
  · rw [File.bytes_rewind_fwrite, List.drop_left' length_wavHeader, length_wavHeader]
  · rfl

/-- **The content of a recording is the mixdown of what was heard**, sample for sample, in every run in which
the recorder has room for the frames: while it is on, and when its file is closed. -/
theorem recording_lossless {p : Recorder × List TapFrame} {t : Trace RecordAct RecordOut}
    (hrun : heardSystem.Run Lossless p t) :
    (∀ file, p.1.recFile = some file → file.bytes.drop 44 = pcmBytes (mixdown p.2).samples) ∧
      ∀ p' act os bytes, heardSystem.step p act = some (p', os) → .closed bytes ∈ os →
        bytes.drop 44 = pcmBytes (mixdown p.2).samples := by
  have hdata : ∀ file, p.1.recFile = some file → file.bytes.drop 44 = pcmBytes (mixdown p.2).samples := by
    intro file hfile
    exact ((recordSystem_faithful hrun).2 file hfile).written.drop_header
  refine ⟨hdata, ?_⟩
  intro p' act os bytes hs hclosed
  obtain ⟨-, rfl⟩ := recordSystem_step (Machine.withHistory_step.mp hs).1
  cases act with
  | start path dispatch fopen => cases List.mem_singleton.mp hclosed
  | frame dir af => cases hclosed
  | stop dispatch => exact drop_of_recordStopFn hdata (closed_of_stop hclosed)
  | destroy =>
      obtain ⟨file, hfile, rfl⟩ := closed_of_destroy hclosed
      exact hdata file hfile

/-- A loud sample is received after another was sent. -/
theorem recording_lossless_loud :
    ∃ (p : Recorder × List TapFrame) (file : File), p.1.recFile = some file ∧
      file.bytes.drop 44 = pcmBytes (mixdown p.2).samples ∧ (mixdown p.2).samples = [32767] := by
  obtain ⟨p, t, hrun, hend⟩ := Machine.exists_run_of_exec (M := heardSystem) (fun p act => decide (Lossless p act))
    (show heardSystem.init (.zeroed, []) from ⟨rfl, rfl⟩)
    [.start true 0 none, .frame .tx { fmt := .s16le, sampv := [20000], srate := 8000, ch := 1 },
      .frame .rx { fmt := .s16le, sampv := [20000], srate := 8000, ch := 1 }]
    (fun p _ => decide (p.1.recFile.isSome = true ∧ (mixdown p.2).samples = [32767])) (by decide +kernel)
  obtain ⟨hopen, hsamples⟩ := of_decide_eq_true hend
  obtain ⟨file, hfile⟩ := Option.isSome_iff_exists.mp hopen
  have hlossless := hrun.mono fun _ _ h => of_decide_eq_true h
  exact ⟨p, file, hfile, (recording_lossless hlossless).1 file hfile, hsamples⟩

theorem length_mixRx_le (r : Recorder) (pcm : List Int16) : (r.mixRx pcm).length ≤ 4096 := by
  have hcap : (pcm.take recTxCap).length ≤ 4096 := List.length_take_le _ _
  unfold Recorder.mixRx
  simp only
  split
  · rw [mixS16, List.length_zipWith]
    omega
  · exact hcap

/-- A received frame of 4097 samples. -/
theorem recording_clipped :
    ¬∀ (p p' : Recorder × List TapFrame) (t : Trace RecordAct RecordOut) (act : RecordAct)
      (os : List RecordOut) (bytes : List UInt8), heardSystem.Run Machine.Always p t →
      heardSystem.step p act = some (p', os) → .closed bytes ∈ os →
      bytes.drop 44 = pcmBytes (mixdown p.2).samples := by
  intro h
  let pcm : List Int16 := List.replicate 4097 0
  let started := (Recorder.zeroed.perform (.start true 0 none)).1
  have hrun : heardSystem.Run Machine.Always
      ((started.capture 48000 2).writeRx pcm .opened, [{ dir := .rx, pcm, srate := 48000, ch := 2 }]) _ :=
    ((Machine.Run.start (M := heardSystem) (s := (.zeroed, [])) ⟨rfl, rfl⟩).step
      (a := .start true 0 none) trivial rfl).step
      (a := .frame .rx { fmt := .s16le, sampv := pcm, srate := 48000, ch := 2 }) trivial rfl
  obtain ⟨file, hfile, hwritten⟩ := ((written_opened (r := started) rfl rfl).capture 48000 2).writeRx pcm
  have hclosed : .closed file.bytes ∈ (((started.capture 48000 2).writeRx pcm .opened).perform .destroy).2 := by
    change _ ∈ (((started.capture 48000 2).writeRx pcm .opened).recFile.map File.bytes).toList.map _
    rw [hfile]
    exact List.mem_singleton_self _
  have hdata := h _ _ _ .destroy _ _ hrun rfl hclosed
  rw [hwritten.drop_header] at hdata
  have hlen : (Recorder.mixRx pcm (started.capture 48000 2)).length * 2 = pcm.length * 2 := by
    have := congrArg List.length hdata
    rwa [List.nil_append, length_pcmBytes, length_pcmBytes] at this
  have hle := length_mixRx_le (started.capture 48000 2) pcm
  rw [show pcm.length = 4097 from List.length_replicate] at hlen
  omega

end VoxSdk
