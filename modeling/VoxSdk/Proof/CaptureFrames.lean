import VoxSdk.AudioExternal
import VoxSdk.Lib.Framing

/-!
# What the encoders are handed

The source that was opened last and is still open gets what the app pushes, and its encoder gets it in frames. The
frames are the samples in their order, and less than a frame is kept; a frame that is not a whole number of
instants would hand the encoder the channels in turn.
-/

namespace VoxSdk

open Reactive Framing

/-! ### Frame sizes -/

namespace AusrcPrm

variable {prm : AusrcPrm}

/-- The samples of a frame. -/
def frameSize (prm : AusrcPrm) : Nat := nsampFor prm.srate prm.ch prm.ptime

/-- The packet time in milliseconds. -/
def packetTime (prm : AusrcPrm) : Nat := if prm.ptime ≠ 0 then prm.ptime.toNat else 20

/-- There are channels, and a frame is not empty. -/
def usable (prm : AusrcPrm) : Bool := decide (0 < prm.ch.toNat) && decide (0 < prm.frameSize)

/-- What baresip opens a source for: the rate and the channels of the codec that was negotiated, and whatever
packet time the peer has asked for. The rate of every codec that `account.c` names is a whole number of kilohertz,
48 at most. -/
def negotiated (prm : AusrcPrm) : Bool :=
  decide (0 < prm.ch.toNat) && decide (0 < prm.srate.toNat) && decide (prm.srate.toNat % 1000 = 0) &&
    decide (prm.srate.toNat ≤ 48000)

theorem packetTime_pos (prm : AusrcPrm) : 0 < prm.packetTime := by
  unfold packetTime
  split
  · rename_i hptime
    exact Nat.pos_of_ne_zero fun hzero => hptime (UInt32.toNat_inj.mp hzero)
  · decide

theorem packetTime_lt (prm : AusrcPrm) : prm.packetTime < 2 ^ 32 := by
  unfold packetTime
  split
  · exact prm.ptime.toNat_lt
  · decide

theorem frameSize_eq (h : prm.srate.toNat * prm.ch.toNat * prm.packetTime < 2 ^ 64) :
    prm.frameSize = prm.srate.toNat * prm.ch.toNat * prm.packetTime / 1000 := by
  unfold frameSize nsampFor
  exact congrArg (· / 1000) (Nat.mod_eq_of_lt h)

/-- **When a frame is whole.** A frame is a whole number of instants just when what the division drops of each
channel does not add up to a sample. -/
theorem ch_dvd_frameSize_iff (h : prm.srate.toNat * prm.ch.toNat * prm.packetTime < 2 ^ 64)
    (hch : 0 < prm.ch.toNat) :
    prm.ch.toNat ∣ prm.frameSize ↔ prm.srate.toNat * prm.packetTime % 1000 * prm.ch.toNat < 1000 := by
  rw [frameSize_eq h]
  generalize prm.ch.toNat = ch at hch
  have hsplit : prm.srate.toNat * ch * prm.packetTime =
      prm.srate.toNat * prm.packetTime % 1000 * ch + ch * (prm.srate.toNat * prm.packetTime / 1000) * 1000 := by
    have hdiv := Nat.mod_add_div (prm.srate.toNat * prm.packetTime) 1000
    calc
      prm.srate.toNat * ch * prm.packetTime = (prm.srate.toNat * prm.packetTime) * ch := by ring
      _ = (prm.srate.toNat * prm.packetTime % 1000 + 1000 * (prm.srate.toNat * prm.packetTime / 1000)) * ch := by
        rw [hdiv]
      _ = _ := by ring
  have hrem : prm.srate.toNat * prm.packetTime % 1000 < 1000 := Nat.mod_lt _ (by decide)
  rw [hsplit, Nat.add_mul_div_right _ _ (by decide), (Nat.dvd_add_iff_left (Dvd.intro _ rfl)).symm]
  generalize prm.srate.toNat * prm.packetTime % 1000 = r at hrem
  have hlt : r * ch / 1000 < ch := by
    rw [Nat.div_lt_iff_lt_mul (by decide), Nat.mul_comm ch]
    exact Nat.mul_lt_mul_of_pos_right hrem hch
  constructor
  · intro hdvd
    by_contra hge
    have hpos : 0 < r * ch / 1000 := Nat.div_pos (not_lt.mp hge) (by decide)
    exact absurd (Nat.le_of_dvd hpos hdvd) (not_le.mpr hlt)
  · intro hsmall
    rw [Nat.div_eq_of_lt hsmall]
    exact dvd_zero _

theorem negotiated_iff : prm.negotiated = true ↔
    0 < prm.ch.toNat ∧ 0 < prm.srate.toNat ∧ prm.srate.toNat % 1000 = 0 ∧ prm.srate.toNat ≤ 48000 := by
  simp only [negotiated, Bool.and_eq_true, decide_eq_true_eq, and_assoc]

theorem usable_iff : prm.usable = true ↔ 0 < prm.ch.toNat ∧ 0 < prm.frameSize := by
  simp only [usable, Bool.and_eq_true, decide_eq_true_eq]

theorem product_lt (h : prm.negotiated = true) : prm.srate.toNat * prm.ch.toNat * prm.packetTime < 2 ^ 64 := by
  obtain ⟨-, -, -, hrate⟩ := negotiated_iff.mp h
  have hch : prm.ch.toNat < 2 ^ 8 := prm.ch.toNat_lt
  calc
    prm.srate.toNat * prm.ch.toNat * prm.packetTime ≤ 48000 * 2 ^ 8 * 2 ^ 32 :=
      Nat.mul_le_mul (Nat.mul_le_mul hrate hch.le) prm.packetTime_lt.le
    _ < 2 ^ 64 := by decide

theorem usable_of_negotiated (h : prm.negotiated = true) : prm.usable = true := by
  obtain ⟨hch, hpos, hkhz, -⟩ := negotiated_iff.mp h
  refine usable_iff.mpr ⟨hch, ?_⟩
  rw [frameSize_eq (product_lt h)]
  apply Nat.div_pos _ (by decide)
  have hrate : 1000 ≤ prm.srate.toNat := by omega
  calc
    1000 = 1000 * 1 * 1 := rfl
    _ ≤ prm.srate.toNat * prm.ch.toNat * prm.packetTime :=
      Nat.mul_le_mul (Nat.mul_le_mul hrate hch) prm.packetTime_pos

theorem ch_dvd_of_negotiated (h : prm.negotiated = true) : prm.ch.toNat ∣ prm.frameSize := by
  obtain ⟨hch, -, hkhz, -⟩ := negotiated_iff.mp h
  have hwhole : prm.srate.toNat * prm.packetTime % 1000 = 0 := by
    rw [Nat.mul_mod, hkhz, Nat.zero_mul, Nat.zero_mod]
  rw [ch_dvd_frameSize_iff (product_lt h) hch, hwhole, Nat.zero_mul]
  decide

end AusrcPrm

/-! ### The loop -/

namespace Aubuf

variable {ab : Aubuf} {sampc : Nat}

theorem sampv_writeAuframe {pcm : List Int16} (h : (ab.sampv.length + pcm.length) * 2 ≤ ab.maxSz) :
    ab.writeAuframe pcm = { ab with sampv := ab.sampv ++ pcm } := by
  unfold writeAuframe
  rw [if_pos (by rw [List.length_append]; exact h)]

/-- A buffer that is read a frame at a time, once it holds one, is never pre-filling. -/
theorem readAuframe_of_le (hmin : ab.minSz = sampc * 2) (h : sampc * 2 ≤ ab.curSize) :
    ab.readAuframe sampc = (ab.sampv.take sampc, { ab with sampv := ab.sampv.drop sampc }) := by
  unfold readAuframe
  rw [if_neg (by omega)]

/-- The loop hands on every whole frame there is, and keeps the rest. -/
theorem drain_spec (hsampc : 0 < sampc) {rounds : Nat} (hrounds : ab.sampv.length < rounds)
    (hmin : ab.minSz = sampc * 2) :
    Framed sampc ab.sampv (ab.drain sampc rounds).1 (ab.drain sampc rounds).2.sampv ∧
      (ab.drain sampc rounds).2.minSz = sampc * 2 := by
  induction rounds generalizing ab with
  | zero => omega
  | succ rounds ih =>
      have hsize : ab.curSize = ab.sampv.length * 2 := rfl
      unfold drain
      split
      · rename_i hframe
        rw [readAuframe_of_le hmin hframe]
        have hread : Aubuf.curSize { ab with sampv := ab.sampv.drop sampc } = (ab.sampv.length - sampc) * 2 := by
          rw [curSize, List.length_drop]
        rw [if_neg (by rw [hread]; omega)]
        obtain ⟨hframed, hmin'⟩ := @ih { ab with sampv := ab.sampv.drop sampc }
          (by rw [List.length_drop]; omega) hmin
        have hcons := hframed.cons (f := ab.sampv.take sampc) (List.length_take_of_le (by omega))
        rw [List.take_append_drop] at hcons
        exact ⟨hcons, hmin'⟩
      · exact ⟨.of_short (by omega), hmin⟩

end Aubuf

/-! ### What a run has seen -/

/-- What the inputs and outputs of a run say: the sources that are open, in the order they were opened, the format
of each source there has been, the pushes that were accepted while it was the last of the open ones, and the frames
its encoder was handed. -/
structure CaptureLog where
  live : List Nat
  prm : Nat → Option AusrcPrm
  given : Nat → List (List Int16)
  frames : Nat → List (List Int16)

namespace CaptureLog

def empty : CaptureLog := { live := [], prm := fun _ => none, given := fun _ => [], frames := fun _ => [] }

def seeOut (log : CaptureLog) : ExtOut → CaptureLog
  | .opened id prm => { log with live := log.live ++ [id], prm := Function.update log.prm id (some prm) }
  | .frame id sampv => { log with frames := Function.update log.frames id (log.frames id ++ [sampv]) }
  | .returned _ => log

def seeAct (log : CaptureLog) (os : List ExtOut) : ExtAct → CaptureLog
  | .free id => { log with live := log.live.filter fun other => decide (other ≠ id) }
  | .push (some pcm) _ _ =>
      if ExtOut.returned none ∈ os then
        match log.live.getLast? with
        | none => log
        | some id => { log with given := Function.update log.given id (log.given id ++ [pcm]) }
      else log
  | _ => log

def see (log : CaptureLog) (step : ExtAct × List ExtOut) : CaptureLog :=
  step.2.foldl seeOut (log.seeAct step.2 step.1)

variable {log : CaptureLog}

theorem foldl_frame (id : Nat) (fs : List (List Int16)) (log : CaptureLog) :
    (fs.map (ExtOut.frame id)).foldl seeOut log =
      { log with frames := Function.update log.frames id (log.frames id ++ fs) } := by
  induction fs generalizing log with
  | nil =>
      rw [List.append_nil, Function.update_eq_self]
      rfl
  | cons f fs ih =>
      rw [List.map_cons, List.foldl_cons, ih]
      simp only [seeOut, Function.update_self, Function.update_idem, List.append_assoc, List.singleton_append]

end CaptureLog

/-- What a run has seen. -/
def captureLog (t : Trace ExtAct ExtOut) : CaptureLog := t.foldl CaptureLog.see .empty

theorem captureLog_append (t : Trace ExtAct ExtOut) (a : ExtAct) (os : List ExtOut) :
    captureLog (t ++ [(a, os)]) = (captureLog t).see (a, os) := by
  rw [captureLog, List.foldl_append]
  rfl

/-! ### What holds in every run -/

/-- A source of this format keeps `rest` for the next frame. -/
structure AusrcSt.Keeps (st : AusrcSt) (prm : AusrcPrm) (rest : List Int16) : Prop where
  prm_eq : st.prm = prm
  sampc_eq : st.sampc = prm.frameSize
  minSz_eq : st.ab.minSz = prm.frameSize * 2
  sampv_eq : st.ab.sampv = rest

/-- A source that was let through, and its frames are those of what it was given. -/
structure AusrcPrm.Reframes (opens : AusrcPrm → Bool) (prm : AusrcPrm) (given frames : List (List Int16))
    (rest : List Int16) : Prop where
  opened : opens prm = true
  whole : ∀ pcm ∈ given, prm.ch.toNat ∣ pcm.length
  framed : Framed prm.frameSize given.flatten frames rest

/-- A push that is accepted leaves no more than the maximum in the buffer, and sources are opened for formats that
`opens` lets through. -/
def AudioExternal.inScope (opens : AusrcPrm → Bool) (s : AudioExternal) : ExtAct → Bool
  | .alloc prm _ => opens prm
  | .push pcm sawReady none =>
      match s.pushTarget pcm sawReady with
      | .error _ => true
      | .ok (_, st, pcm) => decide ((st.ab.sampv.length + pcm.length) * 2 ≤ st.ab.maxSz)
  | _ => true

/-- The driver and what has been seen of it. The list of the driver is the open sources, but for those that were
open when it was closed. -/
structure Captures (opens : AusrcPrm → Bool) (s : AudioExternal) (log : CaptureLog) : Prop where
  newest : s.srcl <:+ log.live
  fresh : ∀ id, s.opened ≤ id → s.src id = none ∧ log.prm id = none ∧ log.given id = [] ∧ log.frames id = []
  known : ∀ id st, s.src id = some st → log.prm id = some st.prm
  reframes : ∀ id prm, log.prm id = some prm →
    ∃ rest, prm.Reframes opens (log.given id) (log.frames id) rest ∧ ∀ st, s.src id = some st → st.Keeps prm rest

namespace Captures

variable {opens : AusrcPrm → Bool} {s s' : AudioExternal} {log : CaptureLog}

theorem start : Captures opens { ready := false, opened := 0, src := fun _ => none, srcl := [] } .empty := by
  refine ⟨List.suffix_rfl, fun id _ => ⟨rfl, rfl, rfl, rfl⟩, ?_, ?_⟩
  · intro id st hst
    cases hst
  · intro id prm hprm
    cases hprm

/-- What does not touch the sources or add to the list of the driver. -/
theorem frame (h : Captures opens s log) (hsrc : s'.src = s.src) (hopened : s'.opened = s.opened)
    (hsrcl : s'.srcl <:+ s.srcl) : Captures opens s' log := by
  refine ⟨hsrcl.trans h.newest, ?_, ?_, ?_⟩
  · rw [hsrc, hopened]
    exact h.fresh
  · rw [hsrc]
    exact h.known
  · rw [hsrc]
    exact h.reframes

theorem free (h : Captures opens s log) (id : Nat) :
    Captures opens (s.ausrcDestructor id) { log with live := log.live.filter fun other => decide (other ≠ id) } := by
  have hsrc : ∀ other st, (s.ausrcDestructor id).src other = some st → s.src other = some st := by
    intro other st hst
    rw [AudioExternal.ausrcDestructor] at hst
    dsimp only at hst
    by_cases heq : other = id
    · rw [heq, Function.update_self] at hst
      cases hst
    · rwa [Function.update_of_ne heq] at hst
  refine ⟨h.newest.filter _, ?_, fun other st hst => h.known other st (hsrc other st hst), ?_⟩
  · intro other hother
    obtain ⟨hnone, hlog⟩ := h.fresh other hother
    refine ⟨Option.eq_none_iff_forall_ne_some.mpr fun st hst => ?_, hlog⟩
    rw [hsrc other st hst] at hnone
    cases hnone
  · intro other prm hprm
    obtain ⟨rest, hreframes, hkeeps⟩ := h.reframes other prm hprm
    exact ⟨rest, hreframes, fun st hst => hkeeps st (hsrc other st hst)⟩

theorem alloc (hopens : ∀ prm, opens prm = true → prm.usable = true) {prm : AusrcPrm} (h : Captures opens s log)
    (hprm : opens prm = true) (hfmt : prm.fmt = .s16le) :
    Captures opens (s.extSrcAlloc prm none).1 (log.seeOut (.opened s.opened prm)) := by
  obtain ⟨hnone, -, hgiven, hframes⟩ := h.fresh s.opened le_rfl
  have halloc : (s.extSrcAlloc prm none).1 =
      { s with
        opened := s.opened + 1
        src := Function.update s.src s.opened (some (.new prm))
        srcl := s.srcl ++ [s.opened] } := by
    rw [AudioExternal.extSrcAlloc, if_neg (not_not.mpr hfmt)]
  rw [halloc]
  refine ⟨?_, ?_, ?_, ?_⟩
  · obtain ⟨older, hlive⟩ := h.newest
    exact ⟨older, by rw [← List.append_assoc, hlive]; rfl⟩
  · intro id hid
    dsimp only [CaptureLog.seeOut] at hid ⊢
    have hne : id ≠ s.opened := by omega
    rw [Function.update_of_ne hne, Function.update_of_ne hne]
    exact h.fresh id (by omega)
  · intro id st hst
    dsimp only [CaptureLog.seeOut] at hst ⊢
    by_cases heq : id = s.opened
    · rw [heq, Function.update_self] at hst ⊢
      obtain rfl := Option.some.inj hst
      rfl
    · rw [Function.update_of_ne heq] at hst ⊢
      exact h.known id st hst
  · intro id prm' hlog
    dsimp only [CaptureLog.seeOut] at hlog ⊢
    by_cases heq : id = s.opened
    · rw [heq, Function.update_self] at hlog
      obtain rfl := Option.some.inj hlog
      rw [heq]
      refine ⟨[], ⟨hprm, ?_, ?_⟩, ?_⟩
      · rw [hgiven]
        simp
      · rw [hgiven, hframes]
        exact .nil (AusrcPrm.usable_iff.mp (hopens prm hprm)).2
      · intro st hst
        rw [Function.update_self] at hst
        obtain rfl := Option.some.inj hst
        exact ⟨rfl, rfl, rfl, rfl⟩
    · rw [Function.update_of_ne heq] at hlog ⊢
      exact h.reframes id prm' hlog

end Captures

namespace AudioExternal

variable {s : AudioExternal} {id : Nat} {st : AusrcSt} {pcm : List Int16} {data : Option (List Int16)}
  {sawReady : Bool}

/-- Where an accepted push goes. -/
theorem pushTarget_ok (h : s.pushTarget data sawReady = .ok (id, st, pcm)) :
    data = some pcm ∧ s.srcl.getLast? = some id ∧ s.src id = some st ∧ st.prm.ch.toNat ∣ pcm.length := by
  unfold pushTarget at h
  cases data with
  | none => cases h
  | some given =>
      dsimp only at h
      split at h
      · cases h
      · split at h
        · cases h
        · cases hcur : s.curSrc with
          | none =>
              rw [hcur] at h
              cases h
          | some cur =>
              obtain ⟨id', st'⟩ := cur
              rw [hcur] at h
              dsimp only at h
              split at h
              · cases h
              · rename_i hwhole
                obtain ⟨rfl, rfl, rfl⟩ : id' = id ∧ st' = st ∧ given = pcm := by
                  simpa using Except.ok.inj h
                obtain ⟨last, hlast, hsrc⟩ := Option.bind_eq_some_iff.mp hcur
                obtain ⟨st'', hst, heq⟩ := Option.map_eq_some_iff.mp hsrc
                obtain ⟨rfl, rfl⟩ := Prod.mk.inj heq
                exact ⟨rfl, hlast, hst, Nat.dvd_of_mod_eq_zero (not_not.mp hwhole)⟩

end AudioExternal

namespace CaptureLog

variable {log : CaptureLog} {id : Nat} {pcm : List Int16} {sawReady : Bool} {fails : Option AuErr}

/-- An accepted push. -/
theorem see_push (hlast : log.live.getLast? = some id) (pcm : List Int16) (sawReady : Bool) (fails : Option AuErr)
    (fs : List (List Int16)) :
    log.see (.push (some pcm) sawReady fails, fs.map (ExtOut.frame id) ++ [.returned none]) =
      { log with
        given := Function.update log.given id (log.given id ++ [pcm])
        frames := Function.update log.frames id (log.frames id ++ fs) } := by
  have hmem : ExtOut.returned none ∈ fs.map (ExtOut.frame id) ++ [.returned none] := by simp
  unfold see
  dsimp only
  rw [seeAct, if_pos hmem, hlast, List.foldl_append, foldl_frame]
  rfl

/-- A push that is refused. -/
theorem see_refused (log : CaptureLog) (data : Option (List Int16)) (sawReady : Bool) (fails : Option AuErr)
    (err : AuErr) : log.see (.push data sawReady fails, [.returned (some err)]) = log := by
  cases data with
  | none => rfl
  | some pcm =>
      unfold see
      dsimp only
      rw [seeAct, if_neg (by simp)]
      rfl

end CaptureLog

namespace Captures

variable {opens : AusrcPrm → Bool} {s : AudioExternal} {log : CaptureLog} {id : Nat} {st : AusrcSt}
  {pcm : List Int16}

theorem getLast?_live (h : Captures opens s log) (hlast : s.srcl.getLast? = some id) :
    log.live.getLast? = some id := by
  obtain ⟨older, hlive⟩ := h.newest
  have hne : s.srcl ≠ [] := by
    intro hnil
    rw [hnil] at hlast
    cases hlast
  rw [← hlive, List.getLast?_append_of_ne_nil older hne, hlast]

/-- The source that was pushed to keeps what is left of its stream, and the others are as they were. -/
theorem push (hopens : ∀ prm, opens prm = true → prm.usable = true) (h : Captures opens s log)
    (hsrc : s.src id = some st) (hwhole : st.prm.ch.toNat ∣ pcm.length)
    (hlimit : (st.ab.sampv.length + pcm.length) * 2 ≤ st.ab.maxSz)
    {drained : List (List Int16) × Aubuf}
    (hdrained : (st.ab.writeAuframe pcm).drain st.sampc ((st.ab.writeAuframe pcm).sampv.length + 1) = drained) :
    Captures opens { s with src := Function.update s.src id (some { st with ab := drained.2 }) }
      { log with
        given := Function.update log.given id (log.given id ++ [pcm])
        frames := Function.update log.frames id (log.frames id ++ drained.1) } := by
  have hprm := h.known id st hsrc
  obtain ⟨rest, hreframes, hkeeps⟩ := h.reframes id st.prm hprm
  obtain ⟨-, hsampc, hmin, hsampv⟩ := hkeeps st hsrc
  obtain ⟨-, hsize⟩ := AusrcPrm.usable_iff.mp (hopens _ hreframes.opened)
  rw [Aubuf.sampv_writeAuframe hlimit, hsampc] at hdrained
  obtain ⟨hframed, hmin'⟩ := @Aubuf.drain_spec { st.ab with sampv := st.ab.sampv ++ pcm } _ hsize _
    (Nat.lt_succ_self _) hmin
  rw [hdrained] at hframed hmin'
  have hgiven : id < s.opened := by
    by_contra hge
    have hnone := (h.fresh id (not_lt.mp hge)).1
    rw [hsrc] at hnone
    cases hnone
  refine ⟨h.newest, ?_, ?_, ?_⟩
  · intro other hother
    have hne : other ≠ id := by
      dsimp only at hother
      omega
    dsimp only
    rw [Function.update_of_ne hne, Function.update_of_ne hne, Function.update_of_ne hne]
    exact h.fresh other hother
  · intro other st' hst'
    dsimp only at hst' ⊢
    by_cases heq : other = id
    · rw [heq, Function.update_self] at hst'
      obtain rfl := Option.some.inj hst'
      rw [heq]
      exact hprm
    · rw [Function.update_of_ne heq] at hst'
      exact h.known other st' hst'
  · intro other prm hother
    dsimp only at hother ⊢
    by_cases heq : other = id
    · obtain rfl : st.prm = prm := by
        rw [heq, hprm] at hother
        exact Option.some.inj hother
      rw [heq, Function.update_self, Function.update_self, Function.update_self]
      refine ⟨drained.2.sampv, ⟨hreframes.opened, ?_, ?_⟩, ?_⟩
      · intro xs hxs
        rcases List.mem_append.mp hxs with hxs | hxs
        · exact hreframes.whole xs hxs
        · obtain rfl := List.mem_singleton.mp hxs
          exact hwhole
      · rw [List.flatten_append, List.flatten_singleton]
        apply hreframes.framed.append
        rw [← hsampv]
        exact hframed
      · intro st' hst'
        obtain rfl := Option.some.inj hst'
        exact ⟨rfl, hsampc, hmin', rfl⟩
    · rw [Function.update_of_ne heq, Function.update_of_ne heq, Function.update_of_ne heq]
      exact h.reframes other prm hother

/-- A step keeps it. -/
theorem step (hopens : ∀ prm, opens prm = true → prm.usable = true) (h : Captures opens s log) {a : ExtAct}
    {s' : AudioExternal} {os : List ExtOut} (hscope : s.inScope opens a = true) (hstep : s.act a = some (s', os)) :
    Captures opens s' (log.see (a, os)) := by
  cases a with
  | init registers =>
      obtain ⟨rfl, rfl⟩ := Prod.mk.inj (Option.some.inj hstep)
      exact h.frame rfl rfl List.suffix_rfl
  | close =>
      obtain ⟨rfl, rfl⟩ := Prod.mk.inj (Option.some.inj hstep)
      split
      · exact h.frame rfl rfl (List.nil_suffix)
      · exact h
  | alloc prm fails =>
      have hpair : s.extSrcAlloc prm fails = (s', os) := Option.some.inj hstep
      by_cases hfmt : prm.fmt = .s16le
      · cases fails with
        | none =>
            have hseen := h.alloc hopens hscope hfmt
            rw [hpair] at hseen
            rw [AudioExternal.extSrcAlloc, if_neg (not_not.mpr hfmt)] at hpair
            obtain ⟨-, rfl⟩ := Prod.mk.inj hpair
            exact hseen
        | some err =>
            rw [AudioExternal.extSrcAlloc, if_neg (not_not.mpr hfmt)] at hpair
            obtain ⟨rfl, rfl⟩ := Prod.mk.inj hpair
            exact h
      · unfold AudioExternal.extSrcAlloc at hpair
        rw [if_pos hfmt] at hpair
        obtain ⟨rfl, rfl⟩ := Prod.mk.inj hpair
        exact h
  | free id =>
      obtain ⟨st, -, heq⟩ := Option.map_eq_some_iff.mp hstep
      obtain ⟨rfl, rfl⟩ := Prod.mk.inj heq
      exact h.free id
  | push data sawReady fails =>
      obtain ⟨rfl, rfl⟩ := Prod.mk.inj (Option.some.inj hstep)
      cases htarget : s.pushTarget data sawReady with
      | error err =>
          dsimp only
          rw [CaptureLog.see_refused]
          exact h
      | ok target =>
          obtain ⟨id, st, pcm⟩ := target
          obtain ⟨rfl, hlast, hsrc, hwhole⟩ := AudioExternal.pushTarget_ok htarget
          cases fails with
          | some err =>
              dsimp only
              rw [CaptureLog.see_refused]
              exact h
          | none =>
              rw [AudioExternal.inScope, htarget] at hscope
              dsimp only
              rw [CaptureLog.see_push (h.getLast?_live hlast)]
              exact h.push hopens hsrc hwhole (of_decide_eq_true hscope) rfl

end Captures

/-! ### Every run -/

section Runs

variable {opens : AusrcPrm → Bool} (hopens : ∀ prm, opens prm = true → prm.usable = true)
include hopens

/-- Frame `k` is where `k` frames into the stream are, on the channel that the frame size brings it to. -/
theorem AusrcPrm.Reframes.at_frame {prm : AusrcPrm} {given frames : List (List Int16)} {rest : List Int16}
    (h : prm.Reframes opens given frames rest) {k : Nat} {f : List Int16} (hf : frames[k]? = some f) :
    (given.flatten.drop (k * prm.frameSize)).take prm.frameSize = f ∧
      (given.flatMap (channels prm.ch.toNat))[k * prm.frameSize]? = some (k * prm.frameSize % prm.ch.toNat) := by
  have hget := h.framed.getElem? hf
  have hsize : f.length = prm.frameSize := h.framed.size f (List.mem_of_getElem? hf)
  have hpos : 0 < prm.frameSize := (AusrcPrm.usable_iff.mp (hopens prm h.opened)).2
  have hbegins : k * prm.frameSize < given.flatten.length := by
    by_contra hpast
    rw [List.drop_eq_nil_of_le (not_lt.mp hpast), List.take_nil] at hget
    rw [← hget, List.length_nil] at hsize
    omega
  rw [flatMap_channels h.whole]
  exact ⟨hget, getElem?_channels hbegins⟩

/-- What has been seen of a run is what the driver has done. -/
theorem captures_run {s : AudioExternal} {t : Trace ExtAct ExtOut}
    (hrun : audioExternal.Run (fun s a => s.inScope opens a = true) s t) : Captures opens s (captureLog t) := by
  apply hrun.invariant (I := fun s t => Captures opens s (captureLog t))
  · intro s hinit
    rw [show s = _ from hinit]
    exact .start
  · intro s t a s' os h hscope hstep
    rw [captureLog_append]
    exact h.step hopens hscope hstep

end Runs

/-- **Nothing is lost, and no channel slips.** Whatever is opened and closed on the way, and however the app cuts up
what it pushes: the frames that the encoder of a source has been handed are the samples that were pushed while it was
the last of the open ones, in their order and in frames of one size; each frame begins on channel 0, and what is left
over is less than a frame. -/
theorem capture_reframed {s : AudioExternal} {t : Trace ExtAct ExtOut}
    (hrun : audioExternal.Run (fun s a => s.inScope AusrcPrm.negotiated a = true) s t) {id : Nat} {prm : AusrcPrm}
    (hprm : (captureLog t).prm id = some prm) :
    ∃ rest : List Int16,
      Framed prm.frameSize ((captureLog t).given id).flatten ((captureLog t).frames id) rest ∧
      (∀ st, s.src id = some st → st.ab.sampv = rest) ∧
      ∀ k f, ((captureLog t).frames id)[k]? = some f →
        (((captureLog t).given id).flatten.drop (k * prm.frameSize)).take prm.frameSize = f ∧
        (((captureLog t).given id).flatMap (channels prm.ch.toNat))[k * prm.frameSize]? = some 0 := by
  have hopens : ∀ prm : AusrcPrm, prm.negotiated = true → prm.usable = true :=
    fun prm h => AusrcPrm.usable_of_negotiated h
  obtain ⟨rest, hreframes, hkeeps⟩ := (captures_run hopens hrun).reframes id prm hprm
  refine ⟨rest, hreframes.framed, fun st hst => (hkeeps st hst).sampv_eq, ?_⟩
  intro k f hf
  obtain ⟨hget, hchannel⟩ := hreframes.at_frame hopens hf
  -- A frame is a whole number of instants, so every frame begins where an instant does.
  have hwhole : k * prm.frameSize % prm.ch.toNat = 0 :=
    Nat.mod_eq_zero_of_dvd (Dvd.dvd.mul_left (AusrcPrm.ch_dvd_of_negotiated hreframes.opened) k)
  rw [hwhole] at hchannel
  exact ⟨hget, hchannel⟩

/-- Stereo in frames of 16 samples, and a second source that is opened and freed between two pushes. -/
theorem capture_reframed_stereo :
    ∃ s t, audioExternal.Run (fun s a => s.inScope AusrcPrm.negotiated a = true) s t ∧
      (captureLog t).given 0 = [List.replicate 10 1, List.replicate 24 2] ∧
      (captureLog t).frames 0 = [List.replicate 10 1 ++ List.replicate 6 2, List.replicate 16 2] ∧
      ∃ rest : List Int16, Framed 16 ((captureLog t).given 0).flatten ((captureLog t).frames 0) rest := by
  let stereo : AusrcPrm := { srate := 8000, ch := 2, ptime := 1, fmt := .s16le }
  obtain ⟨s, t, hrun, hend⟩ := Machine.exists_run_of_exec (M := audioExternal)
    (AudioExternal.inScope AusrcPrm.negotiated) (s := { ready := false, opened := 0, src := fun _ => none, srcl := [] })
    rfl
    [.init true, .alloc stereo none, .push (some (List.replicate 10 1)) true none, .alloc stereo none,
      .push (some (List.replicate 4 3)) true none, .free 1, .push (some (List.replicate 24 2)) true none]
    (fun _ t => decide ((captureLog t).prm 0 = some stereo ∧
      (captureLog t).given 0 = [List.replicate 10 1, List.replicate 24 2] ∧
      (captureLog t).frames 0 = [List.replicate 10 1 ++ List.replicate 6 2, List.replicate 16 2]))
    (by decide +kernel)
  obtain ⟨hprm, hgiven, hframes⟩ := of_decide_eq_true hend
  obtain ⟨rest, hframed, -⟩ := capture_reframed hrun hprm
  have hsize : stereo.frameSize = 16 := by decide
  rw [hsize] at hframed
  exact ⟨s, t, hrun, hgiven, hframes, rest, hframed⟩

end VoxSdk
