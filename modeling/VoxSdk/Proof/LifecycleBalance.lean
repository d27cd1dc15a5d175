import VoxSdk.Lifecycle

/-!
# What is held when the SDK is down

`fail:` takes back all that `voxsdk_init` took, but for the external audio device: `vox_audio_external_close` is not on
the way out. The next `baresip_init` empties the device lists, `s_ready` still says that the device is registered, and
so nobody registers it again. What can be held while the SDK is down is a capture file, which `voxsdk_pcap_start` opens
at any time; a `voxsdk_init` that asks for a capture of its own then fails.
-/

namespace VoxSdk

open Reactive Machine

namespace InitEnv

/-- `voxsdk_init` comes to `modules_init`. -/
def reachesModules (env : InitEnv) (cfg : LifeCfg) : Bool :=
  env.libreInit && env.baresipInit && env.dnsc && env.uaInit && env.evThread && env.beventRegister &&
    (!cfg.traceSip || env.sip)

/-- And from there to its end; `pcap` is whether a capture file is open already. -/
def works (env : InitEnv) (cfg : LifeCfg) (pcap : Bool) : Bool :=
  env.reachesModules cfg && env.messageListen && (!cfg.pcapPath || !pcap && env.fopen) && env.mqueueAlloc &&
    env.reThread

/-- All goes well. -/
def fine : InitEnv where
  libreInit := true
  baresipInit := true
  dnsc := true
  uaInit := true
  evThread := true
  beventRegister := true
  sip := true
  extRegister := true
  ice := true
  messageListen := true
  fopen := true
  mqueueAlloc := true
  reThread := true

end InitEnv

namespace Vox

variable {env : InitEnv} {cfg : LifeCfg} {s : Vox} {ready listed pcap : Bool}

/-- Down: at most the registration of the external device is left, and a capture file. -/
def down (ready listed pcap : Bool) : Vox :=
  { zero with held := fun h => decide (h = .pcapFile) && pcap, extReady := ready, extListed := listed }

/-- What is held while the SDK is up. -/
def upHeld (env : InitEnv) (cfg : LifeCfg) (pcap : Bool) : Hold → Bool
  | .sipTrace => cfg.traceSip
  | .iceShim => env.ice
  | .pcapFile => pcap
  | .statsTmr => decide (0 < cfg.statsIntervalMs)
  | _ => true

/-- Up. -/
def up (env : InitEnv) (cfg : LifeCfg) (ready pcap : Bool) : Vox where
  initialized := true
  cfg := some cfg
  held := upHeld env cfg pcap
  extReady := ready || env.extRegister
  extListed := !ready && env.extRegister

@[simp]
theorem voxTraceClose_held (h : Hold) (s : Vox) :
    s.voxTraceClose.held h = (!(decide (h = .sipTrace) && s.held .ua) && s.held h) := by
  unfold voxTraceClose
  cases hua : s.held .ua <;> simp

@[simp]
theorem voxTraceClose_extReady (s : Vox) : s.voxTraceClose.extReady = s.extReady := by
  unfold voxTraceClose
  split <;> rfl

@[simp]
theorem voxTraceClose_extListed (s : Vox) : s.voxTraceClose.extListed = s.extListed := by
  unfold voxTraceClose
  split <;> rfl

attribute [local simp] voxReLoopStop voxNetmonClose voxStatsClose voxEventClose uaClose voxIceShimClose voxDnsClose
  baresipClose libreClose voxLogClose voxPcapClose

/-- The way out leaves of a state only what it says of the device. -/
theorem initFail_eq (s : Vox) : s.initFail = down s.extReady s.extListed false := by
  ext h
  · rfl
  · rfl
  · cases h <;> simp [initFail, down, zero]
  · simp [initFail, down]
  · simp [initFail, down]

@[simp]
theorem voxAudioExternalClose_held (s : Vox) : s.voxAudioExternalClose.held = s.held := by
  unfold voxAudioExternalClose
  split <;> rfl

@[simp]
theorem voxAudioExternalClose_extReady (s : Vox) : s.voxAudioExternalClose.extReady = false := by
  unfold voxAudioExternalClose
  split
  · rfl
  · rename_i hready
    simpa using hready

@[simp]
theorem voxAudioExternalClose_extListed (s : Vox) :
    s.voxAudioExternalClose.extListed = (!s.extReady && s.extListed) := by
  unfold voxAudioExternalClose
  cases hready : s.extReady <;> simp

theorem voxsdkShutdown_up : (up env cfg ready pcap).voxsdkShutdown = down false false false := by
  have hinit : (up env cfg ready pcap).initialized = true := rfl
  rw [voxsdkShutdown, hinit]
  simp only [Bool.not_true, Bool.false_eq_true, if_false]
  ext h
  · rfl
  · rfl
  · cases h <;> simp [down, zero, up, upHeld]
  · simp [down]
  · cases ready <;> simp [down, up]

/-! ### The steps -/

/-- What `step` comes to from `s`: it goes on with a state that is `good`, or leaves for `fail:` with one that is
`bad`. -/
def Comes (step : InitM Unit) (s : Vox) (good bad : Vox → Prop) : Prop :=
  match step s with
  | .ok _ s' => good s'
  | .error _ s' => bad s'

/-- `take`, if it is wanted. -/
def takeIf (wanted : Bool) (what : Hold) (s : Vox) : Vox :=
  { s with held := fun h => wanted && decide (h = what) || s.held h }

theorem takeIf_true (what : Hold) (s : Vox) : s.takeIf true what = s.take what := by
  simp [takeIf, take]

theorem takeIf_false (what : Hold) (s : Vox) : s.takeIf false what = s := by
  simp [takeIf]

section Steps

variable {next : InitM Unit} {good bad : Vox → Prop} {what : Hold} {works : Bool} (wanted : Bool)

theorem comes_modify {f : Vox → Vox} (h : Comes next (f s) good bad) :
    Comes (modify f >>= fun _ => next) s good bad := h

theorem comes_orFail (hgood : works = true → Comes next s good bad) (hbad : works = false → bad s) :
    Comes (orFail works >>= fun _ => next) s good bad := by
  cases works with
  | true => exact hgood rfl
  | false => exact hbad rfl

/-- A step that takes hold of something or fails. -/
theorem comes_acquire (hgood : works = true → Comes next (s.take what) good bad) (hbad : works = false → bad s) :
    Comes ((do orFail works; modify (take what)) >>= fun _ => next) s good bad := by
  rw [bind_assoc]
  exact comes_orFail (fun hworks => comes_modify (hgood hworks)) hbad

theorem comes_takeIf (h : Comes next (s.takeIf wanted what) good bad) :
    Comes (onlyIf wanted (modify (take what)) >>= fun _ => next) s good bad := by
  cases wanted with
  | true =>
      rw [takeIf_true] at h
      exact h
  | false =>
      rw [takeIf_false] at h
      exact h

theorem comes_acquireIf (hgood : (wanted = true → works = true) → Comes next (s.takeIf wanted what) good bad)
    (hbad : wanted = true → works = false → bad s) :
    Comes (onlyIf wanted (do orFail works; modify (take what)) >>= fun _ => next) s good bad := by
  cases wanted with
  | true => exact comes_acquire (fun hworks => comes_takeIf true (hgood fun _ => hworks)) (hbad rfl)
  | false => exact comes_takeIf false (hgood fun h => by cases h)

theorem voxPcapOpen_eq {fopen : Bool} (hpcap : s.held .pcapFile = pcap) :
    voxPcapOpen fopen s = (do orFail (!pcap && fopen); modify (take .pcapFile) : InitM Unit) s := by
  show (orFail (!s.held .pcapFile) >>= fun _ => (do orFail fopen; modify (take .pcapFile) : InitM Unit)) s = _
  rw [hpcap]
  cases pcap <;> rfl

/-- A capture file, which must not be open yet. -/
theorem comes_openIf {fopen : Bool} (hpcap : s.held .pcapFile = pcap)
    (hgood : (wanted = true → (!pcap && fopen) = true) → Comes next (s.takeIf wanted .pcapFile) good bad)
    (hbad : wanted = true → (!pcap && fopen) = false → bad s) :
    Comes (onlyIf wanted (voxPcapOpen fopen) >>= fun _ => next) s good bad := by
  have hacquire := comes_acquireIf wanted hgood hbad
  cases wanted with
  | false => exact hacquire
  | true =>
      have hopen : onlyIf true (voxPcapOpen fopen) s =
          onlyIf true (do orFail (!pcap && fopen); modify (take .pcapFile)) s := voxPcapOpen_eq hpcap
      unfold Comes at hacquire ⊢
      simp only [bind, EStateM.bind] at hacquire hopen ⊢
      rwa [hopen]

end Steps

theorem voxAudioExternalInit_eq (env : InitEnv) (s : Vox) :
    s.voxAudioExternalInit env =
      { s with
        extReady := s.extReady || env.extRegister
        extListed := if s.extReady then s.extListed else s.extListed || env.extRegister } := by
  unfold voxAudioExternalInit
  ext h
  · split <;> [rfl; split <;> rfl]
  · split <;> [rfl; split <;> rfl]
  · split <;> [rfl; split <;> rfl]
  · split
    · rename_i hready
      simp [hready]
    · split
      · rename_i hregister
        simp [hregister]
      · rename_i hready hregister
        simp [hready, hregister]
  · split
    · rfl
    · split
      · rename_i hregister
        simp [hregister]
      · rename_i hready hregister
        simp [hregister]

theorem onlyIf_voxTraceInit (env : InitEnv) (cfg : LifeCfg) :
    onlyIf cfg.traceSip (voxTraceInit env cfg) =
      onlyIf cfg.traceSip (do orFail env.sip; modify (take .sipTrace)) := by
  unfold voxTraceInit
  cases cfg.traceSip <;> rfl

theorem initSteps_spec (env : InitEnv) (cfg : LifeCfg) (ready listed pcap : Bool) :
    Comes (initSteps env cfg) (down ready listed pcap)
      (fun s => env.works cfg pcap = true ∧ { s with initialized := true } = up env cfg ready (pcap || cfg.pcapPath))
      (fun s => env.works cfg pcap = false ∧ s.extReady = (ready || env.reachesModules cfg && env.extRegister)) := by
  have hearly (h : env.reachesModules cfg = false) :
      env.works cfg pcap = false ∧ ready = (ready || env.reachesModules cfg && env.extRegister) := by
    simp [InitEnv.works, h]
  unfold initSteps
  refine comes_modify (comes_modify ?_)
  refine comes_acquire (fun hlibre => ?_) fun h => hearly (by simp [InitEnv.reachesModules, h])
  rw [baresipInit, bind_assoc]
  refine comes_modify ?_
  refine comes_acquire (fun hbaresip => ?_) fun h => hearly (by simp [InitEnv.reachesModules, h])
  refine comes_acquire (fun hdnsc => ?_) fun h => hearly (by simp [InitEnv.reachesModules, h])
  refine comes_acquire (fun hua => ?_) fun h => hearly (by simp [InitEnv.reachesModules, h])
  rw [voxEventInit, bind_assoc]
  refine comes_orFail (fun hthread => ?_) fun h => hearly (by simp [InitEnv.reachesModules, h])
  rw [bind_assoc]
  refine comes_modify ?_
  refine comes_acquire (fun hbevent => ?_) fun h => hearly (by simp [InitEnv.reachesModules, h])
  rw [onlyIf_voxTraceInit]
  refine comes_acquireIf _ (fun hsip => ?_) fun htrace h => hearly (by simp [InitEnv.reachesModules, htrace, h])
  have hreached : env.reachesModules cfg = true := by
    simp only [InitEnv.reachesModules, hlibre, hbaresip, hdnsc, hua, hthread, hbevent, Bool.true_and]
    cases htrace : cfg.traceSip with
    | false => rfl
    | true => exact hsip htrace
  have hlate (s : Vox) (hready : s.extReady = (ready || env.extRegister)) (h : env.works cfg pcap = false) :
      env.works cfg pcap = false ∧ s.extReady = (ready || env.reachesModules cfg && env.extRegister) := by
    rw [hreached, Bool.true_and]
    exact ⟨h, hready⟩
  refine comes_modify ?_
  rw [voxAudioExternalInit_eq]
  refine comes_takeIf _ ?_
  refine comes_orFail (fun hmessage => ?_) fun h => hlate _ rfl (by simp [InitEnv.works, h])
  refine comes_openIf _ (show _ = pcap by simp [takeIf, take, down]) (fun hfopen => ?_) fun hpcap h =>
    hlate _ rfl (by simp only [InitEnv.works, hpcap, h, Bool.not_true, Bool.false_or, Bool.and_false, Bool.false_and])
  refine comes_takeIf _ (comes_modify ?_)
  refine comes_orFail (fun hmqueue => ?_) fun h => hlate _ rfl (by simp [InitEnv.works, h])
  show Comes (orFail env.reThread >>= fun _ => modify (take .reThread)) _ _ _
  refine comes_orFail (fun hthread' => ?_) fun h =>
    hlate _ rfl (by simp [InitEnv.works, h])
  refine ⟨?_, ?_⟩
  · simp only [InitEnv.works, hreached, hmessage, hmqueue, hthread', Bool.true_and, Bool.and_true]
    cases hpcap : cfg.pcapPath with
    | false => rfl
    | true => exact hfopen hpcap
  · ext h
    · rfl
    · rfl
    · cases h <;> simp [takeIf, take, up, upHeld, down, zero, Bool.or_comm]
    · rfl
    · simp [takeIf, take, up, down]

/-- `voxsdk_init` from below: all the way up, or back down with what it left of the device. -/
theorem voxsdkInit_down (env : InitEnv) (cfg : LifeCfg) (ready listed pcap : Bool) :
    (down ready listed pcap).voxsdkInit env cfg = (up env cfg ready (pcap || cfg.pcapPath), [.initOk]) ∨
      ∃ listed', (down ready listed pcap).voxsdkInit env cfg =
        (down (ready || env.reachesModules cfg && env.extRegister) listed' false, [.initErr]) := by
  have hsteps := initSteps_spec env cfg ready listed pcap
  have hinit : (down ready listed pcap).initialized = false := rfl
  unfold Comes at hsteps
  rw [voxsdkInit, hinit]
  simp only [Bool.false_eq_true, if_false]
  cases hend : initSteps env cfg (down ready listed pcap) with
  | ok _ s =>
      rw [hend] at hsteps
      obtain ⟨-, hup⟩ := hsteps
      left
      simp only [hup]
  | error _ s =>
      rw [hend] at hsteps
      obtain ⟨-, hready⟩ := hsteps
      refine .inr ⟨s.extListed, ?_⟩
      simp only [initFail_eq, hready]

/-- `voxsdk_pcap_start` opens a file unless one is open, and does nothing else. -/
theorem voxsdkPcapStart_eq (fopen : Bool) (hpcap : s.held .pcapFile = pcap) :
    s.voxsdkPcapStart fopen = s.takeIf (!pcap && fopen) .pcapFile := by
  rw [voxsdkPcapStart, voxPcapOpen_eq hpcap]
  cases hopens : !pcap && fopen with
  | false =>
      rw [takeIf_false]
      rfl
  | true =>
      rw [takeIf_true]
      rfl

theorem voxsdkPcapStart_up (fopen : Bool) :
    (up env cfg ready pcap).voxsdkPcapStart fopen = up env cfg ready (pcap || fopen) := by
  have hpcap : (up env cfg ready pcap).held .pcapFile = pcap := rfl
  rw [voxsdkPcapStart_eq fopen hpcap]
  ext h
  · rfl
  · rfl
  · cases h <;> cases pcap <;> cases fopen <;> rfl
  · rfl
  · rfl

theorem voxsdkPcapStart_down {listed : Bool} (fopen : Bool) :
    (down ready listed pcap).voxsdkPcapStart fopen = down ready listed (pcap || fopen) := by
  have hpcap : (down ready listed pcap).held .pcapFile = pcap := rfl
  rw [voxsdkPcapStart_eq fopen hpcap]
  ext h
  · rfl
  · rfl
  · cases h <;> cases pcap <;> cases fopen <;> rfl
  · rfl
  · rfl

theorem voxPcapClose_up : (up env cfg ready pcap).voxPcapClose = up env cfg ready false := by
  ext h
  · rfl
  · rfl
  · cases h <;> rfl
  · rfl
  · rfl

theorem voxPcapClose_down {listed : Bool} : (down ready listed pcap).voxPcapClose = down ready listed false := by
  ext h
  · rfl
  · rfl
  · cases h <;> rfl
  · rfl
  · rfl

end Vox

/-! ### Runs -/

/-- What a run has seen of it. -/
structure LifePast where
  /-- since the last `voxsdk_shutdown` an init came past `modules_init`, which registered the device, and failed -/
  stranded : Bool
  /-- the last init that went well -/
  last : Option (InitEnv × LifeCfg)
  /-- a capture was asked for, could be opened and was not closed since -/
  capture : Bool

namespace LifePast

def zero : LifePast := { stranded := false, last := none, capture := false }

/-- A capture is closed by `voxsdk_pcap_stop`, by `voxsdk_shutdown` and by an init that fails. -/
def next (s : Vox) (act : LifeAct) (os : List LifeOut) (past : LifePast) : LifePast :=
  match act with
  | .init env cfg =>
      if os = [.initOk] then { past with last := some (env, cfg), capture := past.capture || cfg.pcapPath }
      else if os = [.initErr] then
        { past with stranded := past.stranded || env.reachesModules cfg && env.extRegister, capture := false }
      else past
  | .shutdown => if s.initialized then { past with stranded := false, capture := false } else past
  | .pcapStart fopen => { past with capture := past.capture || fopen }
  | .pcapStop => { past with capture := false }
  | .sipMessage => past

end LifePast

/-- The state is what the past says it is. -/
inductive AsAsked : Vox → LifePast → Prop where
  | down (past : LifePast) (listed : Bool) : AsAsked (.down past.stranded listed past.capture) past
  | up {env : InitEnv} {cfg : LifeCfg} (past : LifePast) (hlast : past.last = some (env, cfg)) :
      AsAsked (.up env cfg past.stranded past.capture) past

namespace AsAsked

variable {s s' : Vox} {past : LifePast} {os : List LifeOut} {act : LifeAct}

theorem next_of_initErr {env : InitEnv} {cfg : LifeCfg} :
    LifePast.next s (.init env cfg) [.initErr] past =
      { past with stranded := past.stranded || env.reachesModules cfg && env.extRegister, capture := false } := rfl

theorem act_down {listed : Bool} (henabled : (Vox.down past.stranded listed past.capture).enabled act = true) :
    AsAsked ((Vox.down past.stranded listed past.capture).act act).1
      (LifePast.next (.down past.stranded listed past.capture) act
        ((Vox.down past.stranded listed past.capture).act act).2 past) := by
  cases act with
  | init env cfg =>
      obtain hok | ⟨listed', herr⟩ := Vox.voxsdkInit_down env cfg past.stranded listed past.capture
      · rw [Vox.act, hok]
        exact .up { past with last := some (env, cfg), capture := _ } rfl
      · rw [Vox.act, herr, next_of_initErr]
        exact .down { past with stranded := _, capture := false } listed'
  | shutdown => exact .down past listed
  | pcapStart fopen =>
      rw [Vox.act, Vox.voxsdkPcapStart_down]
      exact .down { past with capture := _ } listed
  | pcapStop =>
      rw [Vox.act, Vox.voxPcapClose_down]
      exact .down { past with capture := false } listed
  | sipMessage => cases henabled

theorem act_up {env : InitEnv} {cfg : LifeCfg} (hlast : past.last = some (env, cfg)) :
    AsAsked ((Vox.up env cfg past.stranded past.capture).act act).1
      (LifePast.next (.up env cfg past.stranded past.capture) act
        ((Vox.up env cfg past.stranded past.capture).act act).2 past) := by
  cases act with
  | init env' cfg' => exact .up past hlast
  | shutdown =>
      rw [Vox.act, Vox.voxsdkShutdown_up]
      exact .down { past with stranded := false, capture := false } false
  | pcapStart fopen =>
      rw [Vox.act, Vox.voxsdkPcapStart_up]
      exact .up { past with capture := _ } hlast
  | pcapStop =>
      rw [Vox.act, Vox.voxPcapClose_up]
      exact .up { past with capture := false } hlast
  | sipMessage => exact .up past hlast

theorem step (hs : AsAsked s past) (hstep : lifecycle.step s act = some (s', os)) :
    AsAsked s' (LifePast.next s act os past) := by
  simp only [lifecycle, Option.ite_none_right_eq_some, Option.some.injEq] at hstep
  obtain ⟨henabled, hact⟩ := hstep
  have hs' : s' = (s.act act).1 := by rw [hact]
  have hos : os = (s.act act).2 := by rw [hact]
  subst hs' hos
  cases hs with
  | down _ listed => exact act_down henabled
  | up _ hlast => exact act_up hlast

theorem of_run {p : Vox × LifePast} {t : Trace LifeAct LifeOut}
    (hrun : (lifecycle.withHistory LifePast.zero LifePast.next).Run Always p t) : AsAsked p.1 p.2 := by
  refine hrun.stateInvariant (I := fun p => AsAsked p.1 p.2) ?_ ?_
  · rintro ⟨s, past⟩ ⟨rfl, rfl⟩
    have hzero : Vox.down false false false = .zero := by simp [Vox.down, Vox.zero]
    exact hzero ▸ .down .zero false
  · intro p act p' os hp _ hstep
    obtain ⟨hstep, hnext⟩ := withHistory_step.mp hstep
    rw [hnext]
    exact hp.step hstep

end AsAsked

section Results

variable {p p' : Vox × LifePast} {t : Trace LifeAct LifeOut} {act : LifeAct} {os : List LifeOut}

/-- **The external device and a failed init.** While the SDK is up, the device can be selected exactly if this init
could register it and no init failed after registering it since the last shutdown. -/
theorem external_listed_iff {env : InitEnv} {cfg : LifeCfg}
    (hrun : (lifecycle.withHistory LifePast.zero LifePast.next).Run Always p t) (hup : p.1.initialized = true)
    (hlast : p.2.last = some (env, cfg)) :
    p.1.extListed = true ↔ p.2.stranded = false ∧ env.extRegister = true := by
  obtain ⟨s, past⟩ := p
  have hasked : AsAsked s past := AsAsked.of_run hrun
  cases hasked with
  | down _ listed => cases hup
  | up _ hlast' =>
      rw [hlast] at hlast'
      obtain ⟨rfl, rfl⟩ := Prod.mk.inj (Option.some.inj hlast')
      simp [Vox.up]

/-- A capture file that cannot be opened, then a `voxsdk_init` without one: it goes well, and the device is gone. -/
theorem external_listed_iff_stranded :
    ∃ p t, (lifecycle.withHistory LifePast.zero LifePast.next).Run Always p t ∧ p.1.initialized = true ∧
      p.2.last = some (.fine, ⟨false, false, 0⟩) ∧ ¬p.1.extListed = true := by
  obtain ⟨p, t, hrun, hend⟩ := exists_run_of_exec (M := lifecycle.withHistory LifePast.zero LifePast.next)
    (fun _ _ => true) (s := (.zero, .zero)) ⟨rfl, rfl⟩
    [.init { InitEnv.fine with fopen := false } ⟨false, true, 0⟩, .init .fine ⟨false, false, 0⟩]
    (fun p _ => p.1.initialized && decide (p.2.last = some (.fine, ⟨false, false, 0⟩)) && p.2.stranded)
    (by decide +kernel)
  simp only [Bool.and_eq_true, decide_eq_true_eq] at hend
  obtain ⟨⟨hup, hlast⟩, hstranded⟩ := hend
  refine ⟨p, t, hrun.always, hup, hlast, fun hlisted => ?_⟩
  have hkept := ((external_listed_iff hrun.always hup hlast).mp hlisted).1
  rw [hstranded] at hkept
  cases hkept

end Results

end VoxSdk
