import VoxSdk.Lib.Machine

/-!
# Coming up and going down

`voxsdk_init`, its way out when a step fails, and `voxsdk_shutdown` (core.c), over what the SDK itself takes hold of:
libre and baresip as a whole, the hooks it sets in them, its threads, its timers and the capture file. What baresip
frees with itself is not counted, and neither are the filters of the audio path.
-/

namespace VoxSdk

open Reactive

/-- `voxsdk_config_t`, as far as coming up depends on it. -/
structure LifeCfg where
  traceSip : Bool
  /-- whether there is a `pcap_path` -/
  pcapPath : Bool
  statsIntervalMs : Nat
  deriving DecidableEq, Repr

/-- How what `voxsdk_init` calls turns out: `true` where it works. -/
structure InitEnv where
  libreInit : Bool
  baresipInit : Bool
  /-- `net_dnsc` finds a DNS client -/
  dnsc : Bool
  uaInit : Bool
  /-- `thrd_create` of the event thread -/
  evThread : Bool
  beventRegister : Bool
  /-- `uag_sip` finds a SIP stack -/
  sip : Bool
  /-- `ausrc_register` and `auplay_register` of the external device -/
  extRegister : Bool
  /-- `mnat_find` finds the ice module -/
  ice : Bool
  messageListen : Bool
  fopen : Bool
  mqueueAlloc : Bool
  /-- `thrd_create` of the loop's thread -/
  reThread : Bool
  deriving DecidableEq, Repr

/-- What the SDK takes hold of. -/
inductive Hold where
  /-- `s_logger` in baresip's log and the debug handler of libre -/
  | log
  | libre
  | baresip
  | ua
  /-- `g_dnsc` -/
  | dnsc
  | evThread
  /-- `bevent_handler` in baresip -/
  | bevent
  /-- `sip_trace_handler` in the SIP stack -/
  | sipTrace
  /-- the handlers of ice_shim.c in the ice module, `s_mnat` -/
  | iceShim
  | pcapFile
  | statsTmr
  /-- `g_nm.started` and its timers -/
  | netmon
  | reThread
  deriving DecidableEq, Repr

/-- `g_vox` and the statics of the modules. -/
@[ext]
structure Vox where
  initialized : Bool
  cfg : Option LifeCfg
  held : Hold → Bool
  /-- `s_ready` of audio_external.c -/
  extReady : Bool
  /-- the external device is on baresip's device lists -/
  extListed : Bool

/-- What the application and the file see. -/
inductive LifeOut where
  /-- `voxsdk_init` returns `VOXSDK_OK`, `VOXSDK_ERR_ALREADY` or an error of its own -/
  | initOk
  | initAlready
  | initErr
  /-- a message is written to the capture file -/
  | captured
  /-- `VOXSDK_EV_SIP_TRACE` -/
  | traced
  deriving DecidableEq, Repr

/-- A step of `voxsdk_init`: it goes on, or leaves for `fail:`. -/
abbrev InitM := EStateM Unit Vox

namespace Vox

def zero : Vox := { initialized := false, cfg := none, held := fun _ => false, extReady := false, extListed := false }

def take (what : Hold) (s : Vox) : Vox := { s with held := fun h => decide (h = what) || s.held h }

def release (what : Hold) (s : Vox) : Vox := { s with held := fun h => !decide (h = what) && s.held h }

section

variable (what h : Hold) (s : Vox)

@[simp] theorem release_held : (s.release what).held h = (!decide (h = what) && s.held h) := rfl
@[simp] theorem release_initialized : (s.release what).initialized = s.initialized := rfl
@[simp] theorem release_cfg : (s.release what).cfg = s.cfg := rfl
@[simp] theorem release_extReady : (s.release what).extReady = s.extReady := rfl
@[simp] theorem release_extListed : (s.release what).extListed = s.extListed := rfl

end

/-! ### Up -/

/-- `if (err) goto fail;` -/
def orFail (works : Bool) : InitM Unit := if works then pure () else throw ()

/-- A step the config may leave out. -/
def onlyIf (wanted : Bool) (step : InitM Unit) : InitM Unit := if wanted then step else pure ()

def voxLogInit : InitM Unit := modify (take .log)

def libreInit (env : InitEnv) : InitM Unit := do
  orFail env.libreInit
  modify (take .libre)

/-- `baresip_init` inits the device lists anew. -/
def baresipInit (env : InitEnv) : InitM Unit := do
  modify fun s => { s with extListed := false }
  orFail env.baresipInit
  modify (take .baresip)

def voxDnsInit (env : InitEnv) : InitM Unit := do
  orFail env.dnsc
  modify (take .dnsc)

def uaInit (env : InitEnv) : InitM Unit := do
  orFail env.uaInit
  modify (take .ua)

/-- `vox_event_init`: the thread runs when the hook fails. -/
def voxEventInit (env : InitEnv) : InitM Unit := do
  orFail env.evThread
  modify (take .evThread)
  orFail env.beventRegister
  modify (take .bevent)

def voxTraceInit (env : InitEnv) (cfg : LifeCfg) : InitM Unit :=
  onlyIf (cfg.traceSip || cfg.pcapPath) do
    orFail env.sip
    modify (take .sipTrace)

/-- `vox_audio_external_init`, whose failure `modules_init` only warns of. -/
def voxAudioExternalInit (env : InitEnv) (s : Vox) : Vox :=
  if s.extReady then s else if env.extRegister then { s with extReady := true, extListed := true } else s

def modulesInit (env : InitEnv) : InitM Unit := modify (voxAudioExternalInit env)

/-- `vox_ice_shim_init`; `voxsdk_init` goes on without the ice module. -/
def voxIceShimInit (env : InitEnv) : InitM Unit := onlyIf env.ice (modify (take .iceShim))

def voxPcapOpen (fopen : Bool) : InitM Unit := do
  orFail (!(← get).held .pcapFile)
  orFail fopen
  modify (take .pcapFile)

def voxStatsInit : InitM Unit := modify (take .statsTmr)

def voxNetmonInit : InitM Unit := modify (take .netmon)

def voxReLoopStart (env : InitEnv) : InitM Unit := do
  orFail env.mqueueAlloc
  orFail env.reThread
  modify (take .reThread)

/-- The steps of `voxsdk_init`. -/
def initSteps (env : InitEnv) (cfg : LifeCfg) : InitM Unit := do
  modify fun s => { s with cfg := some cfg }
  voxLogInit
  libreInit env
  baresipInit env
  voxDnsInit env
  uaInit env
  voxEventInit env
  onlyIf cfg.traceSip (voxTraceInit env cfg)
  modulesInit env
  voxIceShimInit env
  orFail env.messageListen
  onlyIf cfg.pcapPath (voxPcapOpen env.fopen)
  onlyIf (decide (0 < cfg.statsIntervalMs)) voxStatsInit
  voxNetmonInit
  voxReLoopStart env

/-! ### Down -/

def voxReLoopStop (s : Vox) : Vox := s.release .reThread

def voxNetmonClose (s : Vox) : Vox := s.release .netmon

def voxStatsClose (s : Vox) : Vox := s.release .statsTmr

/-- `vox_trace_close`, which asks `uag_sip` for the SIP stack. -/
def voxTraceClose (s : Vox) : Vox := if s.held .ua then s.release .sipTrace else s

def voxEventClose (s : Vox) : Vox := (s.release .bevent).release .evThread

/-- `ua_close` frees the SIP stack. -/
def uaClose (s : Vox) : Vox := (s.release .sipTrace).release .ua

def voxAudioExternalClose (s : Vox) : Vox := if s.extReady then { s with extReady := false, extListed := false } else s

def voxIceShimClose (s : Vox) : Vox := s.release .iceShim

def voxDnsClose (s : Vox) : Vox := s.release .dnsc

def baresipClose (s : Vox) : Vox := s.release .baresip

def libreClose (s : Vox) : Vox := s.release .libre

def voxLogClose (s : Vox) : Vox := s.release .log

def voxPcapClose (s : Vox) : Vox := s.release .pcapFile

/-- `fail:`. -/
def initFail (s : Vox) : Vox :=
  let s := s.voxReLoopStop.voxNetmonClose.voxStatsClose.voxTraceClose.voxEventClose.uaClose
  let s := s.voxIceShimClose.voxDnsClose.baresipClose.libreClose.voxLogClose.voxPcapClose
  { s with cfg := none, initialized := false }

/-- `voxsdk_init`, of a valid config. -/
def voxsdkInit (env : InitEnv) (cfg : LifeCfg) (s : Vox) : Vox × List LifeOut :=
  if s.initialized then (s, [.initAlready])
  else
    match initSteps env cfg s with
    | .ok _ s => ({ s with initialized := true }, [.initOk])
    | .error _ s => (s.initFail, [.initErr])

/-- `voxsdk_shutdown`. -/
def voxsdkShutdown (s : Vox) : Vox :=
  if !s.initialized then s
  else
    let s := s.voxEventClose.voxStatsClose.voxTraceClose.voxReLoopStop.voxNetmonClose.uaClose
    let s := s.voxAudioExternalClose.voxIceShimClose.voxDnsClose.baresipClose
    let s := { s with cfg := none }
    { s.voxPcapClose.libreClose.voxLogClose with initialized := false }

/-- `voxsdk_pcap_start`, which does not ask whether the SDK is up. -/
def voxsdkPcapStart (fopen : Bool) (s : Vox) : Vox :=
  match voxPcapOpen fopen s with
  | .ok _ s | .error _ s => s

/-- `sip_trace_handler`, if it is set. -/
def sipMessage (s : Vox) : List LifeOut :=
  if !s.held .sipTrace then []
  else
    (if s.held .pcapFile then [.captured] else []) ++
      if s.cfg.any LifeCfg.traceSip then [.traced] else []

end Vox

/-- What can happen. -/
inductive LifeAct where
  | init (env : InitEnv) (cfg : LifeCfg)
  | shutdown
  | pcapStart (fopen : Bool)
  | pcapStop
  /-- the SIP stack sends or receives a message -/
  | sipMessage
  deriving DecidableEq, Repr

namespace Vox

/-- There is a SIP stack that sends and receives while the SDK is up. The functions can be called at any time, before
the first `voxsdk_init` as well: the capture lock is static, and zeroed until then. -/
def enabled (s : Vox) : LifeAct → Bool
  | .sipMessage => s.initialized
  | .init .. | .shutdown | .pcapStart _ | .pcapStop => true

def act (s : Vox) : LifeAct → Vox × List LifeOut
  | .init env cfg => s.voxsdkInit env cfg
  | .shutdown => (s.voxsdkShutdown, [])
  | .pcapStart fopen => (s.voxsdkPcapStart fopen, [])
  | .pcapStop => (s.voxPcapClose, [])
  | .sipMessage => (s, s.sipMessage)

end Vox

/-- The life of the SDK in a process. -/
def lifecycle : Machine Vox LifeAct LifeOut where
  init s := s = .zero
  step s act := if s.enabled act then some (s.act act) else none

end VoxSdk
