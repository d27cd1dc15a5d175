import VoxSdk.Lib.Machine
import VoxSdk.Netmon

/-!
# The audio path

Which devices baresip's configuration names, which ones it is asked to move a call to, and what stands between the
microphone and the encoder: `modules_init.c`, the device and filter functions of `audio.c`, and the registration part of
`audio_processing.c`. What baresip makes of a request is its own business. Each handler runs on the re thread and is
one step.
-/

namespace VoxSdk

open Reactive

/-- `voxsdk_aec_mode_t`. -/
inductive AecMode where
  | off
  | suppressor
  | webrtc
  deriving DecidableEq, Repr

/-- The audio driver a build is made with, `VOXSDK_AUDIO_*`. -/
inductive PlatformAudio where
  | opensles
  | aaudio
  | audiounit
  | coreaudio
  | wasapi
  | pulse
  | none
  deriving DecidableEq, Repr

/-- `PLATFORM_AUDIO[0]`. -/
def PlatformAudio.mod : PlatformAudio → Option CStr
  | .opensles => some "opensles".toList
  | .aaudio => some "aaudio".toList
  | .audiounit => some "audiounit".toList
  | .coreaudio => some "coreaudio".toList
  | .wasapi => some "wasapi".toList
  | .pulse => some "pulse".toList
  | .none => Option.none

/-- What is settled when the SDK is built: the audio driver, whether there is a WebRTC canceller, and the sizes of
the arrays in baresip's audio configuration. -/
structure AudioBuild where
  platform : PlatformAudio
  webrtcAec : Bool
  modSize : Nat
  devSize : Nat

/-- A device as baresip is given it: a driver and the name of one of its devices. -/
structure AudioDev where
  mod : CStr
  dev : CStr
  deriving DecidableEq, Repr

/-- `conf_config()->audio`: `src_mod` with `src_dev`, `play_mod` with `play_dev`. -/
structure AudioConf where
  src : AudioDev
  play : AudioDev
  deriving DecidableEq, Repr

/-- The driver of `audio_external.c`. -/
def externalMod : CStr := "external".toList

/-- The filters by their names: the five of `audio_processing.c` and that of the `webrtc_aec` module. -/
inductive AufiltName where
  | micGain
  | ns
  | agc
  | aec
  | spkGain
  | webrtcAec
  deriving DecidableEq, Repr

/-- An entry of `baresip_aufiltl()`. -/
structure Aufilt where
  name : AufiltName
  enabled : Bool
  deriving DecidableEq, Repr

/-- Whether a filter is on a list and enabled. -/
def isEnabled (name : AufiltName) (fl : List Aufilt) : Bool := fl.any fun f => decide (f.name = name) && f.enabled

/-- `aufilt_enable`. -/
def aufiltEnable (name : AufiltName) (enable : Bool) (fl : List Aufilt) : List Aufilt :=
  fl.map fun f => if f.name = name then { f with enabled := enable } else f

/-- `aufilt_unregister`. -/
def aufiltUnregister (fl : List Aufilt) (name : AufiltName) : List Aufilt :=
  fl.filter fun f => decide (f.name ≠ name)

/-- The filters of `audio_processing.c`, in the order they are registered. -/
def voxFilters : List AufiltName := [.micGain, .ns, .agc, .aec, .spkGain]

/-- What the audio code reads of `g_vox.cfg`. -/
structure AudioCfg where
  ns : Bool
  agc : Bool
  aecMode : AecMode
  aecSuppressionLevel : ℚ
  micGainDb : ℚ
  speakerGainDb : ℚ
  deriving DecidableEq

/-- `g_vox.cfg` after `memset`. -/
def AudioCfg.zero : AudioCfg :=
  { ns := false, agc := false, aecMode := .off, aecSuppressionLevel := 0, micGainDb := 0, speakerGainDb := 0 }

/-- A call on the list, with what `update_call_device` asks of it: its state, and whether baresip has the call and an
audio stream for it. -/
structure AudioCall where
  id : Nat
  state : CallState
  audio : Bool
  deriving DecidableEq

/-- What baresip is asked to do with a call: `audio_set_source`, `audio_set_player`. -/
inductive AudioReq where
  | setSource (call : Nat) (dev : AudioDev)
  | setPlayer (call : Nat) (dev : AudioDev)
  deriving DecidableEq, Repr

/-- `update_call_device`, for the source or for the player. -/
def updateCallDevice (isInput : Bool) (dev : AudioDev) (c : AudioCall) : List AudioReq :=
  if c.state ≠ .established ∨ c.audio = false then []
  else if isInput then [.setSource c.id dev]
  else [.setPlayer c.id dev]

/-- The audio part of the SDK. `platformAec` and `platformMod` are `s_platform_aec` and `s_platform_audio_mod`;
`linked` are the filters of `audio_processing.c` whose `le` says it is on a list; the gains are its atomics. -/
structure AudioPath where
  initialized : Bool
  cfg : AudioCfg
  conf : AudioConf
  platformAec : Bool
  platformMod : CStr
  filters : List Aufilt
  linked : List AufiltName
  micGain : ℚ
  spkGain : ℚ
  aecFloor : ℚ

/-- What a function answers, where it is not 0: `post` is the error of `re_thread_async_main`. -/
inductive AudioErr where
  | inval
  | notsup
  | state
  | post (err : Int)
  deriving DecidableEq, Repr

/-- How far a `voxsdk_init` that fails has come with the audio path. -/
inductive InitStop where
  | beforeModules
  | beforeProcessing
  | afterProcessing
  deriving DecidableEq, Repr

namespace AudioPath

variable (b : AudioBuild) (gainOf : ℚ → ℚ)

/-- `vox_audio_external_selected`. -/
def externalSelected (s : AudioPath) : Bool := decide (s.conf.src.mod = externalMod)

/-- `vox_aec_suppressor_wanted`. -/
def aecSuppressorWanted (mode : AecMode) (s : AudioPath) : Bool :=
  if mode ≠ .suppressor then false
  else if s.platformAec && !s.externalSelected then false
  else true

/-- `aufilt_register`, which enables what it registers. `list_append` refuses a filter that is on a list already, or
that says so. -/
def aufiltRegister (s : AudioPath) (name : AufiltName) : AudioPath :=
  if name ∈ s.linked then { s with filters := aufiltEnable name true s.filters }
  else { s with filters := s.filters ++ [{ name, enabled := true }], linked := name :: s.linked }

/-! ### Starting and stopping -/

/-- The driver `modules_init` ends up with: `slesVc` is whether `vox_sles_vc_init` succeeds. -/
def audioMod (slesVc : Bool) : Option CStr :=
  if b.platform = .opensles ∧ slesVc = true then some "sles_vc".toList else b.platform.mod

/-- The end of `modules_init`, on what loading the modules has left in baresip's configuration. -/
def wireAudio (slesVc : Bool) (loaded : AudioConf) : AudioConf :=
  let device (d : AudioDev) (mod : CStr) : AudioDev :=
    { mod := strNcpy b.modSize mod
      dev := if b.platform = .wasapi ∧ d.dev = [] then strNcpy b.devSize "default".toList else d.dev }
  match audioMod b slesVc with
  | none => loaded
  | some mod => { src := device loaded.src mod, play := device loaded.play mod }

/-- `modules_init`. -/
def modulesInit (slesVc : Bool) (loaded : AudioConf) (s : AudioPath) : AudioPath :=
  { s with
    platformAec := decide (b.platform = .opensles) && slesVc || decide (b.platform = .audiounit)
    platformMod := ((audioMod b slesVc).map (strNcpy 32)).getD s.platformMod
    conf := wireAudio b slesVc loaded
    filters :=
      if b.webrtcAec = true ∧ s.cfg.aecMode = .webrtc then s.filters ++ [{ name := .webrtcAec, enabled := true }]
      else s.filters }

/-- `vox_audio_processing_init`. -/
def audioProcessingInit (s : AudioPath) : AudioPath :=
  let s := { s with
    micGain := if s.cfg.micGainDb ≠ 0 then gainOf s.cfg.micGainDb else s.micGain
    spkGain := if s.cfg.speakerGainDb ≠ 0 then gainOf s.cfg.speakerGainDb else s.spkGain
    aecFloor := 1 - s.cfg.aecSuppressionLevel * (17 / 20) }
  let s := voxFilters.foldl aufiltRegister s
  { s with
    filters :=
      aufiltEnable .aec (s.aecSuppressorWanted s.cfg.aecMode) <|
        aufiltEnable .agc s.cfg.agc <| aufiltEnable .ns s.cfg.ns <|
          aufiltEnable .spkGain true <| aufiltEnable .micGain true s.filters }

/-- `voxsdk_init` as far as it sets up the audio path. -/
def start (cfg : AudioCfg) (slesVc : Bool) (loaded : AudioConf) (s : AudioPath) : AudioPath :=
  { (({ s with cfg }).modulesInit b slesVc loaded).audioProcessingInit gainOf with initialized := true }

/-- `voxsdk_init` that fails: it takes nothing of the audio path back. `left` is what the next one finds on
baresip's filter list. -/
def startFails (stop : InitStop) (cfg : AudioCfg) (slesVc : Bool) (loaded : AudioConf) (left : List Aufilt)
    (s : AudioPath) : AudioPath :=
  let s' :=
    match stop with
    | .beforeModules => s
    | .beforeProcessing => ({ s with cfg }).modulesInit b slesVc loaded
    | .afterProcessing => (({ s with cfg }).modulesInit b slesVc loaded).audioProcessingInit gainOf
  { s' with initialized := false, cfg := .zero, filters := left }

/-- `voxsdk_shutdown`: the filters are unregistered, those of the modules with the modules. The devices that the
configuration names stay, and so do the gains. -/
def stop (s : AudioPath) : AudioPath :=
  { s with
    initialized := false
    filters := (voxFilters ++ [AufiltName.webrtcAec]).foldl aufiltUnregister s.filters
    linked := [] }

/-! ### Devices -/

/-- `vox_call_foreach` with `update_call_device`. -/
def updateCalls (isInput : Bool) (dev : AudioDev) (calls : List AudioCall) : List AudioReq :=
  calls.flatMap (updateCallDevice isInput dev)

/-- `set_input_fn`. -/
def setInputFn (name : Option CStr) (calls : List AudioCall) (s : AudioPath) : AudioPath × List AudioReq :=
  let src := { s.conf.src with dev := (name.map (strNcpy b.devSize)).getD [] }
  ({ s with conf.src := src }, updateCalls true src calls)

/-- `set_output_fn`. -/
def setOutputFn (name : Option CStr) (calls : List AudioCall) (s : AudioPath) : AudioPath × List AudioReq :=
  let play := { s.conf.play with dev := (name.map (strNcpy b.devSize)).getD [] }
  ({ s with conf.play := play }, updateCalls false play calls)

/-- The driver `use_external_fn` goes to, if there is one: `vox_platform_audio_mod` to go back. -/
def targetMod (enable : Bool) (s : AudioPath) : Option CStr :=
  if enable then some externalMod else if s.platformMod = [] then none else some s.platformMod

/-- `use_external_fn`. The name of the device is the driver's business. -/
def useExternalFn (enable : Bool) (calls : List AudioCall) (s : AudioPath) : AudioPath × List AudioReq :=
  match s.targetMod enable with
  | none => (s, [])
  | some mod =>
      let dev : AudioDev := { mod := strNcpy b.modSize mod, dev := [] }
      ({ s with
        conf := { src := dev, play := dev }
        filters := if !enable && s.platformAec then aufiltEnable .aec false s.filters else s.filters },
        updateCalls true dev calls ++ updateCalls false dev calls)

/-! ### Filters -/

/-- `set_filter_fn`. -/
def setFilterFn (name : AufiltName) (enable : Bool) (s : AudioPath) : AudioPath × List AudioReq :=
  ({ s with filters := aufiltEnable name enable s.filters }, [])

/-- `set_aec_mode_fn`. -/
def setAecModeFn (mode : AecMode) (s : AudioPath) : AudioPath × List AudioReq :=
  let filters := aufiltEnable .aec (s.aecSuppressorWanted mode) s.filters
  ({ s with
    filters :=
      if b.webrtcAec = true then aufiltEnable .webrtcAec (decide (mode = .webrtc)) filters else filters }, [])

/-- What `vox_dispatch_sync` does with a function of the audio path, and what it answers: `post` is the answer of
`re_thread_async_main`, which is 0 on the re thread itself. -/
def dispatchSync (post : Int) (fn : AudioPath → AudioPath × List AudioReq) (s : AudioPath) :
    (AudioPath × List AudioReq) × Option AudioErr :=
  if !s.initialized then ((s, []), some .state)
  else if post ≠ 0 then ((s, []), some (.post post))
  else (fn s, none)

/-- `voxsdk_set_aec_mode`. -/
def setAecMode (post : Int) (mode : AecMode) (s : AudioPath) : (AudioPath × List AudioReq) × Option AudioErr :=
  if mode ≠ .off ∧ mode ≠ s.cfg.aecMode then ((s, []), some .inval)
  else if b.webrtcAec = false ∧ mode = .webrtc then ((s, []), some .notsup)
  else s.dispatchSync post (setAecModeFn b mode)

/-- `voxsdk_set_aec`, which returns nothing. -/
def setAec (post : Int) (enable : Bool) (s : AudioPath) : AudioPath :=
  (s.setAecMode b post (if enable then s.cfg.aecMode else .off)).1.1

/-- `voxsdk_set_ns` and `voxsdk_set_agc`: what the configuration says is changed whether or not the filter was. -/
def setFilter (name : AufiltName) (store : Bool → AudioCfg → AudioCfg) (post : Int) (enable : Bool) (s : AudioPath) :
    AudioPath :=
  let s := (s.dispatchSync post (setFilterFn name enable)).1.1
  { s with cfg := store enable s.cfg }

/-- `voxsdk_set_ns`. -/
def setNs (post : Int) (enable : Bool) (s : AudioPath) : AudioPath :=
  s.setFilter .ns (fun enable cfg => { cfg with ns := enable }) post enable

/-- `voxsdk_set_agc`. -/
def setAgc (post : Int) (enable : Bool) (s : AudioPath) : AudioPath :=
  s.setFilter .agc (fun enable cfg => { cfg with agc := enable }) post enable

/-- `voxsdk_set_aec_suppression_level`. -/
def setAecSuppressionLevel (level : ℚ) (s : AudioPath) : AudioPath :=
  let level := min 1 (max 0 level)
  { s with aecFloor := 1 - level * (17 / 20), cfg.aecSuppressionLevel := level }

/-- What the two gain setters make of a gain out of range. -/
def clampDb (db : ℚ) : ℚ := min 20 (max (-20) db)

/-- `voxsdk_set_mic_gain_db`. -/
def setMicGainDb (db : ℚ) (s : AudioPath) : AudioPath :=
  { s with micGain := gainOf (clampDb db), cfg.micGainDb := clampDb db }

/-- `voxsdk_set_speaker_gain_db`. -/
def setSpeakerGainDb (db : ℚ) (s : AudioPath) : AudioPath :=
  { s with spkGain := gainOf (clampDb db), cfg.speakerGainDb := clampDb db }

end AudioPath

/-! ### Runs -/

/-- What can happen to the audio path. `post` is what libre answers to the job, `calls` the calls it finds. -/
inductive AudioAct where
  | init (cfg : AudioCfg) (slesVc : Bool) (loaded : AudioConf)
  | initFails (stop : InitStop) (cfg : AudioCfg) (slesVc : Bool) (loaded : AudioConf) (left : List Aufilt)
  | shutdown
  | setInputDevice (post : Int) (name : Option CStr) (calls : List AudioCall)
  | setOutputDevice (post : Int) (name : Option CStr) (calls : List AudioCall)
  | useExternal (post : Int) (enable : Bool) (calls : List AudioCall)
  | setAec (post : Int) (enable : Bool)
  | setAecMode (post : Int) (mode : AecMode)
  | setAecSuppressionLevel (level : ℚ)
  | setNs (post : Int) (enable : Bool)
  | setAgc (post : Int) (enable : Bool)
  | setMicGainDb (db : ℚ)
  | setSpeakerGainDb (db : ℚ)

namespace AudioPath

variable (b : AudioBuild) (gainOf : ℚ → ℚ)

/-- Whether an action can happen: `voxsdk_init` refuses to start what is up. -/
def enabled (s : AudioPath) : AudioAct → Bool
  | .init .. | .initFails .. => !s.initialized
  | _ => true

/-- The step of an action. -/
def handle (s : AudioPath) : AudioAct → AudioPath × List AudioReq
  | .init cfg slesVc loaded => (s.start b gainOf cfg slesVc loaded, [])
  | .initFails stop cfg slesVc loaded left => (s.startFails b gainOf stop cfg slesVc loaded left, [])
  | .shutdown => (if s.initialized then s.stop else s, [])
  | .setInputDevice post name calls => (s.dispatchSync post (setInputFn b name calls)).1
  | .setOutputDevice post name calls => (s.dispatchSync post (setOutputFn b name calls)).1
  | .useExternal post enable calls => (s.dispatchSync post (useExternalFn b enable calls)).1
  | .setAec post enable => (s.setAec b post enable, [])
  | .setAecMode post mode => (s.setAecMode b post mode).1
  | .setAecSuppressionLevel level => (s.setAecSuppressionLevel level, [])
  | .setNs post enable => (s.setNs post enable, [])
  | .setAgc post enable => (s.setAgc post enable, [])
  | .setMicGainDb db => (s.setMicGainDb gainOf db, [])
  | .setSpeakerGainDb db => (s.setSpeakerGainDb gainOf db, [])

/-- The state of the process before the first `voxsdk_init`. -/
def atStart (conf : AudioConf) : AudioPath :=
  { initialized := false
    cfg := .zero
    conf
    platformAec := false
    platformMod := []
    filters := []
    linked := []
    micGain := 1
    spkGain := 1
    aecFloor := 3 / 20 }

end AudioPath

/-- The runs of the audio path, from the start of the process on. `gainOf` is `powf(10, db / 20)`. -/
def audioPath (b : AudioBuild) (gainOf : ℚ → ℚ) : Machine AudioPath AudioAct AudioReq where
  init s := ∃ conf, s = .atStart conf
  step s act := if s.enabled act then some (s.handle b gainOf act) else none

variable {b : AudioBuild} {gainOf : ℚ → ℚ} {s s' : AudioPath} {act : AudioAct} {os : List AudioReq}

theorem audioPath_step (h : (audioPath b gainOf).step s act = some (s', os)) :
    s.enabled act = true ∧ s.handle b gainOf act = (s', os) := by
  simpa [audioPath] using h

end VoxSdk
