import VoxSdk.AudioPath

/-!
# What the filters are set to

The platform's voice drivers cancel the echo before the first sample arrives, and `vox_aec` on top of that would only
make the call half-duplex. What baresip's filter list says is decided here for every run: of `vox_aec` against the
driver that the configuration names, and of `vox_ns` and `vox_agc` against what the app asked for. Calls that are up
keep the device baresip has open for them, which is not the configuration's to say.
-/

namespace VoxSdk

open Reactive

/-! ### Filter lists -/

section Filters

variable {n m : AufiltName} {on : Bool} {fl : List Aufilt} {names : List AufiltName} {s : AudioPath}

/-- The filter is on the list. -/
def isRegistered (n : AufiltName) (fl : List Aufilt) : Bool := fl.any fun f => decide (f.name = n)

@[simp]
theorem isRegistered_aufiltEnable : isRegistered n (aufiltEnable m on fl) = isRegistered n fl := by
  induction fl with
  | nil => rfl
  | cons f fl ih =>
      have hname : (if f.name = m then { f with enabled := on } else f).name = f.name := by
        split <;> rfl
      simp only [isRegistered, aufiltEnable, List.map_cons, List.any_cons] at ih ⊢
      rw [hname, ih]

@[simp]
theorem isEnabled_aufiltEnable_self : isEnabled n (aufiltEnable n on fl) = (on && isRegistered n fl) := by
  induction fl with
  | nil => simp [isEnabled, isRegistered, aufiltEnable]
  | cons f fl ih =>
      simp only [isEnabled, isRegistered, aufiltEnable, List.map_cons, List.any_cons] at ih ⊢
      rw [ih]
      by_cases hname : f.name = n
      · cases on <;> simp [hname]
      · simp [hname]

theorem isEnabled_aufiltEnable_of_ne (h : n ≠ m) : isEnabled n (aufiltEnable m on fl) = isEnabled n fl := by
  induction fl with
  | nil => rfl
  | cons f fl ih =>
      simp only [isEnabled, aufiltEnable, List.map_cons, List.any_cons] at ih ⊢
      rw [ih]
      by_cases hname : f.name = m
      · simp [hname, h.symm]
      · simp [hname]

/-- A filter that is on no list is on this one after it is registered. -/
theorem isRegistered_aufiltRegister_self (h : n ∉ s.linked) :
    isRegistered n (s.aufiltRegister n).filters = true := by
  simp [AudioPath.aufiltRegister, h, isRegistered]

theorem isRegistered_aufiltRegister_of_registered (h : isRegistered n s.filters = true) :
    isRegistered n (s.aufiltRegister m).filters = true := by
  unfold AudioPath.aufiltRegister
  split
  · rwa [isRegistered_aufiltEnable]
  · simp only [isRegistered, List.any_append, Bool.or_eq_true] at h ⊢
    exact .inl h

theorem notMem_linked_aufiltRegister (hne : n ≠ m) (h : n ∉ s.linked) : n ∉ (s.aufiltRegister m).linked := by
  unfold AudioPath.aufiltRegister
  split
  · exact h
  · exact fun hmem => (List.mem_cons.mp hmem).elim hne h

theorem isRegistered_foldl_of_registered (h : isRegistered n s.filters = true) :
    isRegistered n (names.foldl AudioPath.aufiltRegister s).filters = true := by
  induction names generalizing s with
  | nil => exact h
  | cons m names ih => exact ih (isRegistered_aufiltRegister_of_registered h)

theorem isRegistered_foldl_aufiltRegister (hmem : n ∈ names) (h : n ∉ s.linked) :
    isRegistered n (names.foldl AudioPath.aufiltRegister s).filters = true := by
  induction names generalizing s with
  | nil => cases hmem
  | cons m names ih =>
      rw [List.foldl_cons]
      by_cases hm : n = m
      · subst hm
        exact isRegistered_foldl_of_registered (isRegistered_aufiltRegister_self h)
      · exact ih ((List.mem_cons.mp hmem).resolve_left hm) (notMem_linked_aufiltRegister hm h)

end Filters

namespace AudioPath

variable {b : AudioBuild} {gainOf : ℚ → ℚ} {s s' : AudioPath} {act : AudioAct} {t : Trace AudioAct AudioReq}
  {fn : AudioPath → AudioPath × List AudioReq} {post : Int} {n : AufiltName}

/-! ### The list after `vox_audio_processing_init` -/

/-- Registering changes the filters, and nothing else. -/
theorem foldl_aufiltRegister_eq (names : List AufiltName) (s : AudioPath) :
    ∃ filters linked, names.foldl aufiltRegister s = { s with filters, linked } := by
  induction names generalizing s with
  | nil => exact ⟨s.filters, s.linked, rfl⟩
  | cons n names ih =>
      rw [List.foldl_cons]
      obtain ⟨filters, linked, hrest⟩ := ih (s.aufiltRegister n)
      refine ⟨filters, linked, hrest.trans ?_⟩
      unfold aufiltRegister
      split <;> rfl

/-- What the configuration asks of a filter. -/
def wants (s : AudioPath) : AufiltName → Bool
  | .ns => s.cfg.ns
  | .agc => s.cfg.agc
  | .aec => s.aecSuppressorWanted s.cfg.aecMode
  | .micGain | .spkGain | .webrtcAec => true

/-- `vox_audio_processing_init` touches the filters and the gains alone. -/
theorem audioProcessingInit_eq (gainOf : ℚ → ℚ) (s : AudioPath) :
    ∃ filters linked micGain spkGain aecFloor,
      s.audioProcessingInit gainOf = { s with filters, linked, micGain, spkGain, aecFloor } := by
  unfold audioProcessingInit
  dsimp only
  generalize hseeded : ({ s with
    micGain := if s.cfg.micGainDb ≠ 0 then gainOf s.cfg.micGainDb else s.micGain
    spkGain := if s.cfg.speakerGainDb ≠ 0 then gainOf s.cfg.speakerGainDb else s.spkGain
    aecFloor := 1 - s.cfg.aecSuppressionLevel * (17 / 20) } : AudioPath) = r
  obtain ⟨filters, linked, hr⟩ := foldl_aufiltRegister_eq voxFilters r
  rw [hr, ← hseeded]
  exact ⟨_, _, _, _, _, rfl⟩

/-- Each filter is switched once, by its own name, to what the configuration says. -/
theorem isEnabled_init (gainOf : ℚ → ℚ) (s : AudioPath) (hn : n ∈ voxFilters) :
    isEnabled n (s.audioProcessingInit gainOf).filters =
      (s.wants n && isRegistered n (s.audioProcessingInit gainOf).filters) := by
  have hwants : (s.audioProcessingInit gainOf).wants n = s.wants n := by
    obtain ⟨filters, linked, micGain, spkGain, aecFloor, hinit⟩ := audioProcessingInit_eq gainOf s
    rw [hinit]
    rfl
  rw [← hwants]
  simp only [voxFilters, List.mem_cons, List.not_mem_nil, or_false] at hn
  rcases hn with rfl | rfl | rfl | rfl | rfl <;>
    simp [audioProcessingInit, isEnabled_aufiltEnable_of_ne, wants, aecSuppressorWanted, externalSelected]

theorem isRegistered_init (gainOf : ℚ → ℚ) (s : AudioPath) (hn : n ∈ voxFilters) (hlinked : n ∉ s.linked) :
    isRegistered n (s.audioProcessingInit gainOf).filters = true := by
  simp only [audioProcessingInit, isRegistered_aufiltEnable]
  exact isRegistered_foldl_aufiltRegister hn hlinked

/-! ### One step -/

/-- What `vox_dispatch_sync` keeps: what the function keeps, where it runs, and what holds of the state before it. -/
theorem dispatchSync_keeps {P : AudioPath → Prop} (hs : P s)
    (hfn : s.initialized = true → post = 0 → P (fn s).1) : P (s.dispatchSync post fn).1.1 := by
  unfold AudioPath.dispatchSync
  cases hup : s.initialized with
  | false => exact hs
  | true =>
      by_cases hpost : post = 0
      · simpa [hpost] using hfn hup hpost
      · simpa [hpost] using hs

theorem setAecMode_keeps {mode : AecMode} {P : AudioPath → Prop} (hs : P s)
    (hfn : (mode = .off ∨ mode = s.cfg.aecMode) → P (setAecModeFn b mode s).1) : P (s.setAecMode b post mode).1.1 := by
  unfold AudioPath.setAecMode
  split
  · exact hs
  · rename_i hmode
    split
    · exact hs
    · refine dispatchSync_keeps hs fun _ _ => hfn ?_
      rwa [ne_eq, ne_eq, not_and_or, not_not, not_not] at hmode

theorem isEnabled_setAecModeFn {mode : AecMode} (hn : n ≠ .webrtcAec) :
    isEnabled n (setAecModeFn b mode s).1.filters =
      isEnabled n (aufiltEnable .aec (s.aecSuppressorWanted mode) s.filters) := by
  unfold setAecModeFn
  dsimp only
  split
  · exact isEnabled_aufiltEnable_of_ne hn
  · rfl

/-! ### What baresip is asked -/

/-- A request is about one of the calls that are up, and names the device the configuration names. -/
def Names (conf : AudioConf) (calls : List AudioCall) (r : AudioReq) : Prop :=
  ∃ c ∈ calls, c.state = .established ∧ c.audio = true ∧ (r = .setSource c.id conf.src ∨ r = .setPlayer c.id conf.play)

theorem mem_updateCalls {isInput : Bool} {dev : AudioDev} {calls : List AudioCall} {r : AudioReq} :
    r ∈ updateCalls isInput dev calls ↔ ∃ c ∈ calls, c.state = .established ∧ c.audio = true ∧
      r = if isInput then .setSource c.id dev else .setPlayer c.id dev := by
  rw [updateCalls, List.mem_flatMap]
  refine exists_congr fun c => and_congr_right fun _ => ?_
  unfold updateCallDevice
  by_cases hstate : c.state = .established
  · cases haudio : c.audio <;> cases isInput <;> simp [hstate]
  · simp [hstate]

theorem names_dispatchSync {calls : List AudioCall} (hfn : ∀ r ∈ (fn s).2, Names (fn s).1.conf calls r) :
    ∀ r ∈ (s.dispatchSync post fn).1.2, Names (s.dispatchSync post fn).1.1.conf calls r := by
  unfold dispatchSync
  split
  · exact fun r hr => nomatch hr
  · split
    · exact fun r hr => nomatch hr
    · exact hfn

theorem silent_setAecMode {mode : AecMode} : (s.setAecMode b post mode).1.2 = [] := by
  unfold setAecMode dispatchSync
  split_ifs <;> rfl

theorem names_updateCalls {conf : AudioConf} {isInput : Bool} {dev : AudioDev} {calls : List AudioCall}
    (hdev : dev = if isInput then conf.src else conf.play) : ∀ r ∈ updateCalls isInput dev calls, Names conf calls r := by
  intro r hr
  obtain ⟨c, hc, hstate, haudio, rfl⟩ := mem_updateCalls.mp hr
  refine ⟨c, hc, hstate, haudio, ?_⟩
  cases isInput with
  | true => exact .inl (by rw [hdev]; rfl)
  | false => exact .inr (by rw [hdev]; rfl)

theorem names_useExternalFn {enable : Bool} {calls : List AudioCall} :
    ∀ r ∈ (s.useExternalFn b enable calls).2, Names (s.useExternalFn b enable calls).1.conf calls r := by
  unfold useExternalFn
  cases s.targetMod enable with
  | none => exact fun r hr => nomatch hr
  | some mod =>
      intro r hr
      rcases List.mem_append.mp hr with hr | hr
      · exact names_updateCalls rfl r hr
      · exact names_updateCalls rfl r hr

/-! ### The suppressor -/

theorem aecSuppressorWanted_iff {mode : AecMode} : s.aecSuppressorWanted mode = true ↔
    mode = .suppressor ∧ (s.platformAec = false ∨ s.externalSelected = true) := by
  unfold aecSuppressorWanted
  by_cases hmode : mode = .suppressor
  · cases s.platformAec <;> cases s.externalSelected <;> simp [hmode]
  · simp [hmode]

/-- While the stack is up, the suppressor runs only where it is wanted. -/
def EchoSafe (s : AudioPath) : Prop :=
  s.initialized = true → isEnabled .aec s.filters = true → s.aecSuppressorWanted s.cfg.aecMode = true

/-- A step that leaves alone what the suppressor depends on, and does not enable it. -/
structure LeavesEcho (s s' : AudioPath) : Prop where
  initialized : s'.initialized = s.initialized
  aecMode : s'.cfg.aecMode = s.cfg.aecMode
  platformAec : s'.platformAec = s.platformAec
  srcMod : s'.conf.src.mod = s.conf.src.mod
  aec : isEnabled .aec s'.filters = true → isEnabled .aec s.filters = true

theorem LeavesEcho.refl (s : AudioPath) : LeavesEcho s s := ⟨rfl, rfl, rfl, rfl, id⟩

theorem EchoSafe.leave (hs : s.EchoSafe) (h : LeavesEcho s s') : s'.EchoSafe := by
  intro hup haec
  have hwanted := aecSuppressorWanted_iff.mp (hs (h.initialized ▸ hup) (h.aec haec))
  rw [aecSuppressorWanted_iff, h.aecMode, h.platformAec, externalSelected, h.srcMod]
  exact hwanted

theorem echoSafe_up (gainOf : ℚ → ℚ) (r : AudioPath) :
    ({ r.audioProcessingInit gainOf with initialized := true } : AudioPath).EchoSafe := by
  intro _ haec
  have hinit : isEnabled .aec (r.audioProcessingInit gainOf).filters = true := haec
  rw [isEnabled_init gainOf r (by decide), Bool.and_eq_true] at hinit
  have hwanted : r.aecSuppressorWanted r.cfg.aecMode = true := hinit.1
  obtain ⟨filters, linked, micGain, spkGain, aecFloor, heq⟩ := audioProcessingInit_eq gainOf r
  rw [heq]
  exact hwanted

theorem EchoSafe.setAecMode {mode : AecMode} (hs : s.EchoSafe) : (s.setAecMode b post mode).1.1.EchoSafe := by
  refine setAecMode_keeps hs fun hmode _ haec => ?_
  rw [isEnabled_setAecModeFn (by decide), isEnabled_aufiltEnable_self, Bool.and_eq_true] at haec
  obtain ⟨hsuppressor, hdevice⟩ := aecSuppressorWanted_iff.mp haec.1
  rcases hmode with hoff | hcfg
  · rw [hoff] at hsuppressor
    cases hsuppressor
  · exact aecSuppressorWanted_iff.mpr ⟨hcfg ▸ hsuppressor, hdevice⟩

theorem EchoSafe.setFilter {store : Bool → AudioCfg → AudioCfg} {enable : Bool} (hs : s.EchoSafe) (hn : .aec ≠ n)
    (hstore : ∀ enable cfg, (store enable cfg).aecMode = cfg.aecMode) : (s.setFilter n store post enable).EchoSafe := by
  have hset : LeavesEcho s (s.dispatchSync post (setFilterFn n enable)).1.1 := by
    refine dispatchSync_keeps (.refl s) fun _ _ => ⟨rfl, rfl, rfl, rfl, fun h => ?_⟩
    rwa [setFilterFn, isEnabled_aufiltEnable_of_ne hn] at h
  refine hs.leave ⟨hset.initialized, ?_, hset.platformAec, hset.srcMod, hset.aec⟩
  exact (hstore _ _).trans hset.aecMode

/-- Going to the app's device lifts the veto; coming back from it switches the suppressor off. -/
theorem EchoSafe.useExternalFn {enable : Bool} {calls : List AudioCall} (hmod : externalMod.length < b.modSize)
    (hs : s.EchoSafe) : (s.useExternalFn b enable calls).1.EchoSafe := by
  unfold AudioPath.useExternalFn
  cases htarget : s.targetMod enable with
  | none => exact hs
  | some mod =>
      intro hup haec
      cases enable with
      | true =>
          obtain rfl : externalMod = mod := by simpa [targetMod] using htarget
          have hwanted := aecSuppressorWanted_iff.mp (hs hup haec)
          refine aecSuppressorWanted_iff.mpr ⟨hwanted.1, .inr ?_⟩
          have hwhole : strNcpy b.modSize externalMod = externalMod := List.take_of_length_le (by omega)
          simp [externalSelected, hwhole]
      | false =>
          cases hplatform : s.platformAec with
          | true => simp [hplatform] at haec
          | false =>
              simp only [hplatform, Bool.and_false, Bool.false_eq_true, if_false] at haec
              have hwanted := aecSuppressorWanted_iff.mp (hs hup haec)
              exact aecSuppressorWanted_iff.mpr ⟨hwanted.1, .inl rfl⟩

theorem EchoSafe.handle (hmod : externalMod.length < b.modSize) (hs : s.EchoSafe) :
    (s.handle b gainOf act).1.EchoSafe := by
  cases act with
  | init cfg slesVc loaded => exact echoSafe_up gainOf _
  | initFails stop cfg slesVc loaded left => exact fun hup => absurd hup Bool.false_ne_true
  | shutdown =>
      by_cases hup : s.initialized = true
      · exact fun hup' => absurd hup' (by simp [AudioPath.handle, hup, AudioPath.stop])
      · simpa [AudioPath.handle, hup] using hs
  | setInputDevice post name calls =>
      exact dispatchSync_keeps hs fun _ _ => hs.leave ⟨rfl, rfl, rfl, rfl, id⟩
  | setOutputDevice post name calls =>
      exact dispatchSync_keeps hs fun _ _ => hs.leave ⟨rfl, rfl, rfl, rfl, id⟩
  | useExternal post enable calls => exact dispatchSync_keeps hs fun _ _ => hs.useExternalFn hmod
  | setAec post enable => exact hs.setAecMode
  | setAecMode post mode => exact hs.setAecMode
  | setAecSuppressionLevel level => exact hs.leave ⟨rfl, rfl, rfl, rfl, id⟩
  | setNs post enable => exact hs.setFilter (by decide) fun _ _ => rfl
  | setAgc post enable => exact hs.setFilter (by decide) fun _ _ => rfl
  | setMicGainDb db => exact hs.leave ⟨rfl, rfl, rfl, rfl, id⟩
  | setSpeakerGainDb db => exact hs.leave ⟨rfl, rfl, rfl, rfl, id⟩

/-! ### The settings -/

/-- The filters the app switches with a function of their own. -/
def OfTheApp (n : AufiltName) : Prop := n = .ns ∨ n = .agc

theorem OfTheApp.ne_aec (h : OfTheApp n) : n ≠ .aec := by
  rcases h with rfl | rfl <;> decide

theorem OfTheApp.ne_webrtcAec (h : OfTheApp n) : n ≠ .webrtcAec := by
  rcases h with rfl | rfl <;> decide

theorem OfTheApp.mem_voxFilters (h : OfTheApp n) : n ∈ voxFilters := by
  rcases h with rfl | rfl <;> decide

end AudioPath

/-- What an action asks of a filter, if libre takes the job: the configuration asks as well. -/
def AudioAct.asks (n : AufiltName) : AudioAct → Option Bool
  | .init cfg .. => if n = .ns then some cfg.ns else if n = .agc then some cfg.agc else none
  | .setNs post enable => if n = .ns ∧ post = 0 then some enable else none
  | .setAgc post enable => if n = .agc ∧ post = 0 then some enable else none
  | _ => none

/-- The calls a function finds, where it looks at them. -/
def AudioAct.calls : AudioAct → Option (List AudioCall)
  | .setInputDevice _ _ calls | .setOutputDevice _ _ calls | .useExternal _ _ calls => some calls
  | _ => none

/-- A `voxsdk_init` that fails after `vox_audio_processing_init` leaves the filters linked to baresip's list. -/
def AudioAct.strands : AudioAct → Bool
  | .initFails stop .. => decide (stop = .afterProcessing)
  | _ => false

/-- What was asked of a filter last. -/
def lastAsked (n : AufiltName) (t : Trace AudioAct AudioReq) : Option Bool :=
  (t.filterMap fun p => p.1.asks n).getLast?

theorem lastAsked_append (n : AufiltName) (t : Trace AudioAct AudioReq) (act : AudioAct) (os : List AudioReq) :
    lastAsked n (t ++ [(act, os)]) = (act.asks n).or (lastAsked n t) := by
  rw [lastAsked, List.filterMap_append, List.getLast?_append]
  cases hasks : act.asks n <;> simp [hasks, lastAsked]

namespace AudioPath

variable {b : AudioBuild} {gainOf : ℚ → ℚ} {s s' : AudioPath} {act : AudioAct} {post : Int} {n : AufiltName}
  {asked : Option Bool} {stranded : Bool}

/-- A filter of the app's own, with what was asked of it last and whether a failed init has stranded it. -/
structure AsAsked (n : AufiltName) (s : AudioPath) (asked : Option Bool) (stranded : Bool) : Prop where
  enabled : s.initialized = true → ∃ on, asked = some on ∧ isEnabled n s.filters = (on && isRegistered n s.filters)
  registered : stranded = false → s.initialized = true → isRegistered n s.filters = true
  unlinked : stranded = false → s.initialized = false → s.linked = []

/-- A step that leaves the filter alone. -/
theorem AsAsked.leave (hs : s.AsAsked n asked stranded) (hup : s'.initialized = s.initialized)
    (hlinked : s'.linked = s.linked) (hregistered : isRegistered n s'.filters = isRegistered n s.filters)
    (henabled : isEnabled n s'.filters = isEnabled n s.filters) : s'.AsAsked n asked stranded := by
  constructor
  · rw [hup, henabled, hregistered]
    exact hs.enabled
  · rw [hup, hregistered]
    exact hs.registered
  · rw [hup, hlinked]
    exact hs.unlinked

/-- A failed init can only strand more. -/
theorem AsAsked.mono {more : Bool} (hs : s.AsAsked n asked stranded) : s.AsAsked n asked (stranded || more) where
  enabled := hs.enabled
  registered := fun hfree => hs.registered (Bool.or_eq_false_iff.mp hfree).1
  unlinked := fun hfree => hs.unlinked (Bool.or_eq_false_iff.mp hfree).1

theorem asAsked_up (gainOf : ℚ → ℚ) (r : AudioPath) (hn : OfTheApp n) (hlinked : stranded = false → r.linked = []) :
    ({ r.audioProcessingInit gainOf with initialized := true } : AudioPath).AsAsked n (some (r.wants n)) stranded := by
  have henabled := isEnabled_init gainOf r hn.mem_voxFilters
  have hregistered : stranded = false → isRegistered n (r.audioProcessingInit gainOf).filters = true := by
    intro hfree
    refine isRegistered_init gainOf r hn.mem_voxFilters ?_
    rw [hlinked hfree]
    exact List.not_mem_nil
  generalize r.audioProcessingInit gainOf = q at henabled hregistered ⊢
  exact ⟨fun _ => ⟨r.wants n, rfl, henabled⟩, fun hfree _ => hregistered hfree, fun _ hdown => nomatch hdown⟩

theorem AsAsked.start (hn : OfTheApp n) {cfg : AudioCfg} {slesVc : Bool} {loaded : AudioConf}
    (hs : s.AsAsked n asked stranded) (hdown : s.initialized = false) :
    (s.start b gainOf cfg slesVc loaded).AsAsked n
      (((AudioAct.init cfg slesVc loaded).asks n).or asked) stranded := by
  have hasks : ((AudioAct.init cfg slesVc loaded).asks n).or asked =
      some (wants (({ s with cfg } : AudioPath).modulesInit b slesVc loaded) n) := by
    rcases hn with rfl | rfl <;> rfl
  rw [hasks]
  exact asAsked_up gainOf _ hn fun hfree => hs.unlinked hfree hdown

theorem AsAsked.startFails {stop : InitStop} {cfg : AudioCfg} {slesVc : Bool} {loaded : AudioConf}
    {left : List Aufilt} (hs : s.AsAsked n asked stranded) (hdown : s.initialized = false) :
    (s.startFails b gainOf stop cfg slesVc loaded left).AsAsked n asked
      (stranded || (AudioAct.initFails stop cfg slesVc loaded left).strands) := by
  refine ⟨nofun, fun _ => nofun, fun hor _ => ?_⟩
  obtain ⟨hfree, hstop⟩ := Bool.or_eq_false_iff.mp hor
  cases stop with
  | beforeModules => exact hs.unlinked hfree hdown
  | beforeProcessing => exact hs.unlinked hfree hdown
  | afterProcessing => cases hstop

theorem asAsked_stop : s.stop.AsAsked n asked stranded :=
  ⟨nofun, fun _ => nofun, fun _ _ => rfl⟩

theorem AsAsked.setAecMode {mode : AecMode} (hn : OfTheApp n) (hs : s.AsAsked n asked stranded) :
    (s.setAecMode b post mode).1.1.AsAsked n asked stranded := by
  refine setAecMode_keeps (P := fun s => s.AsAsked n asked stranded) hs fun _ => hs.leave rfl rfl ?_ ?_
  · unfold setAecModeFn
    dsimp only
    split <;> simp
  · rw [isEnabled_setAecModeFn hn.ne_webrtcAec, isEnabled_aufiltEnable_of_ne hn.ne_aec]

theorem AsAsked.useExternalFn {enable : Bool} {calls : List AudioCall} (hn : OfTheApp n)
    (hs : s.AsAsked n asked stranded) : (s.useExternalFn b enable calls).1.AsAsked n asked stranded := by
  unfold AudioPath.useExternalFn
  cases s.targetMod enable with
  | none => exact hs
  | some mod =>
      refine hs.leave rfl rfl ?_ ?_
      · dsimp only
        split <;> simp
      · dsimp only
        split
        · exact isEnabled_aufiltEnable_of_ne hn.ne_aec
        · rfl

/-- The setter of `m`: where libre takes the job, the filter is as asked. -/
theorem AsAsked.setFilter {m : AufiltName} {store : Bool → AudioCfg → AudioCfg} {enable : Bool}
    (hs : s.AsAsked n asked stranded) :
    (s.setFilter m store post enable).AsAsked n
      ((if n = m ∧ post = 0 then some enable else none).or asked) stranded := by
  cases hup : s.initialized with
  | false =>
      have hset : s.setFilter m store post enable = { s with cfg := store enable s.cfg } := by
        simp [AudioPath.setFilter, AudioPath.dispatchSync, hup]
      rw [hset]
      exact ⟨fun hup' => absurd hup' (by simp [hup]), hs.registered, hs.unlinked⟩
  | true =>
      by_cases hpost : post = 0
      · have hset : s.setFilter m store post enable =
            { s with filters := aufiltEnable m enable s.filters, cfg := store enable s.cfg } := by
          simp [AudioPath.setFilter, AudioPath.dispatchSync, hup, hpost, setFilterFn]
        rw [hset]
        by_cases hm : n = m
        · subst hm
          refine ⟨fun _ => ⟨enable, by simp [hpost], ?_⟩, fun hfree _ => ?_, fun _ hdown => ?_⟩
          · rw [isEnabled_aufiltEnable_self, isRegistered_aufiltEnable]
          · rw [isRegistered_aufiltEnable]
            exact hs.registered hfree hup
          · exact absurd (hup.symm.trans hdown) (by decide)
        · rw [if_neg (fun h => hm h.1), Option.none_or]
          exact hs.leave rfl rfl isRegistered_aufiltEnable (isEnabled_aufiltEnable_of_ne hm)
      · have hset : s.setFilter m store post enable = { s with cfg := store enable s.cfg } := by
          simp [AudioPath.setFilter, AudioPath.dispatchSync, hup, hpost]
        rw [hset, if_neg (fun h => hpost h.2), Option.none_or]
        exact hs.leave rfl rfl rfl rfl

/-- A step that is no failed init strands nothing. -/
theorem AsAsked.handle_of_kept (hn : OfTheApp n) (hen : s.enabled act = true)
    (hkept : ∀ stop cfg slesVc loaded left, act ≠ .initFails stop cfg slesVc loaded left)
    (hs : s.AsAsked n asked stranded) : (s.handle b gainOf act).1.AsAsked n ((act.asks n).or asked) stranded := by
  cases act with
  | init cfg slesVc loaded => exact hs.start hn (by simpa [AudioPath.enabled] using hen)
  | initFails stop cfg slesVc loaded left => exact absurd rfl (hkept stop cfg slesVc loaded left)
  | shutdown =>
      simp only [AudioPath.handle]
      split
      · exact asAsked_stop
      · exact hs
  | setInputDevice post name calls =>
      exact dispatchSync_keeps (P := fun s => s.AsAsked n asked stranded) hs fun _ _ => hs.leave rfl rfl rfl rfl
  | setOutputDevice post name calls =>
      exact dispatchSync_keeps (P := fun s => s.AsAsked n asked stranded) hs fun _ _ => hs.leave rfl rfl rfl rfl
  | useExternal post enable calls =>
      exact dispatchSync_keeps (P := fun s => s.AsAsked n asked stranded) hs fun _ _ => hs.useExternalFn hn
  | setAec post enable => exact hs.setAecMode hn
  | setAecMode post mode => exact hs.setAecMode hn
  | setAecSuppressionLevel level => exact hs.leave rfl rfl rfl rfl
  | setNs post enable =>
      have hset : (s.setNs post enable).AsAsked n _ stranded := hs.setFilter
      exact hset
  | setAgc post enable =>
      have hset : (s.setAgc post enable).AsAsked n _ stranded := hs.setFilter
      exact hset
  | setMicGainDb db => exact hs.leave rfl rfl rfl rfl
  | setSpeakerGainDb db => exact hs.leave rfl rfl rfl rfl

theorem AsAsked.handle (hn : OfTheApp n) (hen : s.enabled act = true) (hs : s.AsAsked n asked stranded) :
    (s.handle b gainOf act).1.AsAsked n ((act.asks n).or asked) (stranded || act.strands) := by
  by_cases hfails : ∃ stop cfg slesVc loaded left, act = .initFails stop cfg slesVc loaded left
  · obtain ⟨stop, cfg, slesVc, loaded, left, rfl⟩ := hfails
    exact hs.startFails (by simpa [AudioPath.enabled] using hen)
  · refine (hs.handle_of_kept hn hen ?_).mono
    rintro stop cfg slesVc loaded left rfl
    exact hfails ⟨stop, cfg, slesVc, loaded, left, rfl⟩

end AudioPath

/-! ### Runs -/

section Runs

open AudioPath

variable {b : AudioBuild} {gainOf : ℚ → ℚ} {s : AudioPath} {t : Trace AudioAct AudioReq} {n : AufiltName}

/-- An Android build. -/
def handset : AudioBuild := { platform := .opensles, webrtcAec := false, modSize := 16, devSize := 128 }

def silentConf : AudioConf := { src := { mod := [], dev := [] }, play := { mod := [], dev := [] } }

/-- A configuration with the suppressor and nothing else. -/
def suppressorCfg : AudioCfg := { AudioCfg.zero with aecMode := .suppressor, aecSuppressionLevel := 1 }

/-- **The suppressor and the platform's driver exclude each other.** Whatever the app asks for, in whatever order and
over however many sessions, `vox_aec` is enabled only if the mode the stack was started with is the suppressor and the
driver that the configuration names for the source is not the platform's own voice driver. -/
theorem suppressor_excludes_platform_aec (hmod : externalMod.length < b.modSize)
    (hrun : (audioPath b gainOf).Run Machine.Always s t) (hup : s.initialized = true)
    (haec : isEnabled .aec s.filters = true) :
    s.cfg.aecMode = .suppressor ∧ (s.platformAec = false ∨ s.conf.src.mod = externalMod) := by
  have hsafe : s.EchoSafe := by
    refine hrun.stateInvariant ?_ ?_
    · rintro _ ⟨conf, rfl⟩ hup
      exact absurd hup Bool.false_ne_true
    · intro s act s' os hs _ hstep
      have hhandle := (audioPath_step hstep).2
      rw [← show (s.handle b gainOf act).1 = s' by rw [hhandle]]
      exact hs.handle hmod
  obtain ⟨hmode, hdevice⟩ := aecSuppressorWanted_iff.mp (hsafe hup haec)
  exact ⟨hmode, hdevice.imp_right of_decide_eq_true⟩

/-- A handset with its voice driver, on which the app has taken the devices over and asked for the suppressor. -/
theorem suppressor_excludes_platform_aec_handset :
    ∃ (s : AudioPath) (t : Trace AudioAct AudioReq), (audioPath handset fun _ => 1).Run Machine.Always s t ∧
      s.platformAec = true ∧ isEnabled .aec s.filters = true ∧ s.cfg.aecMode = .suppressor ∧
      (s.platformAec = false ∨ s.conf.src.mod = externalMod) := by
  obtain ⟨s, t, hrun, hend⟩ := Machine.exists_run_of_exec (M := audioPath handset fun _ => 1) (fun _ _ => true)
    (s := .atStart silentConf) ⟨silentConf, rfl⟩
    [.init suppressorCfg true silentConf, .useExternal 0 true [], .setAecMode 0 .suppressor]
    (fun s _ => s.initialized && s.platformAec && isEnabled .aec s.filters) (by decide +kernel)
  simp only [Bool.and_eq_true] at hend
  obtain ⟨⟨hup, hplatform⟩, haec⟩ := hend
  have hrun' := hrun.always
  exact ⟨s, t, hrun', hplatform, haec, suppressor_excludes_platform_aec (by decide) hrun' hup haec⟩

/-- A device is asked for as the configuration names it, and for calls that are up. -/
theorem requests_as_configured :
    (audioPath b gainOf).EveryStep Machine.Always fun _ act s' os =>
      ∀ r ∈ os, ∃ calls, act.calls = some calls ∧ Names s'.conf calls r := by
  intro s t act s' os _ _ hstep r hr
  obtain ⟨-, hhandle⟩ := audioPath_step hstep
  obtain rfl : (s.handle b gainOf act).1 = s' := by rw [hhandle]
  obtain rfl : (s.handle b gainOf act).2 = os := by rw [hhandle]
  cases act with
  | setInputDevice post name calls => exact ⟨calls, rfl, names_dispatchSync (fun r hr => names_updateCalls (by rfl) r hr) r hr⟩
  | setOutputDevice post name calls => exact ⟨calls, rfl, names_dispatchSync (fun r hr => names_updateCalls (by rfl) r hr) r hr⟩
  | useExternal post enable calls => exact ⟨calls, rfl, names_dispatchSync names_useExternalFn r hr⟩
  | setAecMode post mode => exact absurd (silent_setAecMode (b := b) ▸ hr) List.not_mem_nil
  | _ => exact absurd hr List.not_mem_nil

theorem asAsked_run (hn : OfTheApp n) (hrun : (audioPath b gainOf).Run Machine.Always s t) :
    s.AsAsked n (lastAsked n t) (t.any fun p => p.1.strands) := by
  refine hrun.invariant (I := fun s t => s.AsAsked n (lastAsked n t) (t.any fun p => p.1.strands)) ?_ ?_
  · rintro _ ⟨conf, rfl⟩
    exact ⟨nofun, fun _ => nofun, fun _ _ => rfl⟩
  · intro s t act s' os hs _ hstep
    obtain ⟨hen, hhandle⟩ := audioPath_step hstep
    rw [lastAsked_append, List.any_append, List.any_cons, List.any_nil, Bool.or_false,
      ← show (s.handle b gainOf act).1 = s' by rw [hhandle]]
    exact hs.handle hn hen

/-- **Filters as asked.** While the stack is up, `vox_ns` and `vox_agc` are on if they are on baresip's list and what
was asked for last, with the configuration or by a setter whose job libre took, was to have them on. They are on the
list unless an init has failed after it had registered them, which it does not take back. -/
theorem filters_as_asked (hrun : (audioPath b gainOf).Run Machine.Always s t) (hup : s.initialized = true)
    (hn : n = .ns ∨ n = .agc) :
    (∃ on, lastAsked n t = some on ∧ isEnabled n s.filters = (on && isRegistered n s.filters)) ∧
      ((∀ p ∈ t, p.1.strands = false) → isRegistered n s.filters = true) := by
  have hasked := asAsked_run hn hrun
  refine ⟨hasked.enabled hup, fun hkept => hasked.registered ?_ hup⟩
  exact List.any_eq_false.mpr fun p hp => by simp [hkept p hp]

/-- The stack is restarted; libre takes the job that switches the noise suppression on, and refuses the next. -/
theorem filters_as_asked_restarted :
    ∃ (s : AudioPath) (t : Trace AudioAct AudioReq), (audioPath handset fun _ => 1).Run Machine.Always s t ∧
      s.cfg.ns = false ∧ lastAsked .ns t = some true ∧ isEnabled .ns s.filters = true := by
  obtain ⟨s, t, hrun, hend⟩ := Machine.exists_run_of_exec (M := audioPath handset fun _ => 1) (fun _ _ => true)
    (s := .atStart silentConf) ⟨silentConf, rfl⟩
    [.init suppressorCfg true silentConf, .shutdown, .init suppressorCfg false silentConf, .setNs 0 true,
      .setNs 12 false]
    (fun s t => s.initialized && !s.cfg.ns && decide (lastAsked .ns t = some true) &&
      t.all fun p => !p.1.strands) (by decide +kernel)
  simp only [Bool.and_eq_true, Bool.not_eq_true', decide_eq_true_eq, List.all_eq_true] at hend
  obtain ⟨⟨⟨hup, hcfg⟩, hlast⟩, hkept⟩ := hend
  obtain ⟨⟨on, hon, henabled⟩, hregistered⟩ := filters_as_asked hrun.always hup (.inl rfl)
  refine ⟨s, t, hrun.always, hcfg, hlast, ?_⟩
  rw [henabled, hregistered hkept, Option.some.inj (hon.symm.trans hlast)]
  rfl

end Runs

end VoxSdk
