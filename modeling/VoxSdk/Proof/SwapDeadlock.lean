import VoxSdk.HandlerSwap

/-!
# Swaps, deliveries and deadlock

What a thread's place means for the state all threads share is said once, in `Fits`: which mutexes the
thread holds there, what it may sleep on, which handler it has stored. A step of one thread moves it to a
place that fits, and leaves the others where they fit. Three things follow. The old callback is neither
running nor called again when a swap from another thread returns. A swap or a shutdown that waits a
delivery out holds `g_vox.lock` while it waits, so it waits for ever if the callback asks for that lock.
And that, with a shutdown from inside the callback, is the only way the threads can get stuck.
-/

namespace VoxSdk

open Reactive

variable {ε : Type}

namespace Place

/-- Places at which the thread holds `g_vox.lock`. -/
def holdsLock : Place ε → Bool
  | .outside | .askLock | .swapLock _ | .downLock | .postEvLock _ | .postAppend _ => false
  | _ => true

/-- Places at which the thread holds `ev_lock`. -/
def holdsEvLock : Place ε → Bool
  | .swapStore _ | .swapDrain _ | .swapEvUnlock _ | .downSignal | .postAppend _ => true
  | _ => false

/-- Places at which the thread asks for `g_vox.lock`. -/
def wantsLock : Place ε → Bool
  | .askLock | .swapLock _ | .downLock => true
  | _ => false

/-- Places from which the thread, if it is not the event thread, lets go of `g_vox.lock` only after it has
seen a delivery end. -/
def waitsOut : Place ε → Bool
  | .swapCheck _ | .swapEvLock _ | .swapStore _ | .swapDrain _ | .swapAsleep _ | .swapWoken _ => true
  | .downCheck | .downEvLock | .downSignal | .downJoin => true
  | _ => false

/-- Places in `voxsdk_shutdown`. -/
def inShutdown : Place ε → Bool
  | .downLock | .downCheck | .downEvLock | .downSignal | .downJoin | .downRest => true
  | _ => false

/-- Places in the loop that waits a delivery out. -/
def inDrain : Place ε → Bool
  | .swapDrain _ | .swapAsleep _ | .swapWoken _ => true
  | _ => false

/-- The handler the thread has stored, while it holds the lock. -/
def stored : Place ε → Option Handler
  | .swapDrain h | .swapAsleep h | .swapWoken h | .swapEvUnlock h | .swapUnlock h => some h
  | _ => none

/-- The same after it has waited the old one out. -/
def drained : Place ε → Option Handler
  | .swapEvUnlock h | .swapUnlock h => some h
  | _ => none

theorem holdsLock_of_waitsOut {p : Place ε} (h : p.waitsOut = true) : p.holdsLock = true := by
  cases p <;> first | rfl | cases h

end Place

namespace EvLoop

/-- Where the event thread holds `ev_lock` in its loop. -/
def holdsEvLock : EvLoop ε → Bool
  | .look | .settle => true
  | _ => false

/-- From reading the handler to announcing the end of the delivery. -/
def isDelivering : EvLoop ε → Bool
  | .deliver .. | .relock | .settle => true
  | _ => false

end EvLoop

namespace Shared

variable {s s' : Shared ε} {t t' : Tid} {p : Place ε}

@[simp, grind =]
theorem goTo_place (s : Shared ε) (t : Tid) (p : Place ε) (t' : Tid) :
    (s.goTo t p).place t' = if t' = t then p else s.place t' := by
  simp only [goTo, Function.update_apply]

@[simp, grind =]
theorem signal_place (s : Shared ε) (t : Tid) : s.signal.place t = s.place t := rfl

/-- What it takes for thread `t` to be at place `p`. -/
structure Fits (s : Shared ε) (t : Tid) (p : Place ε) : Prop where
  lock : s.lock = some t ↔ p.holdsLock = true
  evLock : s.evLock = some t ↔ p.holdsEvLock = true ∨ t = .event ∧ s.loop.holdsEvLock = true
  inside : t = .event → p ≠ .outside → s.inCallback = true
  asleep : ∀ h, p = .swapAsleep h → s.delivering = true
  drain : t = .event → p.inDrain = false
  joining : p = .downJoin → s.shutdown = true
  stored : ∀ h, p.stored = some h → s.handler = h
  drained : t ≠ .event → ∀ h, p.drained = some h → ∀ h' ev, s.loop = .deliver h' ev → h' = h

/-- Every thread is at a place that fits, `ev_delivering` is set from the moment the handler is read to the
end of the delivery, and the event thread sleeps only on an empty queue. -/
structure Held (s : Shared ε) : Prop where
  fits : ∀ t, s.Fits t (s.place t)
  delivering : s.delivering = s.loop.isDelivering
  idle : s.loop = .asleep → s.queue.items = [] ∧ s.shutdown = false

/-- Where the other threads are does not matter. -/
theorem Fits.goTo (h : s.Fits t p) (t' : Tid) (p' : Place ε) : (s.goTo t' p').Fits t p :=
  ⟨h.lock, h.evLock, h.inside, h.asleep, h.drain, h.joining, h.stored, h.drained⟩

/-- The event thread does not hold `ev_lock` in its loop while its callback runs. -/
theorem not_holdsEvLock (hp : p.holdsEvLock = false) (hinside : t = .event → s.inCallback = true) :
    ¬(p.holdsEvLock = true ∨ t = .event ∧ s.loop.holdsEvLock = true) := by
  rintro (hholds | ⟨hevent, hholds⟩)
  · rw [hp] at hholds
    cases hholds
  · have hcallback := hinside hevent
    cases hloop : s.loop with
    | deliver h ev =>
        rw [hloop] at hholds
        cases hholds
    | _ => simp [inCallback, hloop] at hcallback

theorem fits_of_move (hme : s'.Fits t p) (hothers : ∀ t', t' ≠ t → s'.Fits t' (s.place t'))
    (hplace : s'.place = Function.update s.place t p) (t' : Tid) : s'.Fits t' (s'.place t') := by
  rw [hplace]
  by_cases heq : t' = t
  · subst heq
    rw [Function.update_self]
    exact hme
  · rw [Function.update_of_ne heq]
    exact hothers t' heq

/-- `g_vox.lock` passes between nobody and one thread: the others do not hold it before or after. -/
theorem Fits.setLock {l : Option Tid} (h : s.Fits t' p) (hne : t' ≠ t)
    (hbefore : s.lock = none ∨ s.lock = some t) (hafter : l = none ∨ l = some t) :
    Fits { s with lock := l } t' p := by
  have hother {l : Option Tid} (hl : l = none ∨ l = some t) : l ≠ some t' := by
    rcases hl with rfl | rfl
    · exact nofun
    · exact fun h => hne (Option.some.inj h).symm
  have hfree : ¬p.holdsLock = true := fun hholds => hother hbefore (h.lock.mpr hholds)
  exact ⟨iff_of_false (hother hafter) hfree, h.evLock, h.inside, h.asleep, h.drain, h.joining, h.stored,
    h.drained⟩

theorem Fits.setEvLock {l : Option Tid} (h : s.Fits t' p) (hne : t' ≠ t)
    (hbefore : s.evLock = none ∨ s.evLock = some t) (hafter : l = none ∨ l = some t) :
    Fits { s with evLock := l } t' p := by
  have hother {l : Option Tid} (hl : l = none ∨ l = some t) : l ≠ some t' := by
    rcases hl with rfl | rfl
    · exact nofun
    · exact fun h => hne (Option.some.inj h).symm
  have hfree := fun hholds => hother hbefore (h.evLock.mpr hholds)
  exact ⟨h.lock, iff_of_false (hother hafter) hfree, h.inside, h.asleep, h.drain, h.joining, h.stored,
    h.drained⟩

/-- Whoever stores a handler holds `g_vox.lock`, so no other thread is in a swap that has stored one. -/
theorem Fits.setHandler (h : s.Fits t' p) (hne : t' ≠ t) (hlock : s.lock = some t) (new : Handler) :
    Fits { s with handler := new } t' p := by
  have hfree : ¬p.holdsLock = true := by
    intro hholds
    exact hne (Option.some.inj ((h.lock.mpr hholds).symm.trans hlock))
  have hnone : p.stored = none := by
    cases p <;> first | rfl | exact absurd rfl hfree
  refine ⟨h.lock, h.evLock, h.inside, h.asleep, h.drain, h.joining, ?_, h.drained⟩
  intro old hold
  rw [hnone] at hold
  cases hold

theorem signal_loop (s : Shared ε) :
    s.signal.loop.holdsEvLock = s.loop.holdsEvLock ∧ s.signal.loop.isDelivering = s.loop.isDelivering ∧
      s.signal.inCallback = s.inCallback ∧ s.signal.loop ≠ .asleep ∧
      ∀ h ev, s.signal.loop = .deliver h ev ↔ s.loop = .deliver h ev := by
  cases hloop : s.loop <;> simp [signal, hloop, EvLoop.holdsEvLock, EvLoop.isDelivering, inCallback]

theorem Fits.signal (h : s.Fits t p) : s.signal.Fits t p := by
  obtain ⟨hholds, -, hcallback, -, hdeliver⟩ := signal_loop s
  refine ⟨h.lock, ?_, ?_, h.asleep, h.drain, h.joining, h.stored, ?_⟩
  · rw [hholds]
    exact h.evLock
  · rw [hcallback]
    exact h.inside
  · intro hne old hold h' ev hloop
    exact h.drained hne old hold h' ev ((hdeliver h' ev).mp hloop)

/-- At most places only the mutexes matter. -/
theorem fits_plain (hlock : s.lock = some t ↔ p.holdsLock = true)
    (hevLock : s.evLock = some t ↔ p.holdsEvLock = true ∨ t = .event ∧ s.loop.holdsEvLock = true)
    (hinside : t = .event → p ≠ .outside → s.inCallback = true) (hstored : p.stored = none)
    (hjoin : p ≠ .downJoin) : s.Fits t p := by
  refine ⟨hlock, hevLock, hinside, ?_, ?_, fun h => absurd h hjoin, ?_, ?_⟩
  · rintro h rfl
    cases hstored
  · intro _
    cases p <;> first | rfl | cases hstored
  · intro h hsome
    cases hstored.symm.trans hsome
  · intro _ h hsome
    cases p <;> cases hsome <;> cases hstored

/-! ### What a step does -/

/-- A step of a thread inside a function: it moves, and whatever else it does leaves the others where they
fit. -/
theorem Held.move (h : s.Held) (hme : s'.Fits t p)
    (hothers : ∀ t', t' ≠ t → ∀ p, s.Fits t' p → s'.Fits t' p)
    (hplace : s'.place = Function.update s.place t p)
    (hdelivering : s'.delivering = s.delivering ∧ s'.loop.isDelivering = s.loop.isDelivering)
    (hidle : s'.loop = .asleep → s.loop = .asleep ∧ s'.queue = s.queue ∧ s'.shutdown = s.shutdown) :
    s'.Held where
  fits := fits_of_move hme (fun t' hne => hothers t' hne _ (h.fits t')) hplace
  delivering := by rw [hdelivering.1, hdelivering.2, h.delivering]
  idle := by
    intro hasleep
    obtain ⟨hloop, hqueue, hshutdown⟩ := hidle hasleep
    rw [hqueue, hshutdown]
    exact h.idle hloop

theorem Held.takeLock {q : Place ε} (h : s.Held) (hplace : s.place t = q)
    (hq : q.holdsEvLock = false ∧ q ≠ .outside)
    (hp : p.holdsLock = true ∧ p.holdsEvLock = false ∧ p.stored = none ∧ p ≠ .downJoin)
    (hstep : s.takeLock t p = some s') : s'.Held := by
  unfold Shared.takeLock at hstep
  split at hstep
  · rename_i hfree
    obtain rfl := Option.some.inj hstep
    have hfit := hplace ▸ h.fits t
    refine h.move (fits_plain ?_ ?_ ?_ hp.2.2.1 hp.2.2.2)
      (fun t' hne p hfits => (hfits.setLock hne (.inl hfree) (.inr rfl)).goTo _ _) rfl ⟨rfl, rfl⟩
      fun hasleep => ⟨hasleep, rfl, rfl⟩
    · exact iff_of_true rfl hp.1
    · rw [hp.2.1, ← hq.1]
      exact hfit.evLock
    · exact fun hevent _ => hfit.inside hevent hq.2
  · cases hstep

theorem Held.takeEvLock (h : s.Held) (hfit : ({ s with evLock := some t } : Shared ε).Fits t p)
    (hstep : s.takeEvLock t p = some s') : s'.Held := by
  unfold Shared.takeEvLock at hstep
  split at hstep
  · rename_i hfree
    obtain rfl := Option.some.inj hstep
    exact h.move (hfit.goTo _ _)
      (fun t' hne p hfits => (hfits.setEvLock hne (.inl hfree) (.inr rfl)).goTo _ _) rfl ⟨rfl, rfl⟩
      fun hasleep => ⟨hasleep, rfl, rfl⟩
  · cases hstep

/-- On the way from one place to another, where nothing but the mutex changes. -/
theorem Held.takeEvLockAt {q : Place ε} (h : s.Held) (hplace : s.place t = q) (hq : q ≠ .outside)
    (hp : p.holdsLock = q.holdsLock ∧ p.holdsEvLock = true ∧ p.stored = none ∧ p ≠ .downJoin)
    (hstep : s.takeEvLock t p = some s') : s'.Held := by
  have hfit := hplace ▸ h.fits t
  refine h.takeEvLock (fits_plain ?_ ?_ (fun hevent _ => hfit.inside hevent hq) hp.2.2.1 hp.2.2.2) hstep
  · rw [hp.1]
    exact hfit.lock
  · exact iff_of_true rfl (.inl hp.2.1)

theorem Held.unlock {q : Place ε} (h : s.Held) (hplace : s.place t = q)
    (hholds : q.holdsLock = true ∧ q.holdsEvLock = false) (b : Bool) :
    (({ s with initialized := b } : Shared ε).unlock t).Held := by
  have hfit := hplace ▸ h.fits t
  have hlock := hfit.lock.mpr hholds.1
  refine h.move (fits_plain ?_ ?_ (fun _ hne => absurd rfl hne) rfl nofun) (fun t' hne p hfits => ?_) rfl
    ⟨rfl, rfl⟩ fun hasleep => ⟨hasleep, rfl, rfl⟩
  · exact iff_of_false nofun nofun
  · have hevLock := hfit.evLock
    rw [hholds.2] at hevLock
    exact hevLock
  · have hfits' := (hfits.setLock hne (.inr hlock) (.inl rfl)).goTo t .outside
    exact ⟨hfits'.lock, hfits'.evLock, hfits'.inside, hfits'.asleep, hfits'.drain, hfits'.joining,
      hfits'.stored, hfits'.drained⟩

theorem Held.goTo {q : Place ε} (h : s.Held) (hplace : s.place t = q)
    (hp : p.holdsLock = q.holdsLock ∧ p.holdsEvLock = q.holdsEvLock ∧ p.stored = none ∧ p ≠ .downJoin)
    (hinside : t = .event → p ≠ .outside → s.inCallback = true) : (s.goTo t p).Held := by
  have hfit := hplace ▸ h.fits t
  refine h.move ((fits_plain ?_ ?_ hinside hp.2.2.1 hp.2.2.2).goTo _ _)
    (fun t' hne p hfits => hfits.goTo _ _) rfl ⟨rfl, rfl⟩ fun hasleep => ⟨hasleep, rfl, rfl⟩
  · rw [hp.1]
    exact hfit.lock
  · rw [hp.2.1]
    exact hfit.evLock

theorem Held.store (h : s.Held) {new : Handler} (hplace : s.place t = .swapStore new) :
    ({ s with handler := new }.goTo t
      (if t = Tid.event then .swapEvUnlock new else .swapDrain new)).Held := by
  have hfit := hplace ▸ h.fits t
  have hlock := hfit.lock.mpr rfl
  refine h.move (p := if t = Tid.event then .swapEvUnlock new else .swapDrain new) (Fits.goTo ?_ _ _)
    (fun t' hne p hfits => (hfits.setHandler hne hlock new).goTo _ _) rfl ⟨rfl, rfl⟩
    fun hasleep => ⟨hasleep, rfl, rfl⟩
  split
  · rename_i hevent
    refine ⟨hfit.lock, hfit.evLock, fun _ _ => hfit.inside hevent nofun, nofun, fun _ => rfl, nofun, ?_,
      fun hne => absurd hevent hne⟩
    rintro h hstored
    exact Option.some.inj hstored
  · rename_i hne
    refine ⟨hfit.lock, hfit.evLock, fun hevent => absurd hevent hne, nofun, fun hevent => absurd hevent hne,
      nofun, ?_, nofun⟩
    rintro h hstored
    exact Option.some.inj hstored

/-- A swap looks at `ev_delivering`: it goes to sleep, with `ev_lock` free, or has waited long enough. -/
theorem Held.drain (h : s.Held) {new : Handler} (hplace : s.place t = .swapDrain new) :
    (if s.delivering then { s with evLock := none }.goTo t (.swapAsleep new)
      else s.goTo t (.swapEvUnlock new)).Held := by
  have hfit := hplace ▸ h.fits t
  have hevLock := hfit.evLock.mpr (.inl rfl)
  have hne : t ≠ .event := by
    intro hevent
    cases hfit.drain hevent
  split
  · rename_i hdelivering
    refine h.move (Fits.goTo ?_ _ _)
      (fun t' hne p hfits => (hfits.setEvLock hne (.inr hevLock) (.inl rfl)).goTo _ _) rfl ⟨rfl, rfl⟩
      fun hasleep => ⟨hasleep, rfl, rfl⟩
    refine ⟨hfit.lock, iff_of_false nofun ?_, fun hevent => absurd hevent hne, fun _ _ => hdelivering,
      fun hevent => absurd hevent hne, nofun, hfit.stored, nofun⟩
    rintro (hholds | hevent)
    · cases hholds
    · exact hne hevent.1
  · rename_i hdelivering
    refine h.move (Fits.goTo ?_ _ _) (fun t' hne p hfits => hfits.goTo _ _) rfl ⟨rfl, rfl⟩
      fun hasleep => ⟨hasleep, rfl, rfl⟩
    refine ⟨hfit.lock, hfit.evLock, fun hevent => absurd hevent hne, nofun, fun _ => rfl, nofun,
      hfit.stored, ?_⟩
    intro _ _ _ h' ev hloop
    rw [h.delivering, hloop] at hdelivering
    exact absurd rfl hdelivering

theorem Held.evUnlock (h : s.Held) {new : Handler} (hplace : s.place t = .swapEvUnlock new) :
    ({ s with evLock := none }.goTo t (.swapUnlock new)).Held := by
  have hfit := hplace ▸ h.fits t
  have hevLock := hfit.evLock.mpr (.inl rfl)
  refine h.move (Fits.goTo ?_ _ _)
    (fun t' hne p hfits => (hfits.setEvLock hne (.inr hevLock) (.inl rfl)).goTo _ _) rfl ⟨rfl, rfl⟩
    fun hasleep => ⟨hasleep, rfl, rfl⟩
  exact ⟨hfit.lock, iff_of_false nofun (not_holdsEvLock rfl fun hevent => hfit.inside hevent nofun),
    fun hevent _ => hfit.inside hevent nofun, nofun, fun _ => rfl, nofun, hfit.stored, hfit.drained⟩

theorem Held.signal (h : s.Held) : s.signal.Held where
  fits t := (h.fits t).signal
  delivering := h.delivering.trans (signal_loop s).2.1.symm
  idle := fun hasleep => absurd hasleep (signal_loop s).2.2.2.1

theorem Held.signalShutdown (h : s.Held) (hplace : s.place t = .downSignal) :
    ({ s with shutdown := true, evLock := none }.signal.goTo t .downJoin).Held := by
  have hfit := hplace ▸ h.fits t
  have hevLock := hfit.evLock.mpr (.inl rfl)
  obtain ⟨hholds, hdelivering, hcallback, hasleep, hdeliver⟩ :=
    signal_loop ({ s with shutdown := true, evLock := none } : Shared ε)
  refine h.move (Fits.goTo ?_ _ _) (fun t' hne p hfits => Fits.goTo (Fits.signal ?_) _ _) rfl
    ⟨rfl, hdelivering⟩ fun h => absurd h hasleep
  · exact Fits.signal ⟨hfit.lock,
      iff_of_false nofun (not_holdsEvLock rfl fun hevent => hfit.inside hevent nofun),
      fun hevent _ => hfit.inside hevent nofun, nofun, fun _ => rfl, fun _ => rfl, nofun, nofun⟩
  · have hfits' := hfits.setEvLock hne (.inr hevLock) (.inl rfl)
    exact ⟨hfits'.lock, hfits'.evLock, hfits'.inside, hfits'.asleep, hfits'.drain, fun _ => rfl,
      hfits'.stored, hfits'.drained⟩

theorem Held.posted (h : s.Held) {ev : ε} (hplace : s.place t = .postAppend ev) :
    ({ s with evLock := none }.goTo t .outside).Held := by
  have hfit := hplace ▸ h.fits t
  have hevLock := hfit.evLock.mpr (.inl rfl)
  refine h.move (p := .outside)
    (fits_plain hfit.lock (iff_of_false nofun ?_) (fun _ hne => absurd rfl hne) rfl nofun)
    (fun t' hne p hfits => (hfits.setEvLock hne (.inr hevLock) (.inl rfl)).goTo _ _) rfl ⟨rfl, rfl⟩
    fun hasleep => ⟨hasleep, rfl, rfl⟩
  exact not_holdsEvLock rfl fun hevent => hfit.inside hevent nofun

theorem Held.append (h : s.Held) (queue : CountedQueue ε) : ({ s with queue } : Shared ε).signal.Held where
  fits t := by
    have hfit := h.fits t
    exact Fits.signal ⟨hfit.lock, hfit.evLock, hfit.inside, hfit.asleep, hfit.drain, hfit.joining, hfit.stored,
      hfit.drained⟩
  delivering := h.delivering.trans (signal_loop _).2.1.symm
  idle := fun hasleep => absurd hasleep (signal_loop _).2.2.2.1

theorem Held.run (h : s.Held) (hstep : s.run t = some s') : s'.Held := by
  have hfit := h.fits t
  cases hplace : s.place t <;> rw [Shared.run, hplace] at hstep <;> rw [hplace] at hfit
  case outside => cases hstep
  case askLock => exact h.takeLock (p := .askRead) hplace ⟨rfl, nofun⟩ ⟨rfl, rfl, rfl, nofun⟩ hstep
  case askRead =>
      obtain rfl := Option.some.inj hstep
      exact h.unlock hplace ⟨rfl, rfl⟩ s.initialized
  case swapLock new => exact h.takeLock (p := .swapCheck new) hplace ⟨rfl, nofun⟩ ⟨rfl, rfl, rfl, nofun⟩ hstep
  case swapCheck new =>
      obtain rfl := Option.some.inj hstep
      split
      · exact h.goTo hplace ⟨rfl, rfl, rfl, nofun⟩ fun hevent _ => hfit.inside hevent nofun
      · exact h.unlock hplace ⟨rfl, rfl⟩ s.initialized
  case swapEvLock new =>
      exact h.takeEvLockAt (p := .swapStore new) hplace nofun ⟨rfl, rfl, rfl, nofun⟩ hstep
  case swapStore new =>
      obtain rfl := Option.some.inj hstep
      exact h.store hplace
  case swapDrain new =>
      obtain rfl := Option.some.inj hstep
      exact h.drain hplace
  case swapAsleep new => cases hstep
  case swapWoken new =>
      refine h.takeEvLock ?_ hstep
      exact ⟨hfit.lock, iff_of_true rfl (.inl rfl), fun hevent _ => hfit.inside hevent nofun, nofun,
        hfit.drain, nofun, hfit.stored, nofun⟩
  case swapEvUnlock new =>
      obtain rfl := Option.some.inj hstep
      exact h.evUnlock hplace
  case swapUnlock new =>
      obtain rfl := Option.some.inj hstep
      exact h.unlock hplace ⟨rfl, rfl⟩ s.initialized
  case downLock => exact h.takeLock (p := .downCheck) hplace ⟨rfl, nofun⟩ ⟨rfl, rfl, rfl, nofun⟩ hstep
  case downCheck =>
      obtain rfl := Option.some.inj hstep
      split
      · exact h.goTo hplace ⟨rfl, rfl, rfl, nofun⟩ fun hevent _ => hfit.inside hevent nofun
      · exact h.unlock hplace ⟨rfl, rfl⟩ s.initialized
  case downEvLock => exact h.takeEvLockAt (p := .downSignal) hplace nofun ⟨rfl, rfl, rfl, nofun⟩ hstep
  case downSignal =>
      obtain rfl := Option.some.inj hstep
      exact h.signalShutdown hplace
  case downJoin =>
      simp only at hstep
      split at hstep
      · obtain rfl := Option.some.inj hstep
        exact h.goTo hplace ⟨rfl, rfl, rfl, nofun⟩ fun hevent _ => hfit.inside hevent nofun
      · cases hstep
  case downRest =>
      obtain rfl := Option.some.inj hstep
      exact h.unlock hplace ⟨rfl, rfl⟩ false
  case postEvLock ev =>
      exact h.takeEvLockAt (p := .postAppend ev) hplace nofun ⟨rfl, rfl, rfl, nofun⟩ hstep
  case postAppend ev =>
      obtain rfl := Option.some.inj hstep
      split
      · exact h.posted hplace
      · exact (h.posted hplace).append _

theorem isOutside_iff : s.isOutside t = true ↔ s.place t = .outside := by
  unfold isOutside
  cases s.place t <;> simp

theorem Held.enter (h : s.Held) (hplace : s.place t = .outside) (hinside : t = .event → s.inCallback = true)
    (fn : Api ε) : (s.enter t fn).Held := by
  have hgoTo (p : Place ε) (hp : p.holdsLock = false ∧ p.holdsEvLock = false ∧ p.stored = none ∧
      p ≠ .downJoin) : (s.goTo t p).Held :=
    h.goTo hplace hp fun hevent _ => hinside hevent
  cases fn with
  | isInitialized =>
      change (if s.initialized then s.goTo t .askLock else s).Held
      split
      · exact hgoTo .askLock ⟨rfl, rfl, rfl, nofun⟩
      · exact h
  | setEventHandler new =>
      change (if s.initialized then s.goTo t (.swapLock new) else s).Held
      split
      · exact hgoTo (.swapLock new) ⟨rfl, rfl, rfl, nofun⟩
      · exact h
  | shutdown => exact hgoTo .downLock ⟨rfl, rfl, rfl, nofun⟩
  | postQev ev => exact hgoTo (.postEvLock ev) ⟨rfl, rfl, rfl, nofun⟩

theorem Held.loopTakes (h : s.Held) {loop : EvLoop ε} (hfree : s.evLock = none)
    (hcallback : s.inCallback = false)
    (hloop : loop.holdsEvLock = true ∧ loop.isDelivering = s.loop.isDelivering) :
    ({ s with evLock := some .event, loop } : Shared ε).Held where
  fits t := by
    have hfit := h.fits t
    have hfree : ¬(s.place t).holdsEvLock = true := by
      intro hholds
      cases hfree.symm.trans (hfit.evLock.mpr (.inl hholds))
    have hdeliver {h' : Handler} {ev : ε} (heq : loop = .deliver h' ev) : False := by
      rw [heq] at hloop
      cases hloop.1
    refine ⟨hfit.lock, ?_, ?_, hfit.asleep, hfit.drain, hfit.joining, hfit.stored,
      fun _ _ _ _ _ heq => absurd heq hdeliver⟩
    · constructor
      · intro heq
        exact .inr ⟨(Option.some.inj heq).symm, hloop.1⟩
      · rintro (hholds | ⟨rfl, -⟩)
        · exact absurd hholds hfree
        · rfl
    · intro hevent hne
      rw [hfit.inside hevent hne] at hcallback
      cases hcallback
  delivering := h.delivering.trans hloop.2.symm
  idle := by
    rintro rfl
    cases hloop.1

/-- The event thread lets go of `ev_lock` at the queue: to deliver, to sleep, or to end. -/
theorem Held.loopReleases (h : s.Held) (hlook : s.loop = .look) (loop : EvLoop ε) (queue : CountedQueue ε)
    {delivering : Bool} (hdelivering : delivering = loop.isDelivering) (hloop : loop.holdsEvLock = false)
    (hdeliver : ∀ h' ev, loop = .deliver h' ev → h' = s.handler)
    (hidle : loop = .asleep → queue.items = [] ∧ s.shutdown = false) :
    ({ s with queue, delivering, evLock := none, loop } : Shared ε).Held where
  fits t := by
    have hfit := h.fits t
    have hevLock : s.evLock = some .event := by
      refine (h.fits .event).evLock.mpr (.inr ⟨rfl, ?_⟩)
      rw [hlook]
      rfl
    have hnot : s.delivering = false := by
      rw [h.delivering, hlook]
      rfl
    have houtside : t = .event → s.place t = .outside := by
      intro hevent
      by_contra hne
      have hcallback := hfit.inside hevent hne
      simp [inCallback, hlook] at hcallback
    refine ⟨hfit.lock, iff_of_false nofun ?_, fun hevent hne => absurd (houtside hevent) hne, ?_, hfit.drain,
      hfit.joining, hfit.stored, ?_⟩
    · rintro (hholds | ⟨-, hholds⟩)
      · have hevent := Option.some.inj ((hfit.evLock.mpr (.inl hholds)).symm.trans hevLock)
        rw [houtside hevent] at hholds
        cases hholds
      · rw [hloop] at hholds
        cases hholds
    · intro new hasleep
      cases hnot.symm.trans (hfit.asleep new hasleep)
    · intro _ new hdrained h' ev hloop
      refine (hdeliver h' ev hloop).trans (hfit.stored new ?_)
      revert hdrained
      cases s.place t <;> first | exact id | exact nofun
  delivering := hdelivering
  idle := hidle

theorem Held.relock (h : s.Held) {new : Handler} {ev : ε} (hloop : s.loop = .deliver new ev)
    (hout : s.place .event = .outside) : ({ s with loop := .relock } : Shared ε).Held where
  fits t := by
    have hfit := h.fits t
    refine ⟨hfit.lock, ?_, ?_, hfit.asleep, hfit.drain, hfit.joining, hfit.stored, nofun⟩
    · have hevLock := hfit.evLock
      rw [hloop] at hevLock
      exact hevLock
    · rintro rfl hne
      exact absurd hout hne
  delivering := by
    rw [h.delivering, hloop]
    rfl
  idle := nofun

theorem Held.settle (h : s.Held) (hloop : s.loop = .settle) :
    ({ s with delivering := false, loop := .look }.broadcast).Held where
  fits t := by
    have hfit := h.fits t
    have hevLock := hfit.evLock
    have hinside : t = .event → s.place t = .outside := by
      intro hevent
      by_contra hne
      have hcallback := hfit.inside hevent hne
      simp [inCallback, hloop] at hcallback
    rw [hloop] at hevLock
    simp only [broadcast]
    cases hplace : s.place t with
    | swapAsleep new =>
        rw [hplace] at hfit hevLock hinside
        exact ⟨hfit.lock, hevLock, fun hevent _ => absurd (hinside hevent) nofun, nofun, hfit.drain, nofun,
          hfit.stored, nofun⟩
    | _ =>
        rw [hplace] at hfit hevLock hinside
        exact ⟨hfit.lock, hevLock, fun hevent hne => absurd (hinside hevent) hne, nofun, hfit.drain,
          hfit.joining, hfit.stored, nofun⟩
  delivering := rfl
  idle := nofun

theorem Held.loopRun (h : s.Held) (hstep : s.loopRun = some s') : s'.Held := by
  have hcallback (hloop : ∀ h ev, s.loop ≠ .deliver h ev) : s.inCallback = false := by
    unfold inCallback
    split
    · rename_i heq
      exact absurd heq (hloop _ _)
    · rfl
  unfold Shared.loopRun at hstep
  cases hloop : s.loop <;> rw [hloop] at hstep
  case lock =>
      simp only at hstep
      split at hstep
      · rename_i hfree
        obtain rfl := Option.some.inj hstep
        exact h.loopTakes hfree (hcallback (by simp [hloop]))
          (by simp [hloop, EvLoop.holdsEvLock, EvLoop.isDelivering])
      · cases hstep
  case look =>
      simp only at hstep
      split at hstep
      · obtain rfl := Option.some.inj hstep
        refine h.loopReleases hloop (.deliver s.handler _) _ rfl rfl ?_ nofun
        intro h' ev heq
        injection heq with hhandler
        exact hhandler.symm
      · rename_i hpop
        obtain rfl := Option.some.inj hstep
        have hnot : s.delivering = false := by
          rw [h.delivering, hloop]
          rfl
        refine h.loopReleases hloop (if s.shutdown then .exited else .asleep) s.queue ?_ ?_ ?_ ?_
        · rw [hnot]
          split <;> rfl
        · split <;> rfl
        · intro h' ev heq
          split at heq <;> cases heq
        · intro hasleep
          refine ⟨CountedQueue.pop_eq_none.mp hpop, ?_⟩
          cases hshutdown : s.shutdown with
          | false => rfl
          | true => simp [hshutdown] at hasleep
  case asleep => cases hstep
  case deliver new ev =>
      simp only at hstep
      split at hstep
      · rename_i hnone
        obtain rfl := Option.some.inj hstep
        refine h.relock hloop ?_
        by_contra hne
        have := (h.fits .event).inside rfl hne
        simp [inCallback, hloop, hnone] at this
      · cases hstep
  case relock =>
      simp only at hstep
      split at hstep
      · rename_i hfree
        obtain rfl := Option.some.inj hstep
        exact h.loopTakes hfree (hcallback (by simp [hloop]))
          (by simp [hloop, EvLoop.holdsEvLock, EvLoop.isDelivering])
      · cases hstep
  case settle =>
      obtain rfl := Option.some.inj hstep
      exact h.settle hloop
  case exited => cases hstep

/-- A swap that sleeps is woken, though nobody has signalled. -/
theorem Held.wakes (h : s.Held) {new : Handler} (hplace : s.place t = .swapAsleep new) :
    (s.goTo t (.swapWoken new)).Held := by
  have hfit := hplace ▸ h.fits t
  refine h.move (Fits.goTo ?_ _ _) (fun t' hne p hfits => hfits.goTo _ _) rfl ⟨rfl, rfl⟩
    fun hasleep => ⟨hasleep, rfl, rfl⟩
  exact ⟨hfit.lock, hfit.evLock, fun hevent _ => hfit.inside hevent nofun, nofun, hfit.drain, nofun,
    hfit.stored, nofun⟩

theorem Held.loopWakes (h : s.Held) (hloop : s.loop = .asleep) : ({ s with loop := .lock } : Shared ε).Held := by
  have heq : ({ s with loop := .lock } : Shared ε) = s.signal := by
    unfold Shared.signal
    rw [hloop]
  rw [heq]
  exact h.signal

theorem Held.act {a : ThreadAct ε} (h : s.Held) (hstep : s.act a = some s') : s'.Held := by
  cases a with
  | enter t fn =>
      simp only [Shared.act] at hstep
      split at hstep
      · rename_i hen
        obtain rfl := Option.some.inj hstep
        simp only [Bool.and_eq_true, Bool.or_eq_true, decide_eq_true_eq] at hen
        exact h.enter (isOutside_iff.mp hen.1) (fun hevent => hen.2.resolve_left (not_not.mpr hevent)) fn
      · cases hstep
  | run t => exact h.run hstep
  | loop => exact h.loopRun hstep
  | callbackReturns =>
      simp only [Shared.act] at hstep
      split at hstep
      · rename_i hen
        obtain rfl := Option.some.inj hstep
        simp only [Bool.and_eq_true] at hen
        obtain ⟨hcallback, hout⟩ := hen
        unfold inCallback at hcallback
        split at hcallback
        · rename_i hloop
          exact h.relock hloop (isOutside_iff.mp hout)
        · cases hcallback
      · cases hstep
  | wakes t =>
      simp only [Shared.act] at hstep
      split at hstep
      · rename_i hplace
        obtain rfl := Option.some.inj hstep
        exact h.wakes hplace
      · cases hstep
  | loopWakes =>
      simp only [Shared.act] at hstep
      split at hstep
      · rename_i hloop
        obtain rfl := Option.some.inj hstep
        exact h.loopWakes hloop
      · cases hstep

end Shared

open Shared

variable {max : Nat} {new : Handler} {s s' : Shared ε} {a : ThreadAct ε}
  {t : Trace (ThreadAct ε) Empty}

theorem threads_step {os : List Empty} (hstep : (threads ε max new).step s a = some (s', os)) :
    s.act a = some s' := by
  simp only [threads, Option.map_eq_some_iff, Prod.mk.injEq] at hstep
  obtain ⟨r, hact, rfl, -⟩ := hstep
  exact hact

theorem held_run {C : Shared ε → ThreadAct ε → Prop} (hrun : (threads ε max new).Run C s t) : s.Held := by
  refine hrun.stateInvariant ?_ fun s a s' os h _ hstep => h.act (threads_step hstep)
  rintro s rfl
  refine ⟨fun t => ?_, rfl, nofun⟩
  exact fits_plain (iff_of_false nofun nofun)
    (iff_of_false nofun (by rintro (hholds | ⟨-, hholds⟩) <;> cases hholds))
    (fun _ hne => absurd rfl hne) rfl nofun

/-! ### The old handler -/

/-- A delivery is under way that uses this handler. -/
def Shared.Runs (s : Shared ε) (h : Handler) : Prop := ∃ ev, s.loop = .deliver h ev

/-- The step stores this handler. -/
def Shared.stores (s : Shared ε) (h : Handler) : ThreadAct ε → Bool
  | .run t => match s.place t with | .swapStore h' => decide (h' = h) | _ => false
  | _ => false

/-- When a swap returns to a thread other than the event thread, no delivery uses another handler than the
one it has stored, and from then on none will until that handler is stored again. -/
def RetiresOld (max : Nat) (start : Handler) (s : Shared ε) : Prop :=
  ∀ n h s' os, s.place (.app n) = .swapUnlock h →
    (threads ε max start).step s (.run (.app n)) = some (s', os) → ∀ old, old ≠ h →
      ∀ u s'', (threads ε max start).Steps (fun s a => s.stores old a = false) s' u s'' → ¬s''.Runs old

/-- The handler changes only where it is stored, and no step inside a function begins a delivery. -/
theorem handler_run {t : Tid} {old : Handler} (hstep : s.run t = some s')
    (hstores : s.stores old (.run t) = false) (hhandler : s.handler ≠ old) :
    s'.handler ≠ old ∧ (s'.Runs old → s.Runs old) := by
  unfold Shared.run at hstep
  cases hplace : s.place t <;> simp only [hplace, Shared.takeLock, Shared.takeEvLock] at hstep
  all_goals grind [Shared.goTo, Shared.unlock, Shared.signal, Shared.Runs, Shared.stores]

/-- A delivery begins with the handler that is installed. -/
theorem handler_loop {old : Handler} (hstep : s.loopRun = some s') :
    s'.handler = s.handler ∧ (s'.Runs old → s.Runs old ∨ s.handler = old) := by
  unfold Shared.loopRun at hstep
  cases hloop : s.loop <;> simp only [hloop] at hstep
  all_goals grind [Shared.broadcast, Shared.Runs]

/-- A retired handler stays retired as long as nobody stores it. -/
theorem handler_act {old : Handler} (hstep : s.act a = some s') (hstores : s.stores old a = false)
    (hhandler : s.handler ≠ old) (hruns : ¬s.Runs old) : s'.handler ≠ old ∧ ¬s'.Runs old := by
  cases a with
  | enter t fn =>
      simp only [Shared.act] at hstep
      split at hstep
      · obtain rfl := Option.some.inj hstep
        cases fn <;> simp only [Shared.enter] <;> try split
        all_goals exact ⟨hhandler, hruns⟩
      · cases hstep
  | run t =>
      obtain ⟨hkept, hbegun⟩ := handler_run hstep hstores hhandler
      exact ⟨hkept, fun h => hruns (hbegun h)⟩
  | loop =>
      obtain ⟨hsame, hbegun⟩ := handler_loop hstep
      exact ⟨hsame ▸ hhandler, fun h => (hbegun h).elim hruns hhandler⟩
  | callbackReturns =>
      simp only [Shared.act] at hstep
      split at hstep
      · obtain rfl := Option.some.inj hstep
        exact ⟨hhandler, nofun⟩
      · cases hstep
  | wakes t =>
      simp only [Shared.act] at hstep
      split at hstep
      · obtain rfl := Option.some.inj hstep
        exact ⟨hhandler, hruns⟩
      · cases hstep
  | loopWakes =>
      simp only [Shared.act] at hstep
      split at hstep
      · obtain rfl := Option.some.inj hstep
        exact ⟨hhandler, nofun⟩
      · cases hstep

theorem retiresOld_of_held (h : s.Held) : RetiresOld max new s := by
  intro n own s' os hplace hstep old hne u s'' hsteps
  have hfit := hplace ▸ h.fits (.app n)
  have hown : s.handler = own := hfit.stored own rfl
  have hstart : s'.handler ≠ old ∧ ¬s'.Runs old := by
    refine handler_act (threads_step hstep) ?_ ?_ ?_
    · simp [Shared.stores, hplace]
    · exact fun heq => hne (heq.symm.trans hown)
    · rintro ⟨ev, hloop⟩
      exact hne (hfit.drained nofun own rfl old ev hloop)
  have hkept : s''.handler ≠ old ∧ ¬s''.Runs old := by
    clear hstep hplace
    induction hsteps with
    | refl => exact hstart
    | step _ hstores hstep ih => exact handler_act (threads_step hstep) hstores (ih).1 (ih).2
  exact hkept.2

/-! ### Who waits for whom -/

/-- A thread that waits for the end of a delivery, with its callback running. -/
def Shared.waitsFor (s : Shared ε) (t : Tid) : Bool :=
  s.inCallback && match s.place t with
    | .swapDrain _ | .swapAsleep _ | .swapWoken _ | .downJoin => true
    | _ => false

/-- Nobody waits for the end of the callback he is running himself, or for one that asks for the lock he
holds. -/
def Shared.DeadlockFree (s : Shared ε) : Prop :=
  ∀ t, s.waitsFor t = true → t ≠ .event ∧ (s.lock = some t → (s.place .event).wantsLock = false)

/-- Steps that threads inside the SDK take by themselves: no new calls, and no waking up for no reason. -/
def ThreadAct.isProgress : ThreadAct ε → Bool
  | .run _ | .loop | .callbackReturns => true
  | _ => false

/-- Unless every thread is outside and the event thread sleeps or has ended, one of them can go on. -/
def Shared.CanStep (s : Shared ε) : Prop :=
  (∃ t, s.place t ≠ .outside) ∨ (s.loop ≠ .asleep ∧ s.loop ≠ .exited) →
    ∃ a : ThreadAct ε, a.isProgress = true ∧ (s.act a).isSome = true

/-- The steps that keep swaps and callbacks apart: a callback does not shut the SDK down, it does not ask
for `g_vox.lock` while another thread holds it and has a delivery to wait for, and no other thread takes it
for a swap or a shutdown while the callback asks for it. -/
def Shared.keepsApart (s : Shared ε) : ThreadAct ε → Bool
  | .enter .event .shutdown => false
  | .enter .event .isInitialized | .enter .event (.setEventHandler _) =>
      match s.lock with
      | some t => !(s.place t).waitsOut
      | none => true
  | .run (.app n) =>
      match s.place (.app n) with
      | .swapLock _ | .downLock => !(s.place .event).wantsLock
      | _ => true
  | _ => true

/-- The callback does not shut the SDK down, and does not ask for `g_vox.lock` while another thread holds
it that has a delivery to wait for. -/
structure Shared.Apart (s : Shared ε) : Prop where
  notDown : (s.place .event).inShutdown = false
  free : (s.place .event).wantsLock = true → ∀ n, (s.place (.app n)).waitsOut = false

/-- Where a step inside a function leads: not to asking for the lock, into a shutdown only from within it,
and to waiting a delivery out only from there or by taking the lock. -/
theorem run_place {t : Tid} (hstep : s.run t = some s') :
    (∀ t', t' ≠ t → s'.place t' = s.place t') ∧ (s'.place t).wantsLock = false ∧
      ((s'.place t).inShutdown = true → (s.place t).inShutdown = true) ∧
      ((s'.place t).waitsOut = true → (s.place t).waitsOut = true ∨
        (∃ h, s.place t = .swapLock h) ∨ s.place t = .downLock) := by
  unfold Shared.run at hstep
  cases hplace : s.place t <;> simp only [hplace, Shared.takeLock, Shared.takeEvLock] at hstep
  all_goals grind [Shared.unlock, Place.wantsLock, Place.inShutdown, Place.waitsOut]

/-- Of the places only sleeping in a swap changes when a delivery ends. -/
theorem loopRun_place {t : Tid} (hstep : s.loopRun = some s') :
    s'.place t = s.place t ∨ ∃ h, s.place t = .swapAsleep h ∧ s'.place t = .swapWoken h := by
  unfold Shared.loopRun at hstep
  cases hloop : s.loop <;> simp only [hloop] at hstep
  all_goals grind [Shared.broadcast]

/-- Steps that keep swaps and callbacks apart leave them apart. -/
theorem Shared.Apart.act (h : s.Apart) (hheld : s.Held) (hkeeps : s.keepsApart a = true)
    (hstep : s.act a = some s') : s'.Apart := by
  cases a with
  | enter t fn =>
      simp only [Shared.act] at hstep
      split at hstep
      · rename_i hen
        obtain rfl := Option.some.inj hstep
        have hfree (hlock : (match s.lock with | some t => !(s.place t).waitsOut | none => true) = true)
            (n : Nat) : (s.place (.app n)).waitsOut = false := by
          by_contra hwaits
          rw [Bool.not_eq_false] at hwaits
          have hholds := Place.holdsLock_of_waitsOut hwaits
          rw [(hheld.fits (.app n)).lock.mpr hholds] at hlock
          simp [hwaits] at hlock
        cases t with
        | app n =>
            have hmoved (p : Place ε) (hp : p.waitsOut = false) : (s.goTo (.app n) p).Apart := by
              refine ⟨h.notDown, fun hwants m => ?_⟩
              simp only [Shared.goTo, Function.update_apply]
              split
              · exact hp
              · exact h.free hwants m
            cases fn <;> simp only [Shared.enter] <;> try split
            all_goals first | exact hmoved _ rfl | exact h
        | event =>
            have hmoved (p : Place ε) (hp : p.inShutdown = false)
                (hfree : p.wantsLock = true → ∀ n, (s.place (.app n)).waitsOut = false) :
                (s.goTo .event p).Apart := by
              refine ⟨?_, fun hwants n => ?_⟩
              · simpa [Shared.goTo] using hp
              · simp only [Shared.goTo, Function.update_self] at hwants
                simpa [Shared.goTo] using hfree hwants n
            cases fn with
            | isInitialized =>
                change (if s.initialized then s.goTo .event .askLock else s).Apart
                split
                · exact hmoved _ rfl fun _ => hfree hkeeps
                · exact h
            | setEventHandler new =>
                change (if s.initialized then s.goTo .event (.swapLock new) else s).Apart
                split
                · exact hmoved _ rfl fun _ => hfree hkeeps
                · exact h
            | shutdown => cases hkeeps
            | postQev ev => exact hmoved _ rfl nofun
      · cases hstep
  | run t =>
      obtain ⟨hothers, hwants, hdown, hwaits⟩ := run_place hstep
      cases t with
      | event =>
          refine ⟨?_, fun h => absurd h (by simp [hwants])⟩
          by_contra hin
          rw [Bool.not_eq_false] at hin
          cases h.notDown.symm.trans (hdown hin)
      | app n =>
          have hevent := hothers .event nofun
          refine ⟨hevent ▸ h.notDown, fun hwants' m => ?_⟩
          rw [hevent] at hwants'
          by_cases hm : m = n
          · subst hm
            by_contra hout
            rw [Bool.not_eq_false] at hout
            rcases hwaits hout with hout | ⟨new, hplace⟩ | hplace
            · cases (h.free hwants' m).symm.trans hout
            · simp [Shared.keepsApart, hplace, hwants'] at hkeeps
            · simp [Shared.keepsApart, hplace, hwants'] at hkeeps
          · rw [hothers (.app m) fun heq => hm (Tid.app.inj heq)]
            exact h.free hwants' m
  | loop =>
      have hsame (t : Tid) : (s'.place t).wantsLock = (s.place t).wantsLock ∧
          (s'.place t).inShutdown = (s.place t).inShutdown ∧
          (s'.place t).waitsOut = (s.place t).waitsOut := by
        rcases loopRun_place (t := t) hstep with heq | ⟨new, hbefore, hafter⟩
        · rw [heq]
          exact ⟨rfl, rfl, rfl⟩
        · rw [hbefore, hafter]
          exact ⟨rfl, rfl, rfl⟩
      refine ⟨(hsame .event).2.1.trans h.notDown, fun hwants n => ?_⟩
      rw [(hsame .event).1] at hwants
      rw [(hsame (.app n)).2.2]
      exact h.free hwants n
  | callbackReturns =>
      simp only [Shared.act] at hstep
      split at hstep
      · obtain rfl := Option.some.inj hstep
        exact ⟨h.notDown, h.free⟩
      · cases hstep
  | wakes t =>
      simp only [Shared.act] at hstep
      split at hstep
      · rename_i new hplace
        obtain rfl := Option.some.inj hstep
        have hsame (t' : Tid) : ((s.goTo t (.swapWoken new)).place t').wantsLock = (s.place t').wantsLock ∧
            ((s.goTo t (.swapWoken new)).place t').inShutdown = (s.place t').inShutdown ∧
            ((s.goTo t (.swapWoken new)).place t').waitsOut = (s.place t').waitsOut := by
          simp only [Shared.goTo, Function.update_apply]
          split
          · rename_i heq
            rw [heq, hplace]
            exact ⟨rfl, rfl, rfl⟩
          · exact ⟨rfl, rfl, rfl⟩
        refine ⟨(hsame .event).2.1.trans h.notDown, fun hwants n => ?_⟩
        rw [(hsame .event).1] at hwants
        rw [(hsame (.app n)).2.2]
        exact h.free hwants n
      · cases hstep
  | loopWakes =>
      simp only [Shared.act] at hstep
      split at hstep
      · obtain rfl := Option.some.inj hstep
        exact ⟨h.notDown, h.free⟩
      · cases hstep

theorem deadlockFree_of_apart (h : s.Held) (hapart : s.Apart) : s.DeadlockFree := by
  intro t hwaits
  simp only [Shared.waitsFor, Bool.and_eq_true] at hwaits
  have hout : (s.place t).waitsOut = true ∧ ((s.place t).inDrain = true ∨ (s.place t).inShutdown = true) := by
    have hplace := hwaits.2
    split at hplace
    all_goals first | exact absurd hplace Bool.false_ne_true | simp [*, Place.waitsOut, Place.inDrain,
      Place.inShutdown]
  have hne : t ≠ .event := by
    rintro rfl
    rcases hout.2 with hdrain | hdown
    · cases ((h.fits .event).drain rfl).symm.trans hdrain
    · cases hapart.notDown.symm.trans hdown
  refine ⟨hne, fun _ => ?_⟩
  by_contra hwants
  cases t with
  | event => exact hne rfl
  | app n => cases (hapart.free (by simpa using hwants) n).symm.trans hout.1

/-- Where a thread is that has no step, when nobody holds `ev_lock`: outside, at the lock, or waiting for
something that only the event thread can bring about. -/
theorem stuck_place {t : Tid} (hfree : s.evLock = none) (hstuck : s.run t = none) :
    s.place t = .outside ∨ (s.place t).wantsLock = true ∧ s.lock ≠ none ∨
      (∃ h, s.place t = .swapAsleep h) ∨ s.place t = .downJoin ∧ s.loop ≠ .exited := by
  unfold Shared.run at hstuck
  cases hplace : s.place t <;> simp only [hplace, Shared.takeLock, Shared.takeEvLock] at hstuck
  all_goals grind [Place.wantsLock]

theorem evLock_free (h : s.Held) (hrun : ∀ t, s.run t = none) (hloop : s.loopRun = none) :
    s.evLock = none := by
  cases hevLock : s.evLock with
  | none => rfl
  | some t =>
      have hstuck := hrun t
      rcases (h.fits t).evLock.mp hevLock with hholds | ⟨-, hholds⟩
      · unfold Shared.run at hstuck
        cases hplace : s.place t <;> simp only [hplace] at hholds hstuck
        all_goals grind [Place.holdsEvLock]
      · unfold Shared.loopRun at hloop
        cases hplace : s.loop <;> rw [hplace] at hholds hloop
        case look =>
            simp only at hloop
            split at hloop <;> cases hloop
        case settle => cases hloop
        all_goals cases hholds

/-- Where the event thread's loop has no step, when nobody holds `ev_lock`: asleep, at its end, or in a
callback. -/
theorem stuck_loop (hfree : s.evLock = none) (hloop : s.loopRun = none) :
    s.loop = .asleep ∨ s.loop = .exited ∨ (∃ h ev, s.loop = .deliver h ev ∧ h.cb ≠ none) := by
  cases hat : s.loop with
  | asleep => exact .inl rfl
  | exited => exact .inr (.inl rfl)
  | deliver new ev =>
      refine .inr (.inr ⟨new, ev, rfl, fun hcb => ?_⟩)
      simp [Shared.loopRun, hat, hcb] at hloop
  | lock => simp [Shared.loopRun, hat, hfree] at hloop
  | relock => simp [Shared.loopRun, hat, hfree] at hloop
  | settle => simp [Shared.loopRun, hat] at hloop
  | look =>
      simp only [Shared.loopRun, hat] at hloop
      split at hloop <;> cases hloop

/-- Threads that keep apart do not get stuck. -/
theorem canStep_of_apart (h : s.Held) (hapart : s.Apart) : s.CanStep := by
  intro hbusy
  by_contra hnone
  have hstuck (a : ThreadAct ε) (ha : a.isProgress = true) : s.act a = none := by
    by_contra hsome
    exact hnone ⟨a, ha, Option.isSome_iff_ne_none.mpr hsome⟩
  have hrun (t : Tid) : s.run t = none := hstuck (.run t) rfl
  have hloop : s.loopRun = none := hstuck .loop rfl
  have hfree := evLock_free h hrun hloop
  have hplace (t : Tid) := stuck_place hfree (hrun t)
  have hidle := stuck_loop hfree hloop
  -- a delivery that has begun is one whose callback is inside the SDK, at the lock
  have hcallback (hdeliver : s.delivering = true) : (s.place .event).wantsLock = true := by
    rw [h.delivering] at hdeliver
    rcases hidle with hat | hat | ⟨new, ev, hat, hcb⟩
    · rw [hat] at hdeliver
      cases hdeliver
    · rw [hat] at hdeliver
      cases hdeliver
    · have hinside : s.inCallback = true := by
        simpa [Shared.inCallback, hat] using Option.isSome_iff_ne_none.mpr hcb
      rcases hplace .event with hout | ⟨hwants, -⟩ | ⟨new', hasleep⟩ | ⟨hjoin, -⟩
      · have hreturns := hstuck .callbackReturns rfl
        simp [Shared.act, hinside, isOutside_iff.mpr hout] at hreturns
      · exact hwants
      · have hdrain := (h.fits .event).drain rfl
        rw [hasleep] at hdrain
        cases hdrain
      · have hdown := hapart.notDown
        rw [hjoin] at hdown
        cases hdown
  -- so nobody waits for one to end
  have hnobody (t : Tid) : (s.place t).waitsOut = true → s.delivering = false := by
    intro hwaits
    by_contra hdeliver
    have hwants := hcallback (by simpa using hdeliver)
    cases t with
    | event =>
        revert hwants hwaits
        cases s.place .event <;> exact nofun
    | app n => cases (hapart.free hwants n).symm.trans hwaits
  have hout (t : Tid) : s.place t = .outside ∨ (s.place t).wantsLock = true ∧ s.lock ≠ none := by
    rcases hplace t with hout | hwants | ⟨new, hasleep⟩ | ⟨hjoin, hrunning⟩
    · exact .inl hout
    · exact .inr hwants
    · have hnot := hnobody t (by rw [hasleep]; rfl)
      cases hnot.symm.trans ((h.fits t).asleep new hasleep)
    · have hnot := hnobody t (by rw [hjoin]; rfl)
      rw [h.delivering] at hnot
      exfalso
      rcases hidle with hat | hat | ⟨new, ev, hat, -⟩
      · cases (h.idle hat).2.symm.trans ((h.fits t).joining hjoin)
      · exact hrunning hat
      · rw [hat] at hnot
        cases hnot
  -- the lock is free, because its holder would be elsewhere
  have hlock : s.lock = none := by
    cases hlock : s.lock with
    | none => rfl
    | some t =>
        have hholds := (h.fits t).lock.mp hlock
        rcases hout t with hplace | ⟨hwants, -⟩
        · rw [hplace] at hholds
          cases hholds
        · revert hwants hholds
          cases s.place t <;> exact nofun
  have houtside (t : Tid) : s.place t = .outside := (hout t).resolve_right fun h => h.2 hlock
  rcases hbusy with ⟨t, hne⟩ | ⟨hawake, hrunning⟩
  · exact hne (houtside t)
  · rcases hidle with hat | hat | ⟨new, ev, hat, -⟩
    · exact hawake hat
    · exact hrunning hat
    · have hwants := hcallback (by rw [h.delivering, hat]; rfl)
      rw [houtside .event] at hwants
      cases hwants

/-- **Swapping the event handler.** In every run a swap that returns to a thread other than the event
thread has retired the old handler. In a run whose steps keep swaps and callbacks apart, nobody waits for a
callback that needs a lock he holds, and whenever a thread is inside the SDK some thread can go on. -/
theorem handler_swap (hrun : (threads ε max new).Run Machine.Always s t) :
    RetiresOld max new s ∧ ((threads ε max new).Run (fun s a => s.keepsApart a) s t →
      s.DeadlockFree ∧ s.CanStep) := by
  refine ⟨retiresOld_of_held (held_run hrun), fun happart => ?_⟩
  have hkept : s.Apart := by
    clear hrun
    induction happart with
    | start hinit =>
        obtain rfl := hinit
        exact ⟨rfl, nofun⟩
    | step hprev hkeeps hstep ih => exact ih.act (held_run hprev) hkeeps (threads_step hstep)
  exact ⟨deadlockFree_of_apart (held_run hrun) hkept, canStep_of_apart (held_run hrun) hkept⟩

/-- A handler with a callback. -/
def Handler.calling (cb : Nat) : Handler := { cb := some cb, userdata := 0, owned := false }

/-- An event is posted and the event thread delivers it. -/
def deliverOne : List (ThreadAct Unit) :=
  [.enter (.app 1) (.postQev ()), .run (.app 1), .run (.app 1), .loop, .loop]

/-- Thread 1 swaps handlers while the old one is running, and sleeps. -/
def swapWhileDelivering : List (ThreadAct Unit) :=
  .enter (.app 1) (.setEventHandler (.calling 2)) :: List.replicate 5 (.run (.app 1))

/-- The callback returns while a swap waits for it, and the swap comes to its end. -/
theorem handler_swap_waits :
    ∃ s : Shared Unit, (RetiresOld 4096 (.calling 1) s ∧ s.DeadlockFree ∧ s.CanStep) ∧
      s.place (.app 1) = .swapUnlock (.calling 2) := by
  obtain ⟨s, t, hrun, hend⟩ := Machine.exists_run_of_exec
    (M := threads Unit 4096 (.calling 1)) (fun s a => s.keepsApart a) rfl
    (deliverOne ++ swapWhileDelivering ++ [.callbackReturns, .loop, .loop, .loop] ++
      List.replicate 3 (.run (.app 1)))
    (fun s _ => decide (s.place (.app 1) = .swapUnlock (.calling 2))) (by decide +kernel)
  obtain ⟨hretires, hfree⟩ := handler_swap hrun.always
  exact ⟨s, ⟨hretires, hfree hrun⟩, of_decide_eq_true hend⟩

/-- A callback that asks whether the SDK is up, while another thread swaps handlers and waits for it. -/
theorem handler_swap_deadlock :
    ¬ ∀ (max : Nat) (h : Handler) (s : Shared Unit) (t : Trace (ThreadAct Unit) Empty),
      (threads Unit max h).Run Machine.Always s t → s.DeadlockFree ∧ s.CanStep := by
  intro h
  obtain ⟨s, t, hrun, hend⟩ := Machine.exists_run_of_exec
    (M := threads Unit 4096 (.calling 1)) (fun _ _ => true) rfl
    (deliverOne ++ swapWhileDelivering ++ [.enter .event .isInitialized])
    (fun s _ => s.waitsFor (.app 1) && decide (s.lock = some (.app 1)) && (s.place .event).wantsLock)
    (by decide +kernel)
  simp only [Bool.and_eq_true, decide_eq_true_eq] at hend
  obtain ⟨⟨hwaits, hlock⟩, hwants⟩ := hend
  cases hwants.symm.trans (((h 4096 (.calling 1) s t hrun.always).1 (.app 1) hwaits).2 hlock)

end VoxSdk
