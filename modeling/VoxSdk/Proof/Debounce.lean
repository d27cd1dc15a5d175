import VoxSdk.Proof.Rounds

/-!
# When a pending handover is attempted

A real address change, a forced request or a backoff sets the deadline of `tmr_settle`. A poll that
finds nothing new sets it too, whenever a handover is owed: `netmon_trigger` does not ask who called.
-/

namespace VoxSdk

open Reactive

namespace Sys

variable {g : Cfg} {env : NetEnv} {s : Sys}

/-- An uneventful poll sets the deadline exactly if a handover is owed. -/
theorem pollHandler_tmrSettle (hstarted : s.nm.started = true) (hscan : env.scanned = 0) :
    (s.pollHandler env).nm.tmrSettle =
      if s.isOwed then Timer.start s.now s.nm.settleMs else s.nm.tmrSettle := by
  have hpart : (s.pollHandler env).nm.roundPart = (s.nm.roundPart.trigger s.now env false).1 :=
    congrArg Prod.fst ((pollHandler_view hstarted).trans (netmonTrigger_view false hstarted))
  have hnote : s.nm.roundPart.note env false = s.nm.roundPart := by simp [RoundPart.note, hscan]
  refine (congrArg RoundPart.tmrSettle hpart).trans ?_
  simp only [RoundPart.trigger, hnote, show s.nm.roundPart.owed = s.isOwed from rfl]
  cases s.isOwed <;> rfl

/-- An uneventful poll leaves the deadline exactly if it is what the poll sets it to. -/
theorem pollHandler_keeps_iff (hstarted : s.nm.started = true) (howed : s.isOwed = true)
    (hscan : env.scanned = 0) :
    (s.pollHandler env).nm.tmrSettle = s.nm.tmrSettle ↔
      s.nm.tmrSettle = some (s.now + s.nm.settleMs) := by
  rw [pollHandler_tmrSettle hstarted hscan, if_pos howed]
  exact eq_comm

/-- The events that are no reason to move the deadline; a poll that finds nothing new is one of them,
but only without a handover owed, or with the deadline where the poll puts it. -/
def keepsDeadline (s : Sys) : SysAct → Bool
  | .networkChanged _ | .settleFires _ => false
  | .pollFires env =>
      decide (env.scanned = 0) &&
        (!s.isOwed || decide (s.nm.tmrSettle = some (s.now + s.nm.settleMs)))
  | _ => true

theorem handle_keepsDeadline {act : SysAct} (hkeeps : s.keepsDeadline act = true) :
    (s.handle g act).nm.tmrSettle = s.nm.tmrSettle := by
  by_cases hdisturbs : disturbs act = false
  · exact congrArg RoundPart.tmrSettle (handle_roundPart (g := g) (s := s) hdisturbs)
  · cases act with
    | networkChanged env | settleFires env => cases hkeeps
    | pollFires env =>
        simp only [keepsDeadline, Bool.and_eq_true, decide_eq_true_eq, Bool.or_eq_true,
          Bool.not_eq_true'] at hkeeps
        obtain ⟨hscan, hwhen⟩ := hkeeps
        by_cases hstarted : s.nm.started = true
        · refine (pollHandler_tmrSettle (s := { s with nm.tmrPoll := none }) hstarted hscan).trans ?_
          split
          · rename_i howed
            replace howed : s.isOwed = true := howed
            exact (hwhen.resolve_left (by simp [howed])).symm
          · rfl
        · simp [handle, pollHandler, hstarted]
    | _ => exact absurd rfl hdisturbs

end Sys

/-- **Uneventful polls and the deadline.** Whatever the state, a poll that finds no change while a
handover is owed leaves the deadline exactly if it already is the settle delay from now. Over a stretch
of a run whose polls do, and with no change, request or attempt in it, the deadline stands. -/
theorem settle_deadline_kept (g : Cfg) :
    (∀ (s : Sys) (env : NetEnv), s.nm.started = true → s.isOwed = true → env.scanned = 0 →
      ((s.pollHandler env).nm.tmrSettle = s.nm.tmrSettle ↔
        s.nm.tmrSettle = some (s.now + s.nm.settleMs))) ∧
    ∀ (s s' : Sys) (u : Trace SysAct SysOut),
      (system g).Steps (fun s act => s.keepsDeadline act) s u s' →
        s'.nm.tmrSettle = s.nm.tmrSettle := by
  refine ⟨fun s env => Sys.pollHandler_keeps_iff, fun s s' u hsteps => ?_⟩
  refine hsteps.keeps (f := fun s => s.nm.tmrSettle) fun s act s' os hkeeps hstep => ?_
  obtain ⟨-, rfl, -⟩ := system_step hstep
  exact Sys.handle_keepsDeadline (s := s.idle) hkeeps

/-- A poll in the very millisecond of the request it finds owed leaves the deadline, and so does the
second after it. -/
theorem settle_deadline_kept_on_time :
    ∃ s s' : Sys, s.isOwed = true ∧ (s.pollHandler .calm).nm.tmrSettle = s.nm.tmrSettle ∧
      s.nm.tmrSettle = some 1500 ∧ s'.nm.tmrSettle = s.nm.tmrSettle ∧ s'.now = 1000 := by
  let s := (Sys.justStarted configInit).netmonTrigger .calm true
  let s' := s.idle.handle configInit (.elapse 1000)
  have hstep : (system configInit).step s (.elapse 1000) = some (s', []) := rfl
  obtain ⟨hpoll, hstretch⟩ := settle_deadline_kept configInit
  exact ⟨s, s', by decide, (hpoll s .calm (by decide) (by decide) rfl).mpr (by decide), by decide,
    hstretch s s' _ (.step .refl rfl hstep), by decide⟩

/-- Polled every second, a request is not attempted 1.5 s after it was made. -/
theorem uneventful_poll_postpones :
    ¬ ∀ (g : Cfg) (s s' : Sys) (t : Trace SysAct SysOut) (os : List SysOut) (env : NetEnv),
      (system g).Run Machine.Always s t → s.isOwed = true → env.scanned = 0 →
        (system g).step s (.pollFires env) = some (s', os) → s'.nm.tmrSettle = s.nm.tmrSettle := by
  intro h
  let g := { configInit with netMonitorIntervalS := 1 }
  obtain ⟨s, t, hrun, hafter⟩ := Machine.exists_run_of_exec (fun _ _ => true) (justStarted_init g)
    [.networkChanged .calm, .elapse 1000]
    (fun s _ => s.isOwed && s.enabled (.pollFires .calm) &&
      decide ((s.idle.handle g (.pollFires .calm)).nm.tmrSettle ≠ s.nm.tmrSettle)) (by decide +kernel)
  simp only [Bool.and_eq_true, decide_eq_true_eq] at hafter
  obtain ⟨⟨howed, hen⟩, hmoved⟩ := hafter
  exact hmoved (h g s _ t _ .calm hrun.always howed rfl (by simp only [system, hen, if_true]; rfl))

end VoxSdk
