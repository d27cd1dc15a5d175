import VoxSdk.EventStrings
import VoxSdk.Proof.AccountLemmas

/-!
# What the consumer reads

An event that points to `reg_error_str` reads as it was posted for as long as nothing else is written there
and the account is not freed. Both are decided by the handler and the state it runs in: `AcctAct.writes` says
what a handler of the account leaves in the buffer, and a step `spares` the events the consumer has not
finished with when that is what is there already, or when none of them points to it.
-/

namespace VoxSdk

open Reactive

namespace Account

variable (g : Cfg) (now : Nat) (a : Account)

/-! ### Who writes `reg_error_str` -/

@[simp]
theorem scheduleRetry_regErrorStr (rand : Nat) :
    (a.scheduleRetry g now rand).regErrorStr = a.regErrorStr := by
  unfold scheduleRetry
  split
  · rfl
  · split
    · dsimp only
      split <;> simp
    · simp

@[simp]
theorem uaRegister_regErrorStr (reporting : Bool) : (a.uaRegister reporting).regErrorStr = a.regErrorStr := by
  simp only [uaRegister, beventRegistering]
  split
  · split <;> simp
  · simp

@[simp]
theorem uaUnregister_regErrorStr (reporting : Bool) :
    (a.uaUnregister reporting).regErrorStr = a.regErrorStr := by
  unfold uaUnregister beventUnregistering
  split <;> simp

@[simp]
theorem watchRegistration_regErrorStr : (a.watchRegistration now).regErrorStr = a.regErrorStr := by
  unfold watchRegistration
  split <;> rfl

@[simp]
theorem srvResolve_regErrorStr (dnsErr : Bool) : (a.srvResolve g dnsErr).regErrorStr = a.regErrorStr := by
  unfold srvResolve
  split
  · rfl
  · split
    · rfl
    · dsimp only
      split <;> rfl

@[simp]
theorem srvAdvance_regErrorStr : a.srvAdvance.regErrorStr = a.regErrorStr := by
  unfold srvAdvance
  split <;> rfl

@[simp]
theorem keepaliveHandler_regErrorStr (inCall sendErr : Bool) :
    (a.keepaliveHandler g now inCall sendErr).regErrorStr = a.regErrorStr := by
  unfold keepaliveHandler
  repeat' split
  all_goals simp

/-- `reg_watch_handler` gives up on the REGISTER it was watching. -/
def watchTimesOut (registered : Bool) : Bool :=
  !(a.destroyed || !a.ua || !a.regWanted) && !decide (a.regState = .registered ∨ a.regState = .failed) &&
    !a.retryTmr.isRunning && !registered &&
    decide (g.sipTimerFMs ≠ 0 ∧ g.sipTimerFMs ≤ u32 (a.regWatchElapsedMs + regWatchIntervalMs))

/-- An answer that ends a failed probe's reconnect. -/
def probeRecovers (registered : Bool) : Bool :=
  a.kaFailed && decide (a.regState = .reconnecting) && registered

end Account

/-- What the handler of an event leaves in `reg_error_str`, if it writes there. -/
def AcctAct.writes (g : Cfg) (a : Account) : AcctAct → Option CStr
  | .registerOk => some []
  | .registerFail reason _ => reason.map (strNcpy 256)
  | .watchFires registered _ =>
      if a.watchTimesOut g registered then some (strNcpy 256 "registration timed out".toList) else none
  | .optionsAnswered answered registered _ =>
      if a.destroyed then none
      else if !answered then some (strNcpy 256 "keepalive probe timed out".toList)
      else if a.probeRecovers registered then some []
      else none
  | _ => none

namespace Account

variable (g : Cfg) (now : Nat) (a : Account)

theorem regWatchHandler_regErrorStr (registered : Bool) (rand : Nat) :
    (a.regWatchHandler g now registered rand).regErrorStr =
      ((AcctAct.watchFires registered rand).writes g a).getD a.regErrorStr := by
  simp only [AcctAct.writes, watchTimesOut, regWatchHandler]
  split
  · simp [*]
  · split
    · simp [*]
    · split
      · simp [*]
      · split
        · simp [*]
        · split
          · simp [*, regFailState]
          · simp [*]

theorem keepaliveRespHandler_regErrorStr (answered registered : Bool) (rand : Nat) :
    (a.keepaliveRespHandler g now answered registered rand).regErrorStr =
      ((AcctAct.optionsAnswered answered registered rand).writes g a).getD a.regErrorStr := by
  simp only [AcctAct.writes, keepaliveRespHandler]
  split
  · rfl
  · cases answered with
    | true =>
        have hfold : (a.kaFailed && decide (a.regState = .reconnecting) && registered) =
          a.probeRecovers registered := rfl
        cases hrecovers : a.probeRecovers registered with
        | false => simp [hfold, hrecovers]
        | true => simp [hfold, hrecovers]
    | false =>
        simp only [Bool.false_eq_true, if_false, Bool.not_false, if_true, Option.getD_some]
        split <;> simp

/-- Every handler leaves in `reg_error_str` what it writes there, or what it found. -/
theorem handle_regErrorStr (act : AcctAct) :
    (a.handle g now act).regErrorStr = (act.writes g a).getD a.regErrorStr := by
  cases act with
  | register dnsErr reporting =>
      simp only [handle, registerFn, AcctAct.writes, Option.getD_none]
      split <;> simp
  | unregister reporting =>
      simp only [handle, unregisterFn, AcctAct.writes, Option.getD_none]
      split <;> simp
  | retryNow reporting =>
      simp only [handle, retryNowFn, AcctAct.writes, Option.getD_none]
      split <;> simp
  | cancelRetry =>
      simp only [handle, cancelRetryFn, AcctAct.writes, Option.getD_none]
      split <;> simp
  | setRetryPolicy initialMs maxMs backoff maxAttempts => rfl
  | setPushToken token dupOk reporting =>
      simp only [handle, setPushTokenFn, AcctAct.writes, Option.getD_none]
      split
      · simp
      · split
        · simp [storePushToken]
        · simp only [emit_frame]
          split <;> simp [storePushToken]
  | keepaliveNow inCall sendErr => simp [handle, keepaliveNowFn, AcctAct.writes]
  | registerOk => simp [handle, beventRegisterOk, AcctAct.writes]
  | registerFail reason rand =>
      simp only [handle, beventRegisterFail, AcctAct.writes, postCopied_frame]
      split <;> simp [regFailState]
  | srvDone targets =>
      simp only [handle, srvDoneHandler, AcctAct.writes, Option.getD_none]
      split
      · rfl
      · split <;> rfl
  | retryFires reporting =>
      simp only [handle, retryTimerHandler, AcctAct.writes, Option.getD_none]
      split <;> simp
  | watchFires registered rand =>
      exact regWatchHandler_regErrorStr g now { a with regWatchTmr := none } registered rand
  | keepaliveFires inCall sendErr => simp [handle, AcctAct.writes]
  | optionsAnswered answered registered rand => exact keepaliveRespHandler_regErrorStr ..
  | handoverMark =>
      simp only [handle, regReconnecting, AcctAct.writes, Option.getD_none]
      split
      · rfl
      · split <;> simp
  | handoverToRetry rand =>
      simp only [handle, handoverToRetry, AcctAct.writes, Option.getD_none]
      split <;> simp
  | handoverReregister reporting =>
      simp only [handle, reregister, AcctAct.writes, Option.getD_none]
      split <;> simp
  | elapse ms => rfl

end Account

/-- The handler writes nothing to `reg_error_str` that is not there already. -/
def AcctAct.spares (g : Cfg) (a : Account) (act : AcctAct) : Bool :=
  (act.writes g a).all fun text => decide (text = a.regErrorStr)

theorem AcctAct.spares_iff {g : Cfg} {now : Nat} {a : Account} {act : AcctAct} :
    act.spares g a = true ↔ (a.handle g now act).regErrorStr = a.regErrorStr := by
  rw [Account.handle_regErrorStr, AcctAct.spares]
  cases act.writes g a <;> simp

namespace EventStrings

/-- The events the consumer has not finished with. -/
def pending (s : EventStrings) : List PostedEvent := s.queue.items ++ s.reading

/-- One of them points to the account's `reg_error_str`. -/
def pointedTo (s : EventStrings) (id : Nat) : Bool :=
  s.pending.any fun ev => decide (.regErrorStr id ∈ ev.strs)

/-- A step neither frees the `reg_error_str` that a pending event points to nor writes another text there. -/
def spares (g : Cfg) (s : EventStrings) : StrAct → Bool
  | .destroy id => !s.pointedTo id
  | .account id act _ => !s.pointedTo id || (s.acct id).all fun a => act.spares g a
  | _ => true

/-- Every pending event reads as it was posted. -/
def Intact (s : EventStrings) : Prop := ∀ ev ∈ s.pending, ev.strs.map s.read = ev.asPosted.map some

end EventStrings

/-! ### One step -/

variable {g : Cfg} {max : Nat} {s s' : EventStrings} {a : StrAct} {os : List StrOut} {ev : PostedEvent}

theorem pointedTo_iff {id : Nat} :
    s.pointedTo id = true ↔ ∃ ev ∈ s.pending, .regErrorStr id ∈ ev.strs := by
  simp [EventStrings.pointedTo, List.any_eq_true]

theorem read_congr (h : s'.accounts = s.accounts) : s'.read = s.read := by
  funext p
  cases p <;> simp [EventStrings.read, EventStrings.acct, h]

/-- A pointer reads the same unless it is to an account that changed. -/
theorem read_eq {p : StrPtr} (h : ∀ id, p = .regErrorStr id →
    (s'.acct id).map Account.regErrorStr = (s.acct id).map Account.regErrorStr) :
    s'.read p = s.read p := by
  cases p with
  | regErrorStr id =>
      have htext := congrArg (Option.map some) (h id rfl)
      rw [Option.map_map, Option.map_map] at htext
      exact htext
  | _ => rfl

theorem postQev_pending :
    (s.postQev ev).accounts = s.accounts ∧
      (∀ ev' ∈ s.pending, ev' ∈ (s.postQev ev).pending) ∧
      ∀ ev' ∈ (s.postQev ev).pending, ev' ∈ s.pending ∨ ev' = ev := by
  unfold EventStrings.postQev
  cases hpush : s.queue.push ev with
  | none => exact ⟨rfl, fun _ hmem => hmem, fun _ hmem => .inl hmem⟩
  | some queue =>
      obtain ⟨-, hitems, -⟩ := CountedQueue.push_some hpush
      refine ⟨rfl, ?_, ?_⟩
      · intro ev' hmem
        simp only [EventStrings.pending, hitems, List.mem_append] at hmem ⊢
        tauto
      · intro ev' hmem
        simp only [EventStrings.pending, hitems, List.mem_append, List.mem_singleton] at hmem ⊢
        tauto

theorem postQevs_pending {evs : List PostedEvent} :
    (evs.foldl (fun s ev => s.postQev ev) s).accounts = s.accounts ∧
      (∀ ev' ∈ s.pending, ev' ∈ (evs.foldl (fun s ev => s.postQev ev) s).pending) ∧
      ∀ ev' ∈ (evs.foldl (fun s ev => s.postQev ev) s).pending, ev' ∈ s.pending ∨ ev' ∈ evs := by
  induction evs generalizing s with
  | nil => exact ⟨rfl, fun _ hmem => hmem, fun _ hmem => .inl hmem⟩
  | cons ev evs ih =>
      obtain ⟨haccounts, hkept, hfrom⟩ := @ih (s.postQev ev)
      obtain ⟨haccounts', hkept', hfrom'⟩ := @postQev_pending s ev
      refine ⟨haccounts.trans haccounts', fun ev' hmem => hkept ev' (hkept' ev' hmem), ?_⟩
      intro ev' hmem
      rcases hfrom ev' hmem with hpending | hposted
      · rcases hfrom' ev' hpending with hold | rfl
        · exact .inl hold
        · exact .inr List.mem_cons_self
      · exact .inr (List.mem_cons_of_mem _ hposted)

/-- Between two states in which the pending events read as posted, what they point to has not changed. -/
theorem EventStrings.Intact.read_eq (h : s.Intact) (h' : s'.Intact) (hmem : ev ∈ s.pending)
    (hmem' : ev ∈ s'.pending) {p : StrPtr} (hp : p ∈ ev.strs) : s'.read p = s.read p := by
  have hsame : ev.strs.map s'.read = ev.strs.map s.read := (h' ev hmem').trans (h ev hmem).symm
  exact List.map_inj_left.mp hsame p hp

theorem EventStrings.Intact.read_some (h : s.Intact) (hmem : ev ∈ s.pending) {p : StrPtr} (hp : p ∈ ev.strs) :
    ∃ text, s.read p = some text := by
  have hread : s.read p ∈ ev.asPosted.map some := h ev hmem ▸ List.mem_map_of_mem hp
  obtain ⟨text, -, heq⟩ := List.mem_map.mp hread
  exact ⟨text, heq.symm⟩

/-- What is pending after a step was pending before and still reads the same, or was posted by the step. -/
theorem EventStrings.Intact.of_read (h : s.Intact)
    (hfrom : ∀ ev ∈ s'.pending, ev ∈ s.pending ∧ (∀ p ∈ ev.strs, s'.read p = s.read p) ∨
      ev.strs.map s'.read = ev.asPosted.map some) : s'.Intact := by
  intro ev hmem
  rcases hfrom ev hmem with ⟨hold, hsame⟩ | hposted
  · exact (List.map_congr_left hsame).trans (h ev hold)
  · exact hposted

/-- An event an account posts reads, when it is posted, as it says. -/
theorem regStateQevs_read {id : Nat} {oom : Nat → Bool} {b : Account} (haccount : s'.acct id = some b)
    (hmem : ev ∈ EventStrings.regStateQevs id oom b) : ev.strs.map s'.read = ev.asPosted.map some := by
  obtain ⟨⟨ev', i⟩, hfiltered, rfl⟩ := List.mem_map.mp hmem
  have hposted := List.fst_mem_of_mem_zipIdx (List.mem_filter.mp hfiltered).1
  obtain ⟨o, -, ho⟩ := List.mem_filterMap.mp hposted
  cases o with
  | post reg =>
      obtain rfl := Option.some.inj ho
      unfold EventStrings.regStateQev
      cases reg.errorStr <;> simp [EventStrings.read, haccount]
  | _ => cases ho

/-- What a handler of an account does to the accounts and the pending events. -/
theorem onAccount_some {id : Nat} {act : AcctAct} {oom : Nat → Bool}
    (hstep : s.onAccount g id act oom = some s') :
    ∃ b, s.acct id = some b ∧ s'.accounts = s.accounts.set id (some (b.idle.handle g s.now act)) ∧
      (∀ ev ∈ s.pending, ev ∈ s'.pending) ∧
      ∀ ev ∈ s'.pending, ev ∈ s.pending ∨
        ev ∈ EventStrings.regStateQevs id oom (b.idle.handle g s.now act) := by
  unfold EventStrings.onAccount at hstep
  split at hstep
  · cases hstep
  · rename_i b hbefore
    obtain ⟨c, hreact, rfl⟩ := Option.map_eq_some_iff.mp hstep
    obtain ⟨-, ⟨⟩⟩ := Option.ite_none_right_eq_some.mp hreact
    obtain ⟨haccounts, hkept, hfrom⟩ := @postQevs_pending
      { s with accounts := s.accounts.set id (some (b.idle.handle g s.now act)) }
      (EventStrings.regStateQevs id oom (b.idle.handle g s.now act))
    exact ⟨b, hbefore, haccounts, hkept, hfrom⟩

theorem acct_set {id i : Nat} {b : Option Account} (haccounts : s'.accounts = s.accounts.set id b) (hi : i ≠ id) :
    s'.acct i = s.acct i := by
  rw [EventStrings.acct, haccounts, List.getElem?_set_ne (Ne.symm hi)]
  rfl

/-- A handler of an account leaves the pending events as they were posted if, and only if, it writes nothing
new to a `reg_error_str` that one of them points to. -/
theorem onAccount_intact {id : Nat} {act : AcctAct} {oom : Nat → Bool} (h : s.Intact)
    (hstep : s.onAccount g id act oom = some s') :
    s'.Intact ↔ s.spares g (.account id act oom) = true := by
  obtain ⟨b, hbefore, haccounts, hkept, hfrom⟩ := onAccount_some hstep
  have hafter : s'.acct id = some (b.idle.handle g s.now act) := by
    have hlt : id < s.accounts.length := by
      by_contra hge
      simp [EventStrings.acct, List.getElem?_eq_none (Nat.le_of_not_lt hge)] at hbefore
    simp [EventStrings.acct, haccounts, hlt]
  have hwrites : act.spares g b = true ↔ (b.idle.handle g s.now act).regErrorStr = b.regErrorStr :=
    @AcctAct.spares_iff g s.now b.idle act
  have hspares : s.spares g (.account id act oom) = true ↔
      (s.pointedTo id = true → (b.idle.handle g s.now act).regErrorStr = b.regErrorStr) := by
    rw [← hwrites]
    cases hpointed : s.pointedTo id <;> simp [EventStrings.spares, hbefore, hpointed]
  rw [hspares]
  constructor
  · intro hintact hpointed
    obtain ⟨ev, hmem, hp⟩ := pointedTo_iff.mp hpointed
    have hread := h.read_eq hintact hmem (hkept ev hmem) hp
    simpa [EventStrings.read, hafter, hbefore] using hread
  · intro hsame
    refine h.of_read fun ev hmem => ?_
    rcases hfrom ev hmem with hold | hposted
    · refine .inl ⟨hold, fun p hp => read_eq fun i hi => ?_⟩
      by_cases hid : i = id
      · subst hid hi
        have hpointed := pointedTo_iff.mpr ⟨ev, hold, hp⟩
        rw [hafter, hbefore]
        exact congrArg some (hsame hpointed)
      · rw [acct_set haccounts hid]
    · exact .inr (regStateQevs_read hafter hposted)

/-- Freeing an account does so if none of them points to it. -/
theorem destroy_intact {id : Nat} (h : s.Intact) (hs' : s' = { s with accounts := s.accounts.set id none }) :
    s'.Intact ↔ s.pointedTo id = false := by
  have haccounts : s'.accounts = s.accounts.set id none := by rw [hs']
  have hpending : s'.pending = s.pending := by rw [hs']; rfl
  have hfreed : s'.acct id = none := by
    rw [EventStrings.acct, haccounts]
    by_cases hlt : id < s.accounts.length
    · simp [hlt]
    · simp [Nat.le_of_not_lt hlt]
  rw [← Bool.not_eq_true, pointedTo_iff]
  constructor
  · rintro hintact ⟨ev, hmem, hp⟩
    obtain ⟨text, hread⟩ := hintact.read_some (hpending ▸ hmem) hp
    simp [EventStrings.read, hfreed] at hread
  · intro hpointed
    refine h.of_read fun ev hmem => .inl ⟨hpending ▸ hmem, fun p hp => read_eq fun i hi => ?_⟩
    have hid : i ≠ id := by
      rintro rfl
      exact hpointed ⟨ev, hpending ▸ hmem, hi ▸ hp⟩
    rw [acct_set haccounts hid]

theorem create_intact {b : Account} (h : s.Intact) (hs' : s' = { s with accounts := s.accounts ++ [some b] }) :
    s'.Intact := by
  have hpending : s'.pending = s.pending := by rw [hs']; rfl
  refine h.of_read fun ev hmem => .inl ⟨hpending ▸ hmem, fun p hp => read_eq fun i hi => ?_⟩
  have hlt : i < s.accounts.length := by
    by_contra hge
    obtain ⟨text, hread⟩ := h.read_some (hpending ▸ hmem) hp
    simp [hi, EventStrings.read, EventStrings.acct, Nat.le_of_not_lt hge] at hread
  simp [EventStrings.acct, hs', List.getElem?_append_left hlt]

/-- A step keeps the pending events as they were posted if, and only if, it spares them. -/
theorem step_intact (h : s.Intact) (hstep : s.act g a = some (s', os)) :
    s'.Intact ↔ s.spares g a = true := by
  have hsame (haccounts : s'.accounts = s.accounts) (hpending : ∀ ev ∈ s'.pending, ev ∈ s.pending) :
      s'.Intact ↔ true = true := by
    refine iff_of_true (h.of_read fun ev hmem => .inl ⟨hpending ev hmem, fun p _ => ?_⟩) rfl
    rw [read_congr haccounts]
  cases a with
  | create cfg pushToken =>
      obtain ⟨rfl, -⟩ := Prod.mk.inj (Option.some.inj hstep)
      exact iff_of_true (create_intact h rfl) rfl
  | destroy id =>
      obtain ⟨hs', -⟩ := Prod.mk.inj (Option.some.inj hstep)
      simpa [EventStrings.spares] using destroy_intact h hs'.symm
  | account id act oom =>
      obtain ⟨r, haccount, heq⟩ := Option.map_eq_some_iff.mp hstep
      obtain ⟨rfl, -⟩ := Prod.mk.inj heq
      exact onAccount_intact h haccount
  | elapse ms =>
      obtain ⟨rfl, -⟩ := Prod.mk.inj (Option.some.inj hstep)
      exact hsame rfl fun _ hmem => hmem
  | other strs =>
      obtain ⟨rfl, -⟩ := Prod.mk.inj (Option.some.inj hstep)
      obtain ⟨haccounts, -, hfrom⟩ := @postQev_pending s (EventStrings.ownQev strs)
      refine iff_of_true (h.of_read fun ev hmem => ?_) rfl
      rcases hfrom ev hmem with hold | rfl
      · exact .inl ⟨hold, fun p _ => by rw [read_congr haccounts]⟩
      · refine .inr ?_
        simp only [EventStrings.ownQev, List.map_map]
        refine List.map_congr_left fun str _ => ?_
        cases str <;> rfl
  | takeEvent delivered =>
      simp only [EventStrings.act] at hstep
      split at hstep
      · cases hstep
      · rename_i ev queue hpop
        obtain ⟨rfl, -⟩ := Prod.mk.inj (Option.some.inj hstep)
        obtain ⟨hitems, -⟩ := CountedQueue.pop_some hpop
        refine hsame rfl fun ev' hmem => ?_
        simp only [EventStrings.pending, hitems, List.mem_append, List.mem_cons] at hmem ⊢
        rcases hmem with hqueued | hreading
        · exact .inl (.inr hqueued)
        · cases delivered with
          | false => exact .inr hreading
          | true =>
              rcases List.mem_append.mp hreading with hold | htaken
              · exact .inr hold
              · exact .inl (.inl (List.mem_singleton.mp htaken))
  | reads i =>
      obtain ⟨ev, -, heq⟩ := Option.map_eq_some_iff.mp hstep
      obtain ⟨rfl, -⟩ := Prod.mk.inj heq
      exact hsame rfl fun _ hmem => hmem
  | finished i =>
      obtain ⟨ev, -, heq⟩ := Option.map_eq_some_iff.mp hstep
      obtain ⟨rfl, -⟩ := Prod.mk.inj heq
      refine hsame rfl fun ev' hmem => ?_
      rcases List.mem_append.mp hmem with hqueued | hreading
      · exact List.mem_append_left _ hqueued
      · exact List.mem_append_right _ (List.mem_of_mem_eraseIdx hreading)

/-- What the consumer reads is what is there. -/
theorem step_read {found : List (Option (Option CStr))} (h : s.Intact) (hstep : s.act g a = some (s', os))
    (hread : .read ev found ∈ os) : found = ev.asPosted.map some := by
  cases a with
  | reads i =>
      obtain ⟨ev', hreading, heq⟩ := Option.map_eq_some_iff.mp hstep
      obtain ⟨-, rfl⟩ := Prod.mk.inj heq
      obtain ⟨rfl, rfl⟩ := StrOut.read.inj (List.mem_singleton.mp hread)
      exact h ev (List.mem_append_right _ (List.mem_of_getElem? hreading))
  | takeEvent delivered =>
      simp only [EventStrings.act] at hstep
      split at hstep
      · cases hstep
      · obtain ⟨-, rfl⟩ := Prod.mk.inj (Option.some.inj hstep)
        cases hread
  | account _ _ _ | finished _ =>
      obtain ⟨_, -, heq⟩ := Option.map_eq_some_iff.mp hstep
      obtain ⟨-, rfl⟩ := Prod.mk.inj heq
      cases hread
  | _ =>
      obtain ⟨-, rfl⟩ := Prod.mk.inj (Option.some.inj hstep)
      cases hread

/-! ### Every run -/

/-- Every pending event reads as it was posted, and so did every event the consumer has looked at. -/
structure AsPosted (s : EventStrings) (t : Trace StrAct StrOut) : Prop where
  intact : s.Intact
  read : ∀ ev found, .read ev found ∈ t.outs → found = ev.asPosted.map some

variable {t : Trace StrAct StrOut}

/-- **Queued events keep their strings.** As long as no step writes another text to the `reg_error_str` that
a pending event points to, or frees it, what is read of an event is what it was posted with; and the first
step that does so breaks it. -/
theorem strings_as_posted (hrun : (eventStrings g max).Run (fun s a => s.spares g a) s t) :
    AsPosted s t ∧ ∀ a s' os, (eventStrings g max).step s a = some (s', os) →
      (s'.Intact ↔ s.spares g a = true) := by
  have hposted : AsPosted s t := by
    refine hrun.invariant (I := AsPosted) ?_ ?_
    · rintro s ⟨now, rfl⟩
      exact ⟨by simp [EventStrings.Intact, EventStrings.pending, CountedQueue.empty], by simp⟩
    · intro s t a s' os h hspares hstep
      refine ⟨(step_intact h.intact hstep).mpr hspares, fun ev found hread => ?_⟩
      rw [Trace.outs_append, Trace.outs_singleton] at hread
      rcases List.mem_append.mp hread with hbefore | hnow
      · exact h.read ev found hbefore
      · exact step_read h.intact hstep hnow
  exact ⟨hposted, fun a s' os hstep => step_intact hposted.intact hstep⟩

/-- `voxsdk_init` has returned. -/
def EventStrings.fresh (max : Nat) : EventStrings :=
  { now := 0, accounts := [], queue := .empty max, reading := [] }

/-- A refused registration, read before anything else happens. -/
theorem strings_as_posted_refused :
    ∃ (s : EventStrings) (t : Trace StrAct StrOut), AsPosted s t ∧
      .read { strs := [.regErrorStr 0], asPosted := [some "503 Service Unavailable".toList] }
        [some (some "503 Service Unavailable".toList)] ∈ t.outs := by
  obtain ⟨s, t, hrun, hend⟩ := Machine.exists_run_of_exec (M := eventStrings configInit 4096)
    (s := .fresh 4096) (fun s a => s.spares configInit a) ⟨0, rfl⟩
    [.create (.plain "sip.example.com".toList) none, .account 0 (.register false true) fun _ => false,
      .account 0 (.registerFail (some "503 Service Unavailable".toList) 0) fun _ => false,
      .takeEvent true, .takeEvent true, .reads 1, .finished 1,
      .account 0 .registerOk fun _ => false]
    (fun _ t => decide (.read
      { strs := [.regErrorStr 0], asPosted := [some "503 Service Unavailable".toList] }
      [some (some "503 Service Unavailable".toList)] ∈ Trace.outs t)) (by decide +kernel)
  exact ⟨s, t, (strings_as_posted hrun).1, of_decide_eq_true hend⟩

/-- The registrar accepts the next attempt before the consumer has looked: the reason it reads is gone. -/
theorem strings_overwritten :
    ¬ ∀ (s : EventStrings) (t : Trace StrAct StrOut),
      (eventStrings configInit 4096).Run Machine.Always s t → AsPosted s t := by
  intro h
  obtain ⟨s, t, hrun, hend⟩ := Machine.exists_run_of_exec (M := eventStrings configInit 4096)
    (s := .fresh 4096) (fun _ _ => true) ⟨0, rfl⟩
    [.create (.plain "sip.example.com".toList) none, .account 0 (.register false true) fun _ => false,
      .account 0 (.registerFail (some "503 Service Unavailable".toList) 0) fun _ => false,
      .account 0 .registerOk fun _ => false, .takeEvent true, .takeEvent true, .reads 1]
    (fun _ t => decide (.read
      { strs := [.regErrorStr 0], asPosted := [some "503 Service Unavailable".toList] }
      [some (some [])] ∈ Trace.outs t)) (by decide +kernel)
  have hread := (h s t hrun.always).read _ _ (of_decide_eq_true hend)
  simp at hread

end VoxSdk
