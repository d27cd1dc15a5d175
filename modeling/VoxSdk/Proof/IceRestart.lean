import VoxSdk.Proof.IceGather

/-!
# Restarts and the answers to them

A restart of ours makes the peer mint new credentials, and so does a restart of the peer's. `await_answer`
is what tells the two apart, and what keeps the offer of a restart from starting the checks against the
credentials of before. It is one flag for one exchange: whatever reaches `ice_updateh` first spends it.
-/

namespace VoxSdk

open Reactive

/-- The answer to the peer's credential change, `rrestart_handler`. -/
def IceAct.isRrestart : IceAct → Bool
  | .rrestart _ => true
  | _ => false

/-- An update that is not made from inside baresip's estab handler. -/
def IceAct.isUpdateh : IceAct → Bool
  | .updateh _ => true
  | _ => false

namespace IceSess

variable {g : Cfg} {env : IceEnv} {s s' s'' : IceSess}

/-! ### The budget of restarts the peer can cause -/

/-- What work on a session can do to the budget: nothing, or one restart is queued and paid for. -/
inductive Budget (s s' : IceSess) : Prop where
  | same : s'.rrestarts = s.rrestarts → s'.tmrRrestart = s.tmrRrestart → Budget s s'
  | queued : s.tmrRrestart.isRunning = false → s.rrestarts < iceMaxRemoteRestarts →
      s'.rrestarts = s.rrestarts + 1 → s'.tmrRrestart.isRunning = true → Budget s s'

theorem Budget.refl : Budget s s := .same rfl rfl

theorem Budget.trans (h : Budget s s') (h' : Budget s' s'') : Budget s s'' := by
  cases h with
  | same hcount htmr =>
      cases h' with
      | same hcount' htmr' => exact .same (hcount'.trans hcount) (htmr'.trans htmr)
      | queued hidle hleft hcount' hqueued =>
          exact .queued (htmr ▸ hidle) (hcount ▸ hleft) (hcount ▸ hcount') hqueued
  | queued hidle hleft hcount hqueued =>
      cases h' with
      | same hcount' htmr' => exact .queued hidle hleft (hcount'.trans hcount) (htmr' ▸ hqueued)
      | queued hidle' _ _ _ => exact absurd (hidle'.symm.trans hqueued) (by simp)

/-- While a restart gathers or is queued, nothing is paid. -/
theorem peerRestarted_underWay (h : s.restarting = true ∨ s.tmrRrestart.isRunning = true) :
    s.peerRestarted.rrestarts = s.rrestarts ∧ s.peerRestarted.tmrRrestart = s.tmrRrestart := by
  have hunder : (s.forgetSelected.restarting || s.forgetSelected.tmrRrestart.isRunning) = true :=
    Bool.or_eq_true_iff.mpr h
  rw [peerRestarted, if_pos hunder]
  exact ⟨rfl, rfl⟩

theorem budget_peerRestarted : Budget s s.peerRestarted := by
  by_cases hunder : s.restarting = true ∨ s.tmrRrestart.isRunning = true
  · exact .same (peerRestarted_underWay hunder).1 (peerRestarted_underWay hunder).2
  · have hfree : ¬(s.forgetSelected.restarting || s.forgetSelected.tmrRrestart.isRunning) = true :=
      fun h => hunder (Bool.or_eq_true_iff.mp h)
    simp only [peerRestarted]
    rw [if_neg hfree]
    split
    · rename_i hleft
      exact .queued (Bool.eq_false_iff.mpr fun h => hunder (.inr h)) hleft rfl rfl
    · exact .same rfl rfl

/-- What an update does to the budget, it does when it finds the peer has restarted. -/
theorem updateh_cases :
    ((s.updateh env).rrestarts = s.rrestarts ∧ (s.updateh env).tmrRrestart = s.tmrRrestart) ∨
      ∃ r : IceSess, r.rrestarts = s.rrestarts ∧ r.tmrRrestart = s.tmrRrestart ∧
        r.restarting = s.restarting ∧ s.updateh env = r.peerRestarted := by
  unfold updateh
  split
  · exact .inl ⟨rfl, rfl⟩
  · unfold updated
    simp only
    split
    · exact .inl ⟨rfl, rfl⟩
    · split
      · refine .inr ⟨_, ?_, ?_, ?_, rfl⟩
        all_goals rfl
      · exact .inl ⟨rfl, rfl⟩

/-- A credential change seen while a restart gathers or is queued costs nothing. -/
theorem updateh_underWay (h : s.restarting = true ∨ s.tmrRrestart.isRunning = true) :
    (s.updateh env).rrestarts = s.rrestarts ∧ (s.updateh env).tmrRrestart = s.tmrRrestart := by
  rcases updateh_cases (s := s) with hsame | ⟨r, hcount, htmr, hrestarting, heq⟩
  · exact hsame
  · obtain ⟨hcount', htmr'⟩ := peerRestarted_underWay (s := r) (by rwa [hrestarting, htmr])
    exact ⟨heq ▸ hcount'.trans hcount, heq ▸ htmr'.trans htmr⟩

theorem budget_updateh : Budget s (s.updateh env) := by
  rcases updateh_cases (s := s) with ⟨hcount, htmr⟩ | ⟨r, hcount, htmr, -, heq⟩
  · exact .same hcount htmr
  · have hsame : Budget s r := .same hcount htmr
    exact heq ▸ hsame.trans budget_peerRestarted

theorem budget_estabRelease : Budget s (s.estabRelease env) := by
  have hoffered : Budget s (({ s with inEstab := true }).emit (.estab false)) := .same rfl rfl
  unfold estabRelease
  simp only
  split
  · exact (hoffered.trans budget_updateh).trans (.same rfl rfl)
  · exact .same rfl rfl

theorem budget_primeConncheck : Budget s (s.primeConncheck env) := by
  unfold primeConncheck
  repeat' split
  all_goals exact .same rfl rfl

theorem budget_offer : Budget s (s.offer env) := by
  have hready : Budget s { s.rebaseSignalled env with restarting := false, released := true } :=
    .same rfl rfl
  exact (hready.trans budget_estabRelease).trans budget_primeConncheck

theorem budget_estab (failure : Bool) : Budget s (s.estab env failure) := by
  have hover : Budget s (({ s with tmr := none }).emit .gatherOver) := .same rfl rfl
  simp only [estab]
  split
  · exact hover.trans budget_offer
  · split
    · exact .same rfl rfl
    · split
      · exact hover.trans budget_offer
      · exact .same rfl rfl

theorem budget_gatherDeadline : Budget s (s.gatherDeadline env) := by
  have hover : Budget s { s.emit .gatherOver with restarting := false, released := true } :=
    .same rfl rfl
  simp only [gatherDeadline]
  split
  · exact .refl
  · exact hover.trans budget_estabRelease

theorem budget_reofferRelease : Budget s (s.reofferRelease env) := by
  have hidle : Budget s { s with tmrReoffer := none } := .same rfl rfl
  exact hidle.trans budget_estabRelease

theorem budget_reofferDeadline : Budget s (s.reofferDeadline env) := by
  unfold reofferDeadline
  split
  · split <;> exact .same rfl rfl
  · exact budget_reofferRelease

theorem budget_connected (media : Nat) (raddr1 : SaPort) (raddr2 : Option SaPort) :
    Budget s (s.connected env media raddr1 raddr2) := by
  unfold connected
  split
  · exact .refl
  · simp only
    split
    · exact .same rfl rfl
    · split
      · have hnotified (ms : List IceMedia) : Budget s
            { ({ s with medial := ms }).emit (.connected media raddr1 raddr2) with reoffered := true } :=
          .same rfl rfl
        unfold reofferCandidate
        split
        · exact .same rfl rfl
        · simp only
          split
          · exact .same rfl rfl
          · exact (hnotified _).trans budget_reofferRelease
      · exact .same rfl rfl

theorem restart_budget (laddr : Sa) :
    (s.restart g env laddr).2.rrestarts = s.rrestarts ∧
      (s.restart g env laddr).2.tmrRrestart = s.tmrRrestart := by
  unfold restart
  repeat' split
  all_goals exact ⟨rfl, rfl⟩

/-- A step queues at most one restart, unless the queued one is what it runs. -/
theorem budget_step {act : IceAct} {os : List IceOut}
    (hstep : (iceSystem g).step s act = some (s', os)) :
    (act.isRrestart = false ∧ Budget s s') ∨
      (act.isRrestart = true ∧ s.tmrRrestart.isRunning = true ∧ s'.rrestarts = s.rrestarts ∧
        s'.tmrRrestart = none) := by
  simp only [iceSystem] at hstep
  split at hstep
  · rename_i henabled
    cases hstep
    have hidle : Budget s s.idle := .same rfl rfl
    cases act with
    | mediah env | elapse ms => exact .inl ⟨rfl, .same rfl rfl⟩
    | estab failure env => exact .inl ⟨rfl, hidle.trans (budget_estab failure)⟩
    | gatherDeadline env =>
        have hfired : Budget s { s.idle with tmr := none } := .same rfl rfl
        exact .inl ⟨rfl, hfired.trans budget_gatherDeadline⟩
    | reofferDeadline env =>
        have hfired : Budget s { s.idle with tmrReoffer := none } := .same rfl rfl
        exact .inl ⟨rfl, hfired.trans budget_reofferDeadline⟩
    | connected media raddr1 raddr2 env =>
        exact .inl ⟨rfl, hidle.trans (budget_connected media raddr1 raddr2)⟩
    | updateh env => exact .inl ⟨rfl, hidle.trans budget_updateh⟩
    | restart laddr env =>
        exact .inl ⟨rfl, .same (restart_budget laddr).1 (restart_budget laddr).2⟩
    | rrestart env =>
        simp only [enabled, Bool.and_eq_true] at henabled
        exact .inr ⟨rfl, Timer.isRunning_of_isDue henabled.2, (restart_budget .unset).1,
          (restart_budget .unset).2⟩
  · cases hstep

/-- Every restart run in answer to the peer, and the one queued, has been paid for. -/
theorem rrestarts_paid {t : Trace IceAct IceOut} (hrun : (iceSystem g).Run Machine.Always s t) :
    (t.countP fun p => p.1.isRrestart) + s.tmrRrestart.toList.length = s.rrestarts ∧
      s.rrestarts ≤ iceMaxRemoteRestarts := by
  refine hrun.invariant (I := fun s t =>
    (t.countP fun p => p.1.isRrestart) + s.tmrRrestart.toList.length = s.rrestarts ∧
      s.rrestarts ≤ iceMaxRemoteRestarts) ?_ ?_
  · rintro s ⟨now, rfl⟩
    exact ⟨rfl, Nat.zero_le _⟩
  · rintro s t act s' os ⟨hpaid, hle⟩ - hstep
    rw [List.countP_append, List.countP_singleton]
    have hone {q : Timer} (h : q.isRunning = true) : q.toList.length = 1 := by
      cases q with
      | none => cases h
      | some due => rfl
    have hnone {q : Timer} (h : q.isRunning = false) : q.toList.length = 0 := by
      cases q with
      | none => rfl
      | some due => cases h
    rcases budget_step hstep with ⟨hother, hbudget⟩ | ⟨hrestart, hqueued, hcount, htmr⟩
    · cases hbudget with
      | same hcount htmr =>
          rw [hother, hcount, htmr]
          exact ⟨hpaid, hle⟩
      | queued hidle hleft hcount hqueued =>
          rw [hother, hcount, hone hqueued]
          rw [hnone hidle] at hpaid
          exact ⟨by simpa using hpaid, hleft⟩
    · rw [hrestart, hcount, htmr]
      rw [hone hqueued] at hpaid
      exact ⟨hpaid, hle⟩

/-! ### The answer to a restart of ours -/

/-- An offer made now starts the checks of a ringing call. -/
def primes (s : IceSess) (env : IceEnv) : Bool :=
  !s.primed && env.incoming &&
    (List.range s.medial.length).any fun i => decide ((env.sdp i).ufrag ≠ [])

/-- The gather report makes an offer, as a late failure does not. -/
def offers (s : IceSess) (failure : Bool) : Bool := !failure || (s.restarting && !s.released)

/-- The steps that leave the checks of a restarted session to the answer. -/
def keepsAnswer (s : IceSess) : IceAct → Bool
  | .updateh _ => false
  | .estab failure env => !(s.offers failure && s.primes env)
  | _ => true

/-- Work that leaves the answer awaited and the checks not begun. -/
structure Awaits (s s' : IceSess) : Prop where
  awaitAnswer : s'.awaitAnswer = true
  out : ∃ os, s'.out = s.out ++ os ∧ .update ∉ os

theorem Awaits.of_eq (hawait : s'.awaitAnswer = true) (hout : s'.out = s.out) : Awaits s s' :=
  ⟨hawait, [], by simp [hout], by simp⟩

theorem Awaits.emit (hawait : s'.awaitAnswer = true) {o : IceOut} (ho : o ≠ .update)
    (hout : s'.out = s.out ++ [o]) : Awaits s s' :=
  ⟨hawait, [o], hout, by simpa using ho.symm⟩

theorem Awaits.trans (h : Awaits s s') (h' : Awaits s' s'') : Awaits s s'' := by
  obtain ⟨os, hos, hnone⟩ := h.out
  obtain ⟨os', hos', hnone'⟩ := h'.out
  refine ⟨h'.awaitAnswer, os ++ os', by rw [hos', hos, List.append_assoc], ?_⟩
  simp [hnone, hnone']

/-- The offer-side update of a session that awaits its answer is suppressed. -/
theorem estabRelease_awaiting (hawait : s.awaitAnswer = true) :
    s.estabRelease env =
      if env.modify then
        { (({ s with inEstab := true }).emit (.estab false)).reassertSelected env with inEstab := false }
      else { s.emit (.estab false) with inEstab := false } := by
  let offered : IceSess := ({ s with inEstab := true }).emit (.estab false)
  have hupdate : offered.updateh env = offered.reassertSelected env :=
    if_pos (Bool.and_eq_true_iff.mpr ⟨rfl, hawait⟩)
  unfold estabRelease
  cases env.modify with
  | false => rfl
  | true => exact congrArg (fun r : IceSess => { r with inEstab := false }) hupdate

theorem awaits_estabRelease (hawait : s.awaitAnswer = true) : Awaits s (s.estabRelease env) := by
  have hoffered : Awaits s (({ s with inEstab := true }).emit (.estab false)) :=
    .emit hawait (by simp) rfl
  rw [estabRelease_awaiting hawait]
  split
  · obtain ⟨os, hos, hall⟩ := @out_reassertSelected env
      (({ s with inEstab := true }).emit (.estab false))
    refine hoffered.trans ⟨hawait, os, hos, fun h => ?_⟩
    obtain ⟨i, raddr1, raddr2, ho⟩ := hall _ h
    cases ho
  · exact hoffered.trans (.of_eq hawait rfl)

theorem primes_estabRelease (hawait : s.awaitAnswer = true) :
    (s.estabRelease env).primes env = s.primes env := by
  rw [estabRelease_awaiting hawait]
  split
  · simp [primes, reassertSelected, emit]
  · rfl

theorem primeConncheck_eq :
    s.primeConncheck env =
      if s.primes env then
        ((({ s with primed := true }).emit .update).remoteUfragSync env).2
      else s := by
  have hall : ((List.range s.medial.length).all fun i => decide ((env.sdp i).ufrag = [])) =
      !(List.range s.medial.length).any fun i => decide ((env.sdp i).ufrag ≠ []) := by
    rw [List.all_eq_not_any_not]
    simp
  unfold primeConncheck primes
  rw [hall]
  cases s.primed <;> cases env.incoming <;>
    cases (List.range s.medial.length).any fun i => decide ((env.sdp i).ufrag ≠ []) <;> rfl

theorem offer_primes (hawait : s.awaitAnswer = true) :
    ((({ s.rebaseSignalled env with restarting := false, released := true }).estabRelease env).primes
      env) = s.primes env := by
  rw [primes_estabRelease (by exact hawait)]
  simp [primes, rebaseSignalled]

/-- The offer of a restart leaves the checks to the answer unless it primes them. -/
theorem awaits_offer (hawait : s.awaitAnswer = true) (hprimes : s.primes env = false) :
    Awaits s (s.offer env) := by
  have hready : Awaits s { s.rebaseSignalled env with restarting := false, released := true } :=
    .of_eq hawait rfl
  simp only [offer]
  rw [primeConncheck_eq, offer_primes hawait, hprimes]
  exact hready.trans (awaits_estabRelease hawait)

theorem update_mem_offer (hawait : s.awaitAnswer = true) (hprimes : s.primes env = true) :
    .update ∈ (s.offer env).out := by
  simp only [offer]
  rw [primeConncheck_eq, offer_primes hawait, hprimes]
  simp [remoteUfragSync, emit]

theorem awaits_estab (hawait : s.awaitAnswer = true) (failure : Bool)
    (hkeeps : (s.offers failure && s.primes env) = false) : Awaits s (s.estab env failure) := by
  let ended : IceSess := ({ s with tmr := none }).emit .gatherOver
  have hover : Awaits s ended := .emit hawait (by simp) rfl
  have hoffer (hoffers : s.offers failure = true) : Awaits s (ended.offer env) := by
    rw [hoffers, Bool.true_and] at hkeeps
    exact hover.trans (awaits_offer hawait hkeeps)
  simp only [estab]
  split
  · rename_i hok
    exact hoffer (by simp [offers, show failure = false by simpa using hok])
  · split
    · exact hover.trans (.of_eq hawait rfl)
    · rename_i hreleased
      split
      · rename_i hrestarting
        have hreleased : s.released = false := Bool.eq_false_iff.mpr hreleased
        exact hoffer (by simp [offers, hreleased, show s.restarting = true from hrestarting])
      · exact hover.trans (.emit hawait (by simp) rfl)

theorem update_mem_estab (hawait : s.awaitAnswer = true) (failure : Bool)
    (hoffers : s.offers failure = true) (hprimes : s.primes env = true) :
    .update ∈ (s.estab env failure).out := by
  have hoffer := update_mem_offer (s := ({ s with tmr := none }).emit .gatherOver) hawait hprimes
  simp only [offers, Bool.or_eq_true, Bool.not_eq_true', Bool.and_eq_true] at hoffers
  simp only [estab]
  rcases hoffers with rfl | ⟨hrestarting, hreleased⟩
  · exact hoffer
  · split
    · exact hoffer
    · split
      · rename_i h
        exact absurd (hreleased.symm.trans h) (by simp)
      · split
        · exact hoffer
        · rename_i h
          exact absurd hrestarting h

theorem awaits_gatherDeadline (hawait : s.awaitAnswer = true) :
    Awaits s (s.gatherDeadline env) := by
  have hover : Awaits s { s.emit .gatherOver with restarting := false, released := true } :=
    .emit hawait (by simp) rfl
  simp only [gatherDeadline]
  split
  · exact .of_eq hawait rfl
  · exact hover.trans (awaits_estabRelease hawait)

theorem awaits_reofferRelease (hawait : s.awaitAnswer = true) :
    Awaits s (s.reofferRelease env) := by
  have hidle : Awaits s { s with tmrReoffer := none } := .of_eq hawait rfl
  exact hidle.trans (awaits_estabRelease hawait)

theorem awaits_reofferDeadline (hawait : s.awaitAnswer = true) :
    Awaits s (s.reofferDeadline env) := by
  unfold reofferDeadline
  split
  · split <;> exact .of_eq hawait rfl
  · exact awaits_reofferRelease hawait

theorem awaits_reofferCandidate (hawait : s.awaitAnswer = true) :
    Awaits s (s.reofferCandidate env) := by
  have hmarked : Awaits s { s with reoffered := true } := .of_eq hawait rfl
  unfold reofferCandidate
  split
  · exact .of_eq hawait rfl
  · simp only
    split
    · exact .of_eq hawait rfl
    · exact hmarked.trans (awaits_reofferRelease hawait)

theorem awaits_connected (hawait : s.awaitAnswer = true) (media : Nat) (raddr1 : SaPort)
    (raddr2 : Option SaPort) : Awaits s (s.connected env media raddr1 raddr2) := by
  have hnotified (ms : List IceMedia) :
      Awaits s (({ s with medial := ms }).emit (.connected media raddr1 raddr2)) :=
    .emit hawait (by simp) rfl
  unfold connected
  split
  · exact .of_eq hawait rfl
  · simp only
    split
    · exact .of_eq hawait rfl
    · split
      · exact (hnotified _).trans (awaits_reofferCandidate hawait)
      · exact hnotified _

theorem awaits_restart (hawait : s.awaitAnswer = true) (laddr : Sa) :
    Awaits s (s.restart g env laddr).2 := by
  unfold restart
  split
  · exact .of_eq hawait rfl
  · split
    · exact .of_eq hawait rfl
    · split
      · exact .of_eq hawait rfl
      · exact .emit rfl (by simp) rfl

theorem awaitAnswer_primeConncheck : (s.primeConncheck env).awaitAnswer = s.awaitAnswer := by
  rw [primeConncheck_eq]
  split <;> rfl

/-- Only an update that is not made from inside the estab handler spends the flag. -/
theorem awaitAnswer_estab (hawait : s.awaitAnswer = true) (failure : Bool) :
    (s.estab env failure).awaitAnswer = true := by
  have hoffer {r : IceSess} (h : r.awaitAnswer = true) : (r.offer env).awaitAnswer = true := by
    have hready : ({ r.rebaseSignalled env with restarting := false, released := true } :
        IceSess).awaitAnswer = true := h
    exact awaitAnswer_primeConncheck.trans (awaits_estabRelease hready).awaitAnswer
  have hover : (({ s with tmr := none }).emit .gatherOver).awaitAnswer = true := hawait
  simp only [estab]
  split
  · exact hoffer hover
  · split
    · exact hawait
    · split
      · exact hoffer hover
      · exact hawait

/-- A step of a session that awaits its answer either leaves the checks not begun, or runs the ice module's
handler; and only an update leaves the answer no longer awaited. -/
theorem answer_step {act : IceAct} {os : List IceOut} (hawait : s.awaitAnswer = true)
    (hidle : s.inEstab = false) (hstep : (iceSystem g).step s act = some (s', os)) :
    (act.isUpdateh = false → s'.awaitAnswer = true) ∧
      (.update ∉ os ↔ s.keepsAnswer act = true) := by
  have hkeeps {act : IceAct} {r : IceSess} (h : Awaits s.idle r) (hact : s.keepsAnswer act = true) :
      (act.isUpdateh = false → r.awaitAnswer = true) ∧
        (.update ∉ r.out ↔ s.keepsAnswer act = true) := by
    obtain ⟨os, hos, hnone⟩ := h.out
    exact ⟨fun _ => h.awaitAnswer, iff_of_true (hos ▸ hnone) hact⟩
  have hawait' : s.idle.awaitAnswer = true := hawait
  simp only [iceSystem] at hstep
  split at hstep
  · cases hstep
    cases act with
    | mediah env | elapse ms => exact hkeeps (.of_eq hawait rfl) rfl
    | estab failure env =>
        cases hprimes : s.offers failure && s.primes env with
        | false => exact hkeeps (awaits_estab hawait' failure hprimes) (by simp [keepsAnswer, hprimes])
        | true =>
            have hlost : s.keepsAnswer (.estab failure env) = false := by simp [keepsAnswer, hprimes]
            obtain ⟨hoffers, hprimes⟩ := Bool.and_eq_true_iff.mp hprimes
            have hbegun : .update ∈ (s.idle.estab env failure).out :=
              update_mem_estab hawait' failure hoffers hprimes
            exact ⟨fun _ => awaitAnswer_estab hawait' failure,
              iff_of_false (not_not_intro hbegun) (by simp [hlost])⟩
    | gatherDeadline env =>
        have hfired : Awaits s.idle { s.idle with tmr := none } := .of_eq hawait rfl
        exact hkeeps (hfired.trans (awaits_gatherDeadline hawait)) rfl
    | reofferDeadline env =>
        have hfired : Awaits s.idle { s.idle with tmrReoffer := none } := .of_eq hawait rfl
        exact hkeeps (hfired.trans (awaits_reofferDeadline hawait)) rfl
    | connected media raddr1 raddr2 env =>
        exact hkeeps (awaits_connected hawait' media raddr1 raddr2) rfl
    | updateh env =>
        have hdelegated : s.idle.updateh env = (s.idle.emit .update).updated env :=
          if_neg (by simp [idle, hidle])
        have hquiet : Quiet (s.idle.emit .update) ((s.idle.emit .update).updated env) :=
          .updated .refl
        obtain ⟨os, hos, -⟩ := hquiet.out
        have hbegun : .update ∈ (s.idle.updateh env).out := by
          rw [hdelegated, hos]
          simp [emit]
        exact ⟨fun h => absurd h (by simp [IceAct.isUpdateh]),
          iff_of_false (not_not_intro hbegun) (by simp [keepsAnswer])⟩
    | restart laddr env => exact hkeeps (awaits_restart hawait' laddr) rfl
    | rrestart env =>
        have hfired : Awaits s.idle { s.idle with tmrRrestart := none } := .of_eq hawait rfl
        exact hkeeps (hfired.trans (awaits_restart hfired.awaitAnswer .unset)) rfl
  · cases hstep

theorem inEstab_estabRelease : (s.estabRelease env).inEstab = false := rfl

theorem inEstab_updateh : (s.updateh env).inEstab = s.inEstab := by
  unfold updateh updated peerRestarted
  simp only
  repeat' split
  all_goals rfl

theorem inEstab_primeConncheck : (s.primeConncheck env).inEstab = s.inEstab := by
  rw [primeConncheck_eq]
  split <;> rfl

theorem inEstab_estab (h : s.inEstab = false) (failure : Bool) :
    (s.estab env failure).inEstab = false := by
  simp only [estab]
  split
  · exact inEstab_primeConncheck.trans inEstab_estabRelease
  · split
    · exact h
    · split
      · exact inEstab_primeConncheck.trans inEstab_estabRelease
      · exact h

theorem inEstab_reofferCandidate (h : s.inEstab = false) :
    (s.reofferCandidate env).inEstab = false := by
  unfold reofferCandidate
  split
  · exact h
  · simp only
    split
    · exact h
    · exact inEstab_estabRelease

theorem inEstab_step {act : IceAct} {os : List IceOut} (h : s.inEstab = false)
    (hstep : (iceSystem g).step s act = some (s', os)) : s'.inEstab = false := by
  simp only [iceSystem] at hstep
  split at hstep
  · cases hstep
    cases act with
    | mediah env | elapse ms => exact h
    | estab failure env => exact inEstab_estab (s := s.idle) h failure
    | gatherDeadline env =>
        simp only [handle, gatherDeadline]
        split
        · exact h
        · exact inEstab_estabRelease
    | reofferDeadline env =>
        simp only [handle, reofferDeadline]
        split
        · split <;> exact h
        · exact inEstab_estabRelease
    | connected media raddr1 raddr2 env =>
        simp only [handle, connected]
        split
        · exact h
        · split
          · exact h
          · split
            · exact inEstab_reofferCandidate h
            · exact h
    | updateh env => exact inEstab_updateh.trans h
    | restart laddr env | rrestart env =>
        simp only [handle, restart]
        repeat' split
        all_goals exact h
  · cases hstep

theorem inEstab_run {t : Trace IceAct IceOut} (hrun : (iceSystem g).Run Machine.Always s t) :
    s.inEstab = false := by
  have hinit (s : IceSess) (h : (iceSystem g).init s) : s.inEstab = false := by
    obtain ⟨now, rfl⟩ := h
    rfl
  exact hrun.stateInvariant (I := fun s => s.inEstab = false) hinit
    fun _ _ _ _ h _ hstep => inEstab_step h hstep

/-- A step that restarts leaves the answer awaited. -/
theorem awaitAnswer_restarted {act : IceAct} {os : List IceOut} {laddr : Sa}
    (hstep : (iceSystem g).step s act = some (s', os)) (hrestart : .restart laddr ∈ os) :
    s'.awaitAnswer = true := by
  cases gather_step hstep with
  | beside _ hbeside => exact absurd (hbeside _ hrestart) (by simp [IceOut.isBeside])
  | started _ _ _ _ hawait _ _ => exact hawait
  | offered _ _ _ hquiet =>
      exact absurd (hquiet (.restart laddr) (by simpa using hrestart)) (by simp [IceOut.isQuiet])
  | ignored | lapsed | closed => simp at hrestart

/-- The update with the answer to a restart of ours is not taken for a restart of the peer's. -/
theorem updated_answer (hawait : s.awaitAnswer = true) :
    (s.updated env).rrestarts = s.rrestarts ∧ (s.updated env).tmrRrestart = s.tmrRrestart := by
  unfold updated
  simp only
  split
  · exact ⟨rfl, rfl⟩
  · rename_i hother
    split
    · rename_i hchanged
      have hawait' : (s.remoteUfragSync env).2.awaitAnswer = true := hawait
      rw [Bool.and_eq_true] at hchanged
      exact absurd (Bool.and_eq_true_iff.mpr ⟨hawait', hchanged.1⟩) hother
    · exact ⟨rfl, rfl⟩

theorem answer_budget {os : List IceOut} (hawait : s.awaitAnswer = true) (hidle : s.inEstab = false)
    (hstep : (iceSystem g).step s (.updateh env) = some (s', os)) :
    s'.rrestarts = s.rrestarts ∧ s'.tmrRrestart = s.tmrRrestart ∧ ∀ o ∈ os, o.isQuiet = true := by
  simp only [iceSystem] at hstep
  split at hstep
  · cases hstep
    have hdelegated : s.idle.updateh env = (s.idle.emit .update).updated env :=
      if_neg (by simp [idle, hidle])
    have hquiet : Quiet s.idle (s.idle.updateh env) := .updateh .refl
    obtain ⟨os, hos, hall⟩ := hquiet.out
    obtain ⟨hcount, htmr⟩ := @updated_answer env (s.idle.emit .update) hawait
    refine ⟨(congrArg rrestarts hdelegated).trans hcount,
      (congrArg tmrRrestart hdelegated).trans htmr, fun o ho => hall o ?_⟩
    exact (hos.trans (List.nil_append os)) ▸ ho
  · cases hstep

/-- The answer stays awaited until an update that is not made from inside the estab handler. -/
theorem awaitAnswer_since {t : Trace IceAct IceOut} (hawait : s.awaitAnswer = true)
    (hidle : s.inEstab = false)
    (hsteps : (iceSystem g).Steps (fun _ act => act.isUpdateh = false) s t s') :
    s'.awaitAnswer = true ∧ s'.inEstab = false := by
  induction hsteps with
  | refl => exact ⟨hawait, hidle⟩
  | step _ hother hstep ih =>
      exact ⟨(answer_step ih.1 ih.2 hstep).1 hother, inEstab_step ih.2 hstep⟩

end IceSess

/-- **A restarted generation is not checked against old credentials** exactly if no exchange but the answer
reaches the update handler. From a restart up to the answer to its offer, during which every update seen
belongs to some other exchange, the ice module's own handler does not run exactly if no update comes from
outside the estab handler, and no offer primes the checks of a call that is still ringing. -/
theorem restart_awaits_answer {g : Cfg} {r r' s : IceSess} {u t : Trace IceAct IceOut} {act : IceAct}
    {os : List IceOut} {laddr : Sa} (hrun : (iceSystem g).Run Machine.Always r u)
    (hstep : (iceSystem g).step r act = some (r', os)) (hrestart : .restart laddr ∈ os)
    (hsteps : (iceSystem g).Steps Machine.Always r' t s) :
    .update ∉ t.outs ↔ (iceSystem g).Steps (fun s act => s.keepsAnswer act) r' t s := by
  have hawait := IceSess.awaitAnswer_restarted hstep hrestart
  have hidle := IceSess.inEstab_step (IceSess.inEstab_run hrun) hstep
  have hkept {s : IceSess} {t : Trace IceAct IceOut}
      (h : (iceSystem g).Steps (fun s act => s.keepsAnswer act) r' t s) :
      s.awaitAnswer = true ∧ s.inEstab = false ∧ .update ∉ t.outs := by
    induction h with
    | refl => exact ⟨hawait, hidle, by simp⟩
    | step _ hkeeps hstep ih =>
        obtain ⟨hother, hnone⟩ := IceSess.answer_step ih.1 ih.2.1 hstep
        refine ⟨hother ?_, IceSess.inEstab_step ih.2.1 hstep, ?_⟩
        · cases ‹IceAct› <;> simp_all [IceSess.keepsAnswer, IceAct.isUpdateh]
        · simpa using ⟨ih.2.2, hnone.mpr hkeeps⟩
  constructor
  · induction hsteps with
    | refl => exact fun _ => .refl
    | step _ _ hstep ih =>
        intro hnone
        rw [Trace.outs_append, Trace.outs_singleton, List.mem_append, not_or] at hnone
        have hprev := ih hnone.1
        obtain ⟨hawait', hidle', -⟩ := hkept hprev
        exact hprev.step ((IceSess.answer_step hawait' hidle' hstep).2.mp hnone.2) hstep
  · exact fun h => (hkept h).2.2

/-- The gather of a restart reports, and its offer goes out. -/
theorem restart_awaits_answer_offered :
    ∃ (r r' s : IceSess) (t : Trace IceAct IceOut) (act : IceAct) (os : List IceOut),
      (iceSystem configInit).step r act = some (r', os) ∧ .restart .unset ∈ os ∧
        (iceSystem configInit).Steps Machine.Always r' t s ∧ .estab false ∈ t.outs ∧
        .update ∉ t.outs := by
  obtain ⟨s, t, hrun, hend⟩ := Machine.exists_run_of_exec (M := iceSystem configInit)
    IceSess.keepsAnswer ⟨0, rfl⟩
    [.mediah .gathered, .estab false .gathered, .restart .unset .gathered, .elapse 100,
      .estab false .gathered]
    (fun _ t => t[2]?.any (fun p : IceAct × List IceOut => decide (.restart .unset ∈ p.2)) &&
      decide (IceOut.estab false ∈ Trace.outs (t.drop 3)))
    (by decide +kernel)
  simp only [Bool.and_eq_true, decide_eq_true_eq, Option.any_eq_true] at hend
  obtain ⟨⟨p, hp, hrestart⟩, hoffered⟩ := hend
  obtain ⟨r, r', hr, -, hstep, hsteps⟩ := hrun.at_index hp
  have hall := hsteps.mono (D := Machine.Always) fun _ _ _ => trivial
  exact ⟨r, r', s, _, p.1, p.2, hstep, hrestart, hall, hoffered,
    (restart_awaits_answer hr.always hstep hrestart hall).mpr hsteps⟩

/-- The peer re-INVITEs while the restart still gathers, before there is an offer it could answer. -/
theorem reinvite_in_gather :
    ¬ ∀ (g : Cfg) (r r' s : IceSess) (u t : Trace IceAct IceOut) (act : IceAct) (os : List IceOut)
      (laddr : Sa), (iceSystem g).Run Machine.Always r u →
        (iceSystem g).step r act = some (r', os) → .restart laddr ∈ os →
        (iceSystem g).Steps Machine.Always r' t s → .estab false ∉ t.outs → .update ∉ t.outs := by
  intro h
  obtain ⟨s, t, hrun, hend⟩ := Machine.exists_run_of_exec (M := iceSystem configInit)
    (fun _ _ => true) ⟨0, rfl⟩
    [.mediah .gathered, .estab false .gathered, .updateh .gathered, .restart .unset .gathered,
      .updateh .gathered]
    (fun _ t => t[3]?.any (fun p : IceAct × List IceOut => decide (.restart .unset ∈ p.2)) &&
      decide (Trace.outs (t.drop 4) = [.update]))
    (by decide +kernel)
  simp only [Bool.and_eq_true, decide_eq_true_eq, Option.any_eq_true] at hend
  obtain ⟨⟨p, hp, hrestart⟩, houts⟩ := hend
  obtain ⟨r, r', hr, -, hstep, hsteps⟩ := hrun.always.at_index hp
  exact h configInit r r' s _ _ p.1 p.2 .unset hr hstep hrestart hsteps (by simp [houts])
    (by simp [houts])

/-- **The peer cannot make a storm of restarts.** Those run in answer to its credentials number at most two
over the life of a session. While a restart gathers or is queued, no update queues another or pays for one.
The first update from outside the estab handler after a restart queues none, whatever credentials it
carries. -/
theorem ice_restarts_bounded {g : Cfg} {s : IceSess} {t : Trace IceAct IceOut}
    (hrun : (iceSystem g).Run Machine.Always s t) :
    (t.countP fun p => p.1.isRrestart) ≤ iceMaxRemoteRestarts ∧
    (∀ (r : IceSess) (env : IceEnv), r.restarting = true ∨ r.tmrRrestart.isRunning = true →
      (r.updateh env).rrestarts = r.rrestarts ∧ (r.updateh env).tmrRrestart = r.tmrRrestart ∧
        ∃ os, (r.updateh env).out = r.out ++ os ∧ ∀ laddr, .restart laddr ∉ os) ∧
    (∀ (before after : Trace IceAct IceOut) (act : IceAct) (os : List IceOut) (laddr : Sa),
      t = before ++ (act, os) :: after → .restart laddr ∈ os →
      (∀ p ∈ after, p.1.isUpdateh = false) →
      ∀ (env : IceEnv) (s' : IceSess) (os' : List IceOut),
        (iceSystem g).step s (.updateh env) = some (s', os') →
        s'.rrestarts = s.rrestarts ∧ s'.tmrRrestart = s.tmrRrestart ∧
          ∀ laddr, .restart laddr ∉ os') := by
  refine ⟨?_, fun r env hunder => ?_, ?_⟩
  · obtain ⟨hpaid, hle⟩ := IceSess.rrestarts_paid hrun
    omega
  · obtain ⟨hcount, htmr⟩ := @IceSess.updateh_underWay env r hunder
    have hquiet : IceSess.Quiet r (r.updateh env) := .updateh .refl
    obtain ⟨os, hos, hall⟩ := hquiet.out
    exact ⟨hcount, htmr, os, hos, fun laddr h => absurd (hall _ h) (by simp [IceOut.isQuiet])⟩
  · rintro before after act os laddr rfl hrestart hother env s' os' hanswer
    obtain ⟨r, r', hr, -, hstep, hsteps⟩ := hrun.at_step
    obtain ⟨hawait, hidle⟩ := IceSess.awaitAnswer_since
      (IceSess.awaitAnswer_restarted hstep hrestart)
      (IceSess.inEstab_step (IceSess.inEstab_run hr) hstep) (hsteps.of_trace hother)
    obtain ⟨hcount, htmr, hquiet⟩ := IceSess.answer_budget hawait hidle hanswer
    exact ⟨hcount, htmr, fun laddr h => absurd (hquiet _ h) (by simp [IceOut.isQuiet])⟩

/-- The same network, where the peer has other credentials. -/
def IceEnv.renewed (ufrag : CStr) : IceEnv :=
  { IceEnv.gathered with sdp := fun i => { IceEnv.gathered.sdp i with ufrag } }

/-- The peer restarts, is answered with a restart, and restarts again while that one gathers. -/
theorem ice_restarts_bounded_again :
    ∃ (s : IceSess) (t : Trace IceAct IceOut), (t.countP fun p => p.1.isRrestart) = 1 ∧
      s.restarting = true ∧ s.rrestarts = 1 ∧
      (s.updateh (.renewed "ijkl".toList)).rrestarts = 1 := by
  obtain ⟨s, t, hrun, hend⟩ := Machine.exists_run_of_exec (M := iceSystem configInit)
    (fun _ _ => true) ⟨0, rfl⟩
    [.mediah .gathered, .estab false .gathered, .updateh .gathered,
      .updateh (.renewed "efgh".toList), .rrestart (.renewed "efgh".toList)]
    (fun s t => decide ((t.countP fun p => p.1.isRrestart) = 1) && s.restarting &&
      decide (s.rrestarts = 1))
    (by decide +kernel)
  simp only [Bool.and_eq_true, decide_eq_true_eq] at hend
  obtain ⟨⟨hcount, hrestarting⟩, hpaid⟩ := hend
  obtain ⟨-, hunder, -⟩ := ice_restarts_bounded hrun.always
  exact ⟨s, t, hcount, hrestarting, hpaid, (hunder s _ (.inl hrestarting)).1.trans hpaid⟩

end VoxSdk
