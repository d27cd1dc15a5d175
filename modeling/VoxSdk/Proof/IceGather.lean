import VoxSdk.Proof.IceWindow

/-!
# The gather of an ICE session

`released`, `restarting` and the deadline are written on six paths. What a step can do to them is said
once, in `GatherStep`; that a failure only travels while the first offer is owed, and that a restart under
way has its deadline armed, are read off it.
-/

namespace VoxSdk

open Reactive

/-- Neither a restart, nor the end of a gather, nor a failure. -/
def IceOut.isBeside : IceOut → Bool
  | .connected .. | .update | .estab false => true
  | _ => false

theorem IceOut.isBeside_of_isQuiet {o : IceOut} (h : o.isQuiet = true) : o.isBeside = true := by
  cases o with
  | connected _ _ _ | update => rfl
  | restart _ | gatherOver | estab _ => cases h

/-- How long a restart may gather. -/
def restartDeadline (g : Cfg) : Nat :=
  if g.iceGatheringTimeoutMs = 0 then iceRestartDeadlineMs else g.iceGatheringTimeoutMs

namespace IceSess

variable {g : Cfg} {env : IceEnv} {s s' s'' : IceSess}

/-- The second session is the first after work beside its gather. -/
structure SameGather (s s' : IceSess) : Prop where
  restarting : s'.restarting = s.restarting
  released : s'.released = s.released
  tmr : s'.tmr = s.tmr
  gone : s'.gone = s.gone
  now : s.now ≤ s'.now

theorem SameGather.trans (h : SameGather s s') (h' : SameGather s' s'') : SameGather s s'' :=
  ⟨h'.restarting.trans h.restarting, h'.released.trans h.released, h'.tmr.trans h.tmr,
    h'.gone.trans h.gone, h.now.trans h'.now⟩

theorem sameGather_updateh : SameGather s (s.updateh env) := by
  unfold updateh updated peerRestarted
  simp only
  repeat' split
  all_goals exact ⟨rfl, rfl, rfl, rfl, le_rfl⟩

theorem sameGather_estabRelease : SameGather s (s.estabRelease env) := by
  have hoffered : SameGather s (({ s with inEstab := true }).emit (.estab false)) :=
    ⟨rfl, rfl, rfl, rfl, le_rfl⟩
  unfold estabRelease
  simp only
  split
  · have h := hoffered.trans (@sameGather_updateh env (emit _ _))
    exact ⟨h.restarting, h.released, h.tmr, h.gone, h.now⟩
  · exact ⟨rfl, rfl, rfl, rfl, le_rfl⟩

theorem sameGather_primeConncheck : SameGather s (s.primeConncheck env) := by
  unfold primeConncheck
  repeat' split
  all_goals exact ⟨rfl, rfl, rfl, rfl, le_rfl⟩

/-- What a step can do to the gather. -/
inductive GatherStep (g : Cfg) (s : IceSess) : IceAct → IceSess → List IceOut → Prop where
  /-- The gather is left alone. -/
  | beside {act : IceAct} {s' : IceSess} {os : List IceOut} :
      SameGather s s' → (∀ o ∈ os, o.isBeside = true) → GatherStep g s act s' os
  /-- A restart gathers anew. -/
  | started {act : IceAct} {s' : IceSess} (laddr : Sa) :
      s.restarting = false → s'.restarting = true → s'.released = false →
      s'.awaitAnswer = true → s'.tmr = Timer.start s'.now (restartDeadline g) → s'.gone = s.gone →
      GatherStep g s act s' [.restart laddr]
  /-- The gather ends, and its offer goes out. -/
  | offered {act : IceAct} {s' : IceSess} {os : List IceOut} :
      s'.restarting = false → s'.released = true → s'.gone = s.gone →
      (∀ o ∈ os, o.isQuiet = true) → GatherStep g s act s' (.gatherOver :: .estab false :: os)
  /-- A failure comes too late to matter. -/
  | ignored {act : IceAct} {s' : IceSess} :
      s.released = true → s'.restarting = false → s'.released = true → s'.gone = s.gone →
      GatherStep g s act s' [.gatherOver]
  /-- The deadline of a gather whose offer has gone out already. -/
  | lapsed {act : IceAct} {s' : IceSess} :
      s.released = true → s'.restarting = s.restarting → s'.released = true → s'.gone = s.gone →
      GatherStep g s act s' []
  /-- The first gather fails before its deadline. -/
  | closed {s' : IceSess} (env : IceEnv) :
      s.released = false → s.restarting = false → s'.restarting = false → s'.released = true →
      GatherStep g s (.estab true env) s' [.gatherOver, .estab true]

/-- Work on the streams, with or without an offer, is beside the gather. -/
theorem GatherStep.of_quiet {act : IceAct} (hgather : SameGather s s') (hquiet : Quiet s.idle s') :
    GatherStep g s act s' s'.out := by
  obtain ⟨os, hos, hall⟩ := hquiet.out
  refine .beside hgather fun o ho => IceOut.isBeside_of_isQuiet (hall o ?_)
  rwa [hos] at ho

theorem GatherStep.of_release {act : IceAct} {r : IceSess} (hrestarting : r.restarting = false)
    (hreleased : r.released = true) (hgone : r.gone = s.gone) (hout : r.out = [.gatherOver])
    (hgather : SameGather r s') (hquiet : Quiet (r.emit (.estab false)) s') :
    GatherStep g s act s' s'.out := by
  obtain ⟨os, hos, hall⟩ := hquiet.out
  rw [hos, emit, hout]
  exact .offered (hgather.restarting.trans hrestarting) (hgather.released.trans hreleased)
    (hgather.gone.trans hgone) hall

theorem gatherStep_estab (failure : Bool) :
    GatherStep g s (.estab failure env) (s.idle.estab env failure) (s.idle.estab env failure).out := by
  let ended : IceSess := ({ s.idle with tmr := none }).emit .gatherOver
  have hoffer {act : IceAct} : GatherStep g s act (ended.offer env) (ended.offer env).out := by
    let ready : IceSess := { ended.rebaseSignalled env with restarting := false, released := true }
    have hquiet : Quiet (ready.emit (.estab false)) (ready.estabRelease env) := .estabRelease
    exact .of_release (r := ready) rfl rfl rfl rfl
      (sameGather_estabRelease.trans sameGather_primeConncheck) hquiet.primeConncheck
  cases failure with
  | false => exact hoffer
  | true =>
      simp only [estab, Bool.not_true, Bool.false_eq_true, if_false]
      split
      · rename_i hreleased
        exact .ignored hreleased rfl hreleased rfl
      · rename_i hreleased
        have hreleased : s.released = false := Bool.eq_false_iff.mpr hreleased
        split
        · exact hoffer
        · rename_i hrestarting
          have hrestarting : s.restarting = false := Bool.eq_false_iff.mpr hrestarting
          exact .closed env hreleased hrestarting hrestarting rfl

theorem gatherStep_gatherDeadline :
    GatherStep g s (.gatherDeadline env) (gatherDeadline env { s.idle with tmr := none })
      (gatherDeadline env { s.idle with tmr := none }).out := by
  let ready : IceSess :=
    { ({ s.idle with tmr := none }).emit .gatherOver with restarting := false, released := true }
  have hquiet : Quiet (ready.emit (.estab false)) (ready.estabRelease env) := .estabRelease
  simp only [gatherDeadline]
  split
  · rename_i hreleased
    exact .lapsed hreleased rfl hreleased rfl
  · exact .of_release (r := ready) rfl rfl rfl rfl sameGather_estabRelease hquiet

theorem gatherStep_restart {r : IceSess} {act : IceAct} (hgather : SameGather s r)
    (hout : r.out = []) (laddr : Sa) :
    GatherStep g s act (r.restart g env laddr).2 (r.restart g env laddr).2.out := by
  have hnothing : GatherStep g s act r r.out := by
    rw [hout]
    exact .beside hgather (by simp)
  unfold restart
  split
  · exact hnothing
  · split
    · exact hnothing
    · rename_i hidle
      split
      · exact hnothing
      · simp only [hout]
        exact .started laddr (hgather.restarting.symm.trans (by simpa using hidle)) rfl rfl rfl rfl
          hgather.gone

theorem gatherStep_reofferRelease {r : IceSess} {act : IceAct} (hgather : SameGather s r)
    (hquiet : Quiet s.idle r) :
    GatherStep g s act (r.reofferRelease env) (r.reofferRelease env).out := by
  let idle : IceSess := { r with tmrReoffer := none }
  have hrelease : Quiet (idle.emit (.estab false)) (idle.estabRelease env) := .estabRelease
  have hidle : SameGather r idle := ⟨rfl, rfl, rfl, rfl, le_rfl⟩
  have hsame : SameGather s (idle.estabRelease env) :=
    (hgather.trans hidle).trans sameGather_estabRelease
  obtain ⟨os, hos, hall⟩ := hquiet.out
  obtain ⟨os', hos', hall'⟩ := hrelease.out
  have hout : (r.reofferRelease env).out = os ++ ([.estab false] ++ os') := by
    rw [← List.append_assoc]
    exact hos'.trans (congrArg (· ++ [.estab false] ++ os') hos)
  refine .beside hsame fun o ho => ?_
  rw [hout] at ho
  rcases List.mem_append.mp ho with ho | ho
  · exact IceOut.isBeside_of_isQuiet (hall o ho)
  · rcases List.mem_cons.mp ho with rfl | ho
    · rfl
    · exact IceOut.isBeside_of_isQuiet (hall' o ho)

theorem gatherStep_reofferDeadline {r : IceSess} {act : IceAct} (hgather : SameGather s r)
    (hquiet : Quiet s.idle r) :
    GatherStep g s act (r.reofferDeadline env) (r.reofferDeadline env).out := by
  unfold reofferDeadline
  split
  · split
    · exact .of_quiet (hgather.trans ⟨rfl, rfl, rfl, rfl, le_rfl⟩) (hquiet.update rfl rfl)
    · exact .of_quiet hgather hquiet
  · exact gatherStep_reofferRelease hgather hquiet

theorem gatherStep_reofferCandidate {r : IceSess} {act : IceAct} (hgather : SameGather s r)
    (hquiet : Quiet s.idle r) :
    GatherStep g s act (r.reofferCandidate env) (r.reofferCandidate env).out := by
  have hsame {r' : IceSess} (h : SameGather r r') : SameGather s r' := hgather.trans h
  unfold reofferCandidate
  split
  · exact .of_quiet hgather hquiet
  · simp only
    split
    · exact .of_quiet (hsame ⟨rfl, rfl, rfl, rfl, le_rfl⟩) (hquiet.update rfl rfl)
    · exact gatherStep_reofferRelease (hsame ⟨rfl, rfl, rfl, rfl, le_rfl⟩) (hquiet.update rfl rfl)

theorem gatherStep_connected {act : IceAct} (media : Nat) (raddr1 : SaPort)
    (raddr2 : Option SaPort) :
    GatherStep g s act (s.idle.connected env media raddr1 raddr2)
      (s.idle.connected env media raddr1 raddr2).out := by
  unfold connected
  split
  · exact .of_quiet ⟨rfl, rfl, rfl, rfl, le_rfl⟩ .refl
  · simp only
    have hnotified (ms : List IceMedia) :
        Quiet s.idle (({ s.idle with medial := ms }).emit (.connected media raddr1 raddr2)) :=
      have hselected : Quiet s.idle { s.idle with medial := ms } := .update .refl rfl rfl
      hselected.emit rfl
    split
    · exact .of_quiet ⟨rfl, rfl, rfl, rfl, le_rfl⟩ (.update .refl rfl rfl)
    · split
      · exact gatherStep_reofferCandidate ⟨rfl, rfl, rfl, rfl, le_rfl⟩ (hnotified _)
      · exact .of_quiet ⟨rfl, rfl, rfl, rfl, le_rfl⟩ (hnotified _)

theorem gather_step {act : IceAct} {os : List IceOut}
    (hstep : (iceSystem g).step s act = some (s', os)) : GatherStep g s act s' os := by
  simp only [iceSystem] at hstep
  split at hstep
  · cases hstep
    cases act with
    | mediah env => exact .of_quiet ⟨rfl, rfl, rfl, rfl, le_rfl⟩ (.update .refl rfl rfl)
    | estab failure env => exact gatherStep_estab failure
    | gatherDeadline env => exact gatherStep_gatherDeadline
    | reofferDeadline env =>
        exact gatherStep_reofferDeadline ⟨rfl, rfl, rfl, rfl, le_rfl⟩ (.update .refl rfl rfl)
    | connected media raddr1 raddr2 env => exact gatherStep_connected media raddr1 raddr2
    | updateh env =>
        have hidle : SameGather s s.idle := ⟨rfl, rfl, rfl, rfl, le_rfl⟩
        exact .of_quiet (hidle.trans sameGather_updateh) (.updateh .refl)
    | restart laddr env =>
        have hidle : SameGather s s.idle := ⟨rfl, rfl, rfl, rfl, le_rfl⟩
        exact gatherStep_restart hidle rfl laddr
    | rrestart env =>
        have hfired : SameGather s { s.idle with tmrRrestart := none } := ⟨rfl, rfl, rfl, rfl, le_rfl⟩
        exact gatherStep_restart hfired rfl .unset
    | elapse ms => exact .of_quiet ⟨rfl, rfl, rfl, rfl, Nat.le_add_right _ ms⟩ (.update .refl rfl rfl)
  · cases hstep

/-- A restart under way is bound to end: its deadline is armed, and what fires then is not held up by an
offer already out. -/
structure OfferBound (g : Cfg) (s : IceSess) : Prop where
  armed : s.tmr.isRunning = true
  soon : ∀ due, s.tmr = some due → due ≤ s.now + restartDeadline g
  unreleased : s.released = false
  alive : s.gone = false

theorem OfferBound.sameGather (h : OfferBound g s) (hsame : SameGather s s') : OfferBound g s' :=
  ⟨hsame.tmr ▸ h.armed,
    fun due hdue => (h.soon due (hsame.tmr ▸ hdue)).trans (Nat.add_le_add_right hsame.now _),
    hsame.released.trans h.unreleased, hsame.gone.trans h.alive⟩

/-- A step is taken only while the call is there. -/
theorem step_alive {act : IceAct} {os : List IceOut}
    (hstep : (iceSystem g).step s act = some (s', os)) : s.gone = false := by
  simp only [iceSystem] at hstep
  split at hstep
  · rename_i henabled
    cases act <;> simp_all [enabled]
  · cases hstep

theorem restarting_offerBound {t : Trace IceAct IceOut}
    (hrun : (iceSystem g).Run Machine.Always s t) (hrestarting : s.restarting = true) :
    OfferBound g s := by
  have hinit (s : IceSess) (h : (iceSystem g).init s) : s.restarting = true → OfferBound g s := by
    obtain ⟨now, rfl⟩ := h
    intro h
    cases h
  refine hrun.stateInvariant (I := fun s => s.restarting = true → OfferBound g s) hinit ?_ hrestarting
  intro s act s' os ih _ hstep hrestarting'
  cases gather_step hstep with
  | beside hsame _ => exact (ih (hsame.restarting.symm.trans hrestarting')).sameGather hsame
  | started laddr _ _ hreleased _ htmr hgone =>
      refine ⟨by rw [htmr]; rfl, fun due hdue => ?_, hreleased, hgone.trans (step_alive hstep)⟩
      rw [htmr] at hdue
      exact (Option.some.inj hdue).ge
  | offered hover _ _ _ | ignored _ hover _ _ | closed _ _ _ hover _ =>
      exact absurd (hover.symm.trans hrestarting') (by simp)
  | lapsed hreleased hsame _ _ =>
      have hbound := ih (hsame.symm.trans hrestarting')
      exact absurd (hreleased.symm.trans hbound.unreleased) (by simp)

/-- While nothing has been released and no restart is under way, nothing has been done at all. -/
theorem first_gather {t : Trace IceAct IceOut} (hrun : (iceSystem g).Run Machine.Always s t)
    (hreleased : s.released = false) (hrestarting : s.restarting = false) :
    .gatherOver ∉ t.outs ∧ ∀ laddr, .restart laddr ∉ t.outs := by
  refine hrun.invariant (I := fun s t => s.released = false → s.restarting = false →
    .gatherOver ∉ Trace.outs t ∧ ∀ laddr, .restart laddr ∉ Trace.outs t)
    (fun s _ _ _ => ⟨by simp, by simp⟩) ?_ hreleased hrestarting
  intro s t act s' os ih _ hstep hreleased' hrestarting'
  rw [Trace.outs_append, Trace.outs_singleton]
  cases gather_step hstep with
  | beside hsame hbeside =>
      obtain ⟨hover, hrestart⟩ := ih (hsame.released.symm.trans hreleased')
        (hsame.restarting.symm.trans hrestarting')
      refine ⟨fun h => ?_, fun laddr h => ?_⟩
      · exact (List.mem_append.mp h).elim hover fun h => absurd (hbeside _ h) (by simp [IceOut.isBeside])
      · exact (List.mem_append.mp h).elim (hrestart laddr) fun h =>
          absurd (hbeside _ h) (by simp [IceOut.isBeside])
  | started laddr _ hopen _ _ _ _ => exact absurd (hopen.symm.trans hrestarting') (by simp)
  | offered _ hdone _ _ | ignored _ _ hdone _ | lapsed _ _ hdone _ | closed _ _ _ _ hdone =>
      exact absurd (hdone.symm.trans hreleased') (by simp)

/-- A restart under way ends no other way than with an offer, and its deadline does not move. -/
theorem OfferBound.step {act : IceAct} {os : List IceOut} (h : OfferBound g s)
    (hrestarting : s.restarting = true) (hstep : (iceSystem g).step s act = some (s', os)) :
    (s'.restarting = true ∧ s'.tmr = s.tmr) ∨ .estab false ∈ os := by
  cases gather_step hstep with
  | beside hsame _ => exact .inl ⟨hsame.restarting.trans hrestarting, hsame.tmr⟩
  | started laddr hidle _ _ _ _ _ => exact absurd (hidle.symm.trans hrestarting) (by simp)
  | offered _ _ _ _ => exact .inr (by simp)
  | ignored hreleased _ _ _ | lapsed hreleased _ _ _ =>
      exact absurd (hreleased.symm.trans h.unreleased) (by simp)
  | closed _ _ hidle _ _ => exact absurd (hidle.symm.trans hrestarting) (by simp)

/-- The deadline releases the offer. -/
theorem OfferBound.deadline (h : OfferBound g s) (hdue : s.tmr.isDue s.now = true) (env : IceEnv) :
    ∃ s' os, (iceSystem g).step s (.gatherDeadline env) = some (s', os) ∧
      s'.restarting = false ∧ .estab false ∈ os := by
  have henabled : s.enabled (.gatherDeadline env) = true := by simp [enabled, h.alive, hdue]
  have hstep : (iceSystem g).step s (.gatherDeadline env) = _ := if_pos henabled
  refine ⟨_, _, hstep, ?_⟩
  have hunreleased : ¬({ s.idle with tmr := none } : IceSess).released = true := by
    simp [idle, h.unreleased]
  simp only [handle, gatherDeadline, if_neg hunreleased]
  let ready : IceSess :=
    { ({ s.idle with tmr := none }).emit .gatherOver with restarting := false, released := true }
  have hsame : SameGather ready (ready.estabRelease env) := sameGather_estabRelease
  have hquiet : Quiet (ready.emit (.estab false)) (ready.estabRelease env) := .estabRelease
  obtain ⟨os, hos, -⟩ := hquiet.out
  exact ⟨hsame.restarting, by rw [hos]; simp [emit]⟩

theorem restart_already {laddr : Sa} (h : (s.restart g env laddr).1 = some .already)
    (hsessh : env.sessh ≠ some .already) : s.restarting = true := by
  unfold restart at h
  split at h
  · cases h
  · split at h
    · assumption
    · split at h
      · rename_i err herr
        exact absurd (herr.trans h) hsessh
      · cases h

end IceSess

/-- **ICE never closes a live call, and a restart never wedges.** A failure is passed on only for the
gather a session starts with, before that or any other gather has ended. A restart under way has its
deadline armed and its offer unreleased; it ends only with an offer, at the latest when the deadline fires;
and `vox_ice_restart` answers `EALREADY` only then. -/
theorem ice_restart_settles {g : Cfg} {s : IceSess} {t : Trace IceAct IceOut}
    (hrun : (iceSystem g).Run Machine.Always s t) :
    (∀ (before after : Trace IceAct IceOut) (act : IceAct) (os : List IceOut),
      t = before ++ (act, os) :: after → .estab true ∈ os → (∃ env, act = .estab true env) ∧
        .gatherOver ∉ before.outs ∧ ∀ laddr, .restart laddr ∉ before.outs) ∧
    (s.restarting = true → s.OfferBound g) ∧
    (s.restarting = true → ∀ act s' os, (iceSystem g).step s act = some (s', os) →
      (s'.restarting = true ∧ s'.tmr = s.tmr) ∨ .estab false ∈ os) ∧
    (s.restarting = true → s.tmr.isDue s.now = true → ∀ env, ∃ s' os,
      (iceSystem g).step s (.gatherDeadline env) = some (s', os) ∧ s'.restarting = false ∧
        .estab false ∈ os) ∧
    (∀ env laddr, env.sessh ≠ some .already → (s.restart g env laddr).1 = some .already →
      s.restarting = true ∧ s.OfferBound g) := by
  have hbound := fun h => IceSess.restarting_offerBound hrun h
  refine ⟨?_, hbound, fun h act s' os => (hbound h).step h, fun h => (hbound h).deadline, ?_⟩
  · rintro before after act os rfl hfail
    obtain ⟨r, r', hr, -, hstep, -⟩ := hrun.at_step
    cases IceSess.gather_step hstep with
    | beside _ hbeside => exact absurd (hbeside _ hfail) (by simp [IceOut.isBeside])
    | started | ignored => simp at hfail
    | offered _ _ _ hquiet =>
        exact absurd (hquiet (.estab true) (by simpa using hfail)) (by simp [IceOut.isQuiet])
    | lapsed => cases hfail
    | closed env hreleased hidle _ _ => exact ⟨⟨env, rfl⟩, IceSess.first_gather hr hreleased hidle⟩
  · intro env laddr hsessh halready
    have hrestarting := IceSess.restart_already halready hsessh
    exact ⟨hrestarting, hbound hrestarting⟩

/-- A restart whose gather never reports, up to its deadline. -/
theorem ice_restart_settles_deadline :
    ∃ (s : IceSess) (t : Trace IceAct IceOut), .restart .unset ∈ t.outs ∧ s.OfferBound configInit ∧
      ∃ s' os, (iceSystem configInit).step s (.gatherDeadline .gathered) = some (s', os) ∧
        s'.restarting = false ∧ .estab false ∈ os := by
  obtain ⟨s, t, hrun, hend⟩ := Machine.exists_run_of_exec (M := iceSystem configInit)
    (fun _ _ => true) ⟨0, rfl⟩
    [.mediah .gathered, .estab false .gathered, .restart .unset .gathered, .elapse 3000]
    (fun s t => decide (.restart .unset ∈ t.outs) && s.restarting && s.tmr.isDue s.now)
    (by decide +kernel)
  simp only [Bool.and_eq_true, decide_eq_true_eq] at hend
  obtain ⟨⟨hrestart, hrestarting⟩, hdue⟩ := hend
  obtain ⟨-, hbound, -, hfires, -⟩ := ice_restart_settles hrun.always
  exact ⟨s, t, hrestart, hbound hrestarting, hfires hrestarting hdue .gathered⟩

end VoxSdk
