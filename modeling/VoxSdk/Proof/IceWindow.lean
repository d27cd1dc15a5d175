import VoxSdk.IceShim

/-!
# An ICE restart and the offers of the generation before

From the restart on, the SDP holds new credentials and no candidates until the new gather reports or its
deadline passes, so no offer may go out in between. `vox_ice_restart` clears the flags of the generation it
replaces, but leaves `tmr_reoffer` running, and an address ICE concludes on is offered at once.
-/

namespace VoxSdk

open Reactive

/-- Reads what the shim has done, and rejects an offer while a restart is under way. -/
def windowMonitor : Monitor Bool IceOut where
  start := false
  next
    | _, .restart _ => some true
    | _, .gatherOver => some false
    | true, .estab _ => none
    | false, .estab _ => some false
    | q, .connected .. => some q
    | q, .update => some q

/-- A restart is under way: none of what has happened since has ended it. -/
def RestartOpen (os : List IceOut) : Prop :=
  ∃ before laddr since, os = before ++ .restart laddr :: since ∧ .gatherOver ∉ since

/-- No offer goes out, and no failure is reported, while a restart is under way. -/
def OfferWaits (os : List IceOut) : Prop :=
  ∀ before failure after, os = before ++ .estab failure :: after → ¬RestartOpen before

theorem restartOpen_append {os : List IceOut} {o : IceOut} :
    RestartOpen (os ++ [o]) ↔
      (∃ laddr, o = .restart laddr) ∨ (o ≠ .gatherOver ∧ RestartOpen os) := by
  constructor
  · rintro ⟨before, laddr, since, hos, hsince⟩
    rcases List.eq_nil_or_concat since with rfl | ⟨since, p, rfl⟩
    · exact .inl ⟨laddr, List.singleton_inj.mp (List.append_inj' hos rfl).2⟩
    · rw [List.concat_eq_append, ← List.cons_append, ← List.append_assoc] at hos
      obtain ⟨rfl, hp⟩ := List.append_inj' hos rfl
      obtain rfl := List.singleton_inj.mp hp
      simp only [List.concat_eq_append, List.mem_append, List.mem_singleton, not_or] at hsince
      exact .inr ⟨Ne.symm hsince.2, before, laddr, since, rfl, hsince.1⟩
  · rintro (⟨laddr, rfl⟩ | ⟨hne, before, laddr, since, rfl, hsince⟩)
    · exact ⟨os, laddr, [], rfl, by simp⟩
    · refine ⟨before, laddr, since ++ [o], by simp, ?_⟩
      simpa [hsince] using Ne.symm hne

theorem offerWaits_append {os : List IceOut} {o : IceOut} :
    OfferWaits (os ++ [o]) ↔
      OfferWaits os ∧ ((∃ failure, o = .estab failure) → ¬RestartOpen os) := by
  constructor
  · intro h
    refine ⟨fun before failure after hos => ?_, ?_⟩
    · exact h before failure (after ++ [o]) (by simp [hos])
    · rintro ⟨failure, rfl⟩
      exact h os failure [] rfl
  · rintro ⟨hos, hlast⟩ before failure after happ
    rcases List.eq_nil_or_concat after with rfl | ⟨after, p, rfl⟩
    · obtain ⟨rfl, ho⟩ := List.append_inj' happ rfl
      exact hlast ⟨failure, List.singleton_inj.mp ho⟩
    · rw [List.concat_eq_append, ← List.cons_append, ← List.append_assoc] at happ
      obtain ⟨rfl, -⟩ := List.append_inj' happ rfl
      exact hos before failure after rfl

open Classical in
/-- The monitor rejects exactly the offers that do not wait. -/
theorem windowMonitor_read (os : List IceOut) :
    windowMonitor.read false os =
      if OfferWaits os then some (decide (RestartOpen os)) else none := by
  induction os using List.reverseRecOn with
  | nil =>
      have hwaits : OfferWaits [] := fun before failure after h => by simp at h
      have hopen : ¬RestartOpen [] := fun ⟨_, _, _, h, _⟩ => by simp at h
      simp [hwaits, hopen]
  | append_singleton os o ih =>
      rw [Monitor.read_append, ih, offerWaits_append, restartOpen_append]
      by_cases hwaits : OfferWaits os
      · by_cases hopen : RestartOpen os <;> cases o <;> simp [hwaits, hopen, windowMonitor]
      · simp [hwaits]

/-- Neither an offer nor anything about a restart. -/
def IceOut.isQuiet : IceOut → Bool
  | .connected .. | .update => true
  | _ => false

theorem windowMonitor_next_quiet {q : Bool} {o : IceOut} (h : o.isQuiet = true) :
    windowMonitor.next q o = some q := by
  cases o with
  | connected _ _ _ | update => cases q <;> rfl
  | restart _ | gatherOver | estab _ => cases h

theorem windowMonitor_read_quiet {q : Bool} {os : List IceOut} (h : ∀ o ∈ os, o.isQuiet = true) :
    windowMonitor.read q os = some q := by
  induction os with
  | nil => rfl
  | cons o os ih =>
      rw [Monitor.read_cons, windowMonitor_next_quiet (h o List.mem_cons_self), Option.bind_some]
      exact ih fun o ho => h o (List.mem_cons_of_mem _ ho)

namespace IceSess

variable {g : Cfg} {env : IceEnv} {s s' s'' : IceSess} {q : Bool}

/-- What the monitor makes of the handler so far, having started from `q`. -/
def window (q : Bool) (s : IceSess) : Option Bool := windowMonitor.read q s.out

/-- The second session is the first after work without an offer or a restart. -/
structure Quiet (s s' : IceSess) : Prop where
  restarting : s'.restarting = s.restarting
  out : ∃ os, s'.out = s.out ++ os ∧ ∀ o ∈ os, o.isQuiet = true

theorem Quiet.refl : Quiet s s := ⟨rfl, [], by simp, by simp⟩

theorem Quiet.update (h : Quiet s s') (hrestarting : s''.restarting = s'.restarting)
    (hout : s''.out = s'.out) : Quiet s s'' := by
  obtain ⟨os, hos, hall⟩ := h.out
  exact ⟨hrestarting.trans h.restarting, os, hout.trans hos, hall⟩

theorem Quiet.append (h : Quiet s s') {os : List IceOut} (hquiet : ∀ o ∈ os, o.isQuiet = true)
    (hrestarting : s''.restarting = s'.restarting)
    (hout : s''.out = s'.out ++ os) : Quiet s s'' := by
  obtain ⟨os', hos', hall⟩ := h.out
  refine ⟨hrestarting.trans h.restarting, os' ++ os, by rw [hout, hos', List.append_assoc], ?_⟩
  intro o ho
  rcases List.mem_append.mp ho with ho | ho
  · exact hall o ho
  · exact hquiet o ho

theorem Quiet.emit (h : Quiet s s') {o : IceOut} (ho : o.isQuiet = true) : Quiet s (s'.emit o) :=
  have hsingle : ∀ p ∈ [o], p.isQuiet = true := by simpa using ho
  h.append hsingle rfl rfl

theorem Quiet.window (h : Quiet s s') (q : Bool) : s'.window q = s.window q := by
  obtain ⟨os, hos, hall⟩ := h.out
  rw [IceSess.window, hos, Monitor.read_append]
  cases hread : windowMonitor.read q s.out with
  | none => exact hread.symm
  | some r => exact (windowMonitor_read_quiet hall).trans hread.symm

/-- All `reassert_selected` does is call connected handlers. -/
theorem out_reassertSelected :
    ∃ os, (s.reassertSelected env).out = s.out ++ os ∧
      ∀ o ∈ os, ∃ i raddr1 raddr2, o = .connected i raddr1 raddr2 := by
  refine ⟨_, rfl, fun o ho => ?_⟩
  obtain ⟨p, hp, ho⟩ := List.mem_flatMap.mp ho
  obtain ⟨i, hi, rfl⟩ := List.mem_mapIdx.mp hp
  simp only [IceMedia.reassert] at ho
  split at ho
  · cases ho
  · split at ho
    · exact ⟨i, _, _, List.mem_singleton.mp ho⟩
    · split at ho
      · cases ho
      · exact ⟨i, _, _, List.mem_singleton.mp ho⟩

theorem Quiet.reassertSelected (h : Quiet s s') : Quiet s (s'.reassertSelected env) := by
  obtain ⟨os, hos, hall⟩ := @out_reassertSelected env s'
  refine h.append (fun o ho => ?_) rfl hos
  obtain ⟨i, raddr1, raddr2, rfl⟩ := hall o ho
  rfl

theorem Quiet.peerRestarted (h : Quiet s s') : Quiet s s'.peerRestarted := by
  unfold IceSess.peerRestarted
  simp only
  split
  · exact h.update rfl rfl
  · split <;> exact h.update rfl rfl

theorem Quiet.updated (h : Quiet s s') : Quiet s (s'.updated env) := by
  unfold IceSess.updated
  simp only
  split
  · exact h.update rfl rfl
  · split
    · exact .peerRestarted (h.update rfl rfl)
    · exact .reassertSelected (h.update rfl rfl)

theorem Quiet.updateh (h : Quiet s s') : Quiet s (s'.updateh env) := by
  have hseen : Quiet s (s'.emit .update) := h.emit rfl
  unfold IceSess.updateh
  split
  · exact h.reassertSelected
  · exact hseen.updated

theorem Quiet.primeConncheck (h : Quiet s s') : Quiet s (s'.primeConncheck env) := by
  unfold IceSess.primeConncheck
  split
  · exact h
  · split
    · exact h
    · have hprimed : Quiet s { s' with primed := true } := h.update rfl rfl
      exact (hprimed.emit (o := .update) rfl).update rfl rfl

theorem window_emit (o : IceOut) :
    (s.emit o).window q = (s.window q).bind fun r => windowMonitor.next r o := by
  rw [window, emit, Monitor.read_append]
  simp [window]

/-- All the monitor sees of a release is the offer. -/
theorem Quiet.estabRelease : Quiet (s.emit (.estab false)) (s.estabRelease env) := by
  have hoffer : Quiet (s.emit (.estab false)) (({ s with inEstab := true }).emit (.estab false)) :=
    .update .refl rfl rfl
  unfold IceSess.estabRelease
  simp only
  split
  · exact hoffer.updateh.update rfl rfl
  · exact hoffer.update rfl rfl

/-- What the monitor is to make of a handler that leaves the session as it does. -/
def Follows (q : Bool) (s : IceSess) : Prop := s.window q = some s.restarting

/-- The same of a handler that is rejected unless it keeps the window. -/
def Waits (q keeps : Bool) (s : IceSess) : Prop :=
  s.window q = if keeps then some s.restarting else none

theorem Follows.waits (h : s.Follows q) {keeps : Bool} (hkeeps : keeps = true) : s.Waits q keeps :=
  h.trans (if_pos hkeeps).symm

/-- An offer goes through exactly if no restart is under way. -/
theorem Follows.estabRelease (h : s.Follows q) : (s.estabRelease env).Waits q (!s.restarting) := by
  have hquiet : Quiet (s.emit (.estab false)) (s.estabRelease env) := .estabRelease
  have hwindow := (hquiet.window q).trans (window_emit _)
  rw [h] at hwindow
  refine hwindow.trans ?_
  rw [hquiet.restarting]
  change windowMonitor.next s.restarting (.estab false) =
    if !s.restarting then some s.restarting else none
  cases s.restarting <;> rfl

theorem Follows.quiet (h : s.Follows q) (hquiet : Quiet s s') : s'.Follows q := by
  rw [Follows, hquiet.window, h, hquiet.restarting]

/-- Once the gather is over, whatever was under way before, an offer may go out. -/
theorem Follows.gatherOver (h : s.Follows q) :
    (s.emit .gatherOver).window q = some false := by
  rw [window_emit, h]
  rfl

theorem follows_offer (h : s.window q = some false) : (s.offer env).Follows q := by
  have hover : Follows q { s.rebaseSignalled env with restarting := false, released := true } := h
  have hrelease : Follows q (estabRelease env
      { s.rebaseSignalled env with restarting := false, released := true }) := hover.estabRelease
  exact hrelease.quiet (.primeConncheck .refl)

theorem follows_estabFail (h : s.window q = some false) (hidle : s.restarting = false) :
    s.estabFail.Follows q := by
  have hfail := window_emit (q := q) (s := s) (.estab true)
  rw [h] at hfail
  exact hfail.trans (congrArg some hidle.symm)

theorem Follows.estab (h : s.Follows q) (failure : Bool) : (s.estab env failure).Follows q := by
  have hover : (({ s with tmr := none }).emit .gatherOver).window q = some false :=
    Follows.gatherOver (s := { s with tmr := none }) h
  simp only [IceSess.estab]
  split
  · exact follows_offer hover
  · split
    · exact hover
    · split
      · exact follows_offer hover
      · rename_i hidle
        exact follows_estabFail hover (by simpa using hidle)

theorem Follows.gatherDeadline (h : s.Follows q) : (s.gatherDeadline env).Follows q := by
  simp only [IceSess.gatherDeadline]
  split
  · exact h
  · have hover : Follows q { s.emit .gatherOver with restarting := false, released := true } :=
      h.gatherOver
    exact hover.estabRelease

theorem Follows.restart (h : s.Follows q) (laddr : Sa) : (s.restart g env laddr).2.Follows q := by
  unfold IceSess.restart
  split
  · exact h
  · split
    · exact h
    · split
      · exact h
      · have hopen := window_emit (q := q) (s := s) (.restart laddr)
        rw [h] at hopen
        exact hopen.trans (by cases s.restarting <;> rfl)

/-- Concluding on the stream's address releases an offer then and there. -/
def offersCandidate (s : IceSess) (env : IceEnv) (media : Nat) : Bool :=
  (s.medial[media]?).any fun m =>
    !env.incoming && m.neverSignalled (env.sdp media) && !s.reoffered && !s.awaitingSecure env

/-- The steps that release no offer while a restart is under way. -/
def keepsWindow (s : IceSess) : IceAct → Bool
  | .reofferDeadline env => !s.restarting || s.awaitingSecure env
  | .connected media _ _ env => !s.restarting || !s.offersCandidate env media
  | _ => true

theorem Follows.reofferRelease (h : s.Follows q) :
    (s.reofferRelease env).Waits q (!s.restarting) :=
  Follows.estabRelease (s := { s with tmrReoffer := none }) h

theorem Follows.reofferDeadline (h : s.Follows q) :
    (s.reofferDeadline env).Waits q (!s.restarting || s.awaitingSecure env) := by
  unfold IceSess.reofferDeadline
  cases hsecure : s.awaitingSecure env with
  | true =>
      refine Follows.waits ?_ (Bool.or_true _)
      rw [if_pos rfl]
      split <;> exact h
  | false =>
      rw [Bool.or_false]
      exact h.reofferRelease

theorem Follows.reofferCandidate (h : s.Follows q) :
    (s.reofferCandidate env).Waits q
      (!s.restarting || !(!s.reoffered && !s.awaitingSecure env)) := by
  unfold IceSess.reofferCandidate
  split
  · rename_i hdone
    exact h.waits (by simp [hdone])
  · rename_i hfirst
    simp only
    split
    · rename_i hsecure
      exact Follows.waits (s := { s with reoffered := true, reofferDue := _, tmrReoffer := _ }) h
        (by simp [show s.awaitingSecure env = true from hsecure])
    · rename_i hsecure
      have hsecure : s.awaitingSecure env = false := Bool.eq_false_iff.mpr hsecure
      have hfirst : s.reoffered = false := Bool.eq_false_iff.mpr hfirst
      simp only [hfirst, hsecure, Bool.not_false, Bool.and_self, Bool.not_true, Bool.or_false]
      exact Follows.reofferRelease (s := { s with reoffered := true }) h

theorem neverSignalled_select {m : IceMedia} {sdp : MediaSdp} (raddr1 : SaPort)
    (raddr2 : Option SaPort) :
    (m.select raddr1 raddr2 sdp).neverSignalled sdp = m.neverSignalled sdp := by
  unfold IceMedia.select
  split <;> rfl

theorem Follows.connected (h : s.Follows q) (media : Nat) (raddr1 : SaPort)
    (raddr2 : Option SaPort) :
    (s.connected env media raddr1 raddr2).Waits q
      (!s.restarting || !s.offersCandidate env media) := by
  unfold IceSess.connected offersCandidate
  cases hmedia : s.medial[media]? with
  | none => exact h.waits (Bool.or_true _)
  | some m =>
      simp only [Option.any_some, neverSignalled_select]
      split
      · rename_i hincoming
        exact Follows.waits (s := { s with medial := _ }) h (by simp [hincoming])
      · rename_i hincoming
        have hnotified (ms : List IceMedia) :
            (({ s with medial := ms }).emit (.connected media raddr1 raddr2)).Follows q :=
          have hselected : Quiet s { s with medial := ms } := .update .refl rfl rfl
          h.quiet (hselected.emit rfl)
        split
        · rename_i hnever
          have hcandidate : Waits q _ (IceSess.reofferCandidate env _) := (hnotified (s.medial.set media
            (m.select raddr1 raddr2 (env.sdp media)))).reofferCandidate
          have hsecure (ms : List IceMedia) (hlen : ms.length = s.medial.length) :
              (({ s with medial := ms }).emit (.connected media raddr1 raddr2)).awaitingSecure env =
                s.awaitingSecure env := by
            simp only [awaitingSecure, emit, hlen]
          rw [hsecure _ List.length_set] at hcandidate
          simp only [Bool.eq_false_iff.mpr hincoming, hnever, Bool.not_false, Bool.true_and]
          exact hcandidate
        · rename_i hsignalled
          exact (hnotified _).waits (by simp [hsignalled])

theorem window_step {act : IceAct} {os : List IceOut}
    (hstep : (iceSystem g).step s act = some (s', os)) :
    windowMonitor.read s.restarting os =
      if s.keepsWindow act then some s'.restarting else none := by
  simp only [iceSystem] at hstep
  split at hstep
  · cases hstep
    have hidle : Follows s.restarting s.idle := rfl
    cases act with
    | mediah env => exact hidle.quiet (.update .refl rfl rfl)
    | estab failure env => exact hidle.estab failure
    | gatherDeadline env => exact Follows.gatherDeadline (s := { s.idle with tmr := none }) hidle
    | reofferDeadline env =>
        exact Follows.reofferDeadline (s := { s.idle with tmrReoffer := none }) hidle
    | connected media raddr1 raddr2 env => exact hidle.connected media raddr1 raddr2
    | updateh env => exact hidle.quiet (.updateh .refl)
    | restart laddr env => exact hidle.restart laddr
    | rrestart env => exact Follows.restart (s := { s.idle with tmrRrestart := none }) hidle .unset
    | elapse ms => exact hidle
  · cases hstep

end IceSess

/-- In a run that meets the condition the monitor follows the flag. -/
theorem ice_window_followed {g : Cfg} {s : IceSess} {t : Trace IceAct IceOut}
    (hrun : (iceSystem g).Run (fun s act => s.keepsWindow act) s t) :
    windowMonitor.read false t.outs = some s.restarting := by
  have hinit (s : IceSess) (h : (iceSystem g).init s) : windowMonitor.start = s.restarting := by
    obtain ⟨now, rfl⟩ := h
    rfl
  have hstep (s : IceSess) (q : Bool) (act : IceAct) (s' : IceSess) (os : List IceOut)
      (hq : q = s.restarting) (hkeeps : s.keepsWindow act = true)
      (hstep : (iceSystem g).step s act = some (s', os)) :
      ∃ q', windowMonitor.read q os = some q' ∧ q' = s'.restarting :=
    ⟨s'.restarting, hq ▸ (IceSess.window_step hstep).trans (if_pos hkeeps), rfl⟩
  obtain ⟨q, hread, rfl⟩ := hrun.accepted id (fun _ _ => rfl) hinit hstep
  exact hread

/-- **An offer waits for its own gather.** Over a run, baresip's estab handler is never called while a
restart is under way, exactly if no step releases a held offer, or offers an address ICE has just
concluded on, while one is. -/
theorem ice_offer_waits {g : Cfg} {s : IceSess} {t : Trace IceAct IceOut}
    (hrun : (iceSystem g).Run Machine.Always s t) :
    OfferWaits t.outs ↔ (iceSystem g).Run (fun s act => s.keepsWindow act) s t := by
  classical
  have hread (os : List IceOut) : windowMonitor.read false os ≠ none ↔ OfferWaits os := by
    rw [windowMonitor_read]
    split <;> simp [*]
  rw [← hread]
  constructor
  · induction hrun with
    | start h => exact fun _ => .start h
    | step _ _ hstep ih =>
        rename_i s s' t act os
        intro hwaits
        rw [Trace.outs_append, Trace.outs_singleton, Monitor.read_append] at hwaits
        have hprev := ih fun hnone => hwaits (by rw [hnone]; rfl)
        refine hprev.step ?_ hstep
        -- from here on the run meets the condition, so the flag is what the monitor knows
        rw [ice_window_followed hprev, Option.bind_some, IceSess.window_step hstep] at hwaits
        by_contra hkeeps
        exact hwaits (if_neg hkeeps)
  · intro hkeeps
    rw [ice_window_followed hkeeps]
    exact Option.some_ne_none _

/-- One stream whose address ICE has changed since, with a handshake under way or not. -/
def IceEnv.moved (secure : Bool) : IceEnv :=
  { sdp := fun _ =>
      { laddr := .v4 0xc6336407
        raddr := { addr := .v4 0xc6336401, port := 4000 }
        ufrag := "abcd".toList
        fingerprint := true }
    sessionLaddr := .v4 0xc0000207
    secure := [secure]
    incoming := false
    modify := true
    sessh := none }

/-- The network of `moved` before ICE has concluded. -/
def IceEnv.gathered : IceEnv :=
  { IceEnv.moved false with
    sdp := fun i => { (IceEnv.moved false).sdp i with laddr := .v4 0xc0000207 } }

/-- A held offer released before the restart, and none during it. -/
theorem ice_offer_waits_released :
    ∃ (s : IceSess) (t : Trace IceAct IceOut), s.restarting = false ∧ OfferWaits t.outs ∧
      .restart .unset ∈ t.outs ∧ t.outs.count (.estab false) = 3 := by
  obtain ⟨s, t, hrun, hend⟩ := Machine.exists_run_of_exec (M := iceSystem configInit)
    IceSess.keepsWindow ⟨0, rfl⟩
    [.mediah .gathered, .estab false .gathered,
      .connected 0 { addr := .v4 0xc6336401, port := 4000 } none (.moved false), .elapse 50,
      .reofferDeadline (.moved true), .restart .unset (.moved true), .estab false (.moved true)]
    (fun s t => !s.restarting && decide (.restart .unset ∈ t.outs) &&
      decide (t.outs.count (.estab false) = 3))
    (by decide +kernel)
  simp only [Bool.and_eq_true, Bool.not_eq_true', decide_eq_true_eq] at hend
  obtain ⟨⟨hover, hrestart⟩, hcount⟩ := hend
  exact ⟨s, t, hover, (ice_offer_waits hrun.always).mpr hrun, hrestart, hcount⟩

/-- The handshake lands during the restart, and the offer held for it goes out. -/
theorem held_offer_in_restart :
    ¬ ∀ (g : Cfg) (s : IceSess) (t : Trace IceAct IceOut),
      (iceSystem g).Run Machine.Always s t → OfferWaits t.outs := by
  intro h
  obtain ⟨s, t, hrun, hend⟩ := Machine.exists_run_of_exec (M := iceSystem configInit)
    (fun _ _ => true) ⟨0, rfl⟩
    [.mediah .gathered, .estab false .gathered,
      .connected 0 { addr := .v4 0xc6336401, port := 4000 } none (.moved false),
      .restart .unset (.moved false), .elapse 50, .reofferDeadline (.moved true)]
    (fun _ t => decide (t.outs =
      [.gatherOver, .estab false, .update,
        .connected 0 { addr := .v4 0xc6336401, port := 4000 } none, .restart .unset,
        .estab false]))
    (by decide +kernel)
  have houts := of_decide_eq_true hend
  let before : List IceOut :=
    [.gatherOver, .estab false, .update,
      .connected 0 { addr := .v4 0xc6336401, port := 4000 } none]
  refine h configInit s t hrun.always (before ++ [.restart .unset]) false [] houts ?_
  exact ⟨before, .unset, [], rfl, by simp⟩

end VoxSdk
