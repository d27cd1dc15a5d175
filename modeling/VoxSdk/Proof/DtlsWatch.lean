import VoxSdk.Dtls

/-!
# The watchdog of a handshake

One timer watches both components, and media that is started again. It is armed by a start that succeeds,
so a restart that does not get that far leaves nobody watching; and it is stood down by either component,
so the one that carries the audio may be left behind by the other. `keepsWatch` refuses these steps.
-/

namespace VoxSdk

open Reactive

/-- A restart by the watchdog. -/
def DtlsOut.isRestart : DtlsOut → Bool
  | .restart _ => true
  | _ => false

/-- A component that has neither socket nor association starts. -/
def DtlsEnv.starts (env : DtlsEnv) (mux : Bool) : Bool :=
  env.hasMedia && !env.rtpStart.err && (mux || !env.rtcpStart.err)

namespace DtlsMedia

variable (now : Nat) (env : DtlsEnv) (st : DtlsMedia)

/-! ### Starting -/

theorem negotiated_start (o : StartOutcome) (c : DtlsComp) : (c.start o).1.negotiated = c.negotiated := by
  unfold DtlsComp.start
  split
  · rfl
  · split <;> rfl

/-- A start has nothing to do; or fails, and only the sockets may have changed; or succeeds, says so and
arms the timer. -/
theorem mediaStart_cases :
    (st.mediaStart now env = (st, [], false) ∧ (st.started = true ∨ env.hasMedia = false)) ∨
    ∃ rtp rtcp outs, st.started = false ∧
      rtp.negotiated = st.rtp.negotiated ∧ rtcp.negotiated = st.rtcp.negotiated ∧
      (∀ o ∈ outs, ∃ rtp raddr client, o = .componentStart rtp raddr client) ∧
      (st.mediaStart now env = ({ st with rtp, rtcp }, outs, true) ∨
        ∃ raddrRtp raddrRtcp, st.mediaStart now env =
          ({ st with
              rtp, rtcp, raddrRtp, raddrRtcp
              started := true
              tmrHs := Timer.start now (handshakeMs st.hsRestarts) }, outs ++ [.started], false)) := by
  by_cases hstarted : st.started = true
  · exact .inl ⟨if_pos hstarted, .inl hstarted⟩
  · cases hmedia : env.hasMedia with
    | false => exact .inl ⟨by simp [mediaStart, hstarted, hmedia], .inr rfl⟩
    | true =>
        refine .inr ⟨(st.rtp.start env.rtpStart).1,
          (if st.mux then (st.rtcp, false) else st.rtcp.start env.rtcpStart).1,
          .componentStart true env.raddrRtp st.active ::
            if st.mux then [] else [.componentStart false env.raddrRtcp st.active],
          by simpa using hstarted, negotiated_start _ _, ?_, ?_, ?_⟩
        · split
          · rfl
          · exact negotiated_start _ _
        · intro o ho
          rcases List.mem_cons.mp ho with rfl | ho
          · exact ⟨_, _, _, rfl⟩
          · split at ho
            · cases ho
            · exact ⟨_, _, _, List.mem_singleton.mp ho⟩
        · simp only [mediaStart, hstarted, hmedia, Bool.not_true, Bool.false_eq_true, if_false]
          by_cases herr : ((st.rtp.start env.rtpStart).2 ||
              (if st.mux then (st.rtcp, false) else st.rtcp.start env.rtcpStart).2) = true
          · exact .inl (if_pos herr)
          · exact .inr ⟨_, _, if_neg herr⟩

/-- Starting leaves alone what an update has decided, and who is negotiated. -/
theorem mediaStart_frame :
    (st.mediaStart now env).1.offerer = st.offerer ∧
      (st.mediaStart now env).1.active = st.active ∧
      (st.mediaStart now env).1.hsRestarts = st.hsRestarts ∧
      (st.mediaStart now env).1.rtp.negotiated = st.rtp.negotiated := by
  rcases mediaStart_cases now env st with
    ⟨heq, -⟩ | ⟨rtp, rtcp, outs, -, hrtp, -, -, heq | ⟨raddrRtp, raddrRtcp, heq⟩⟩
  · simp [heq]
  · simp [heq, hrtp]
  · simp [heq, hrtp]

/-- A start that succeeds says so and arms the timer; any other leaves the timer as it is. -/
theorem mediaStart_started :
    ((st.mediaStart now env).1.tmrHs.isRunning = true ∧ .started ∈ (st.mediaStart now env).2.1) ∨
      ((st.mediaStart now env).1.tmrHs = st.tmrHs ∧ (st.mediaStart now env).1.started = st.started ∧
        .started ∉ (st.mediaStart now env).2.1) := by
  rcases mediaStart_cases now env st with
    ⟨heq, -⟩ | ⟨rtp, rtcp, outs, -, -, -, houts, heq | ⟨raddrRtp, raddrRtcp, heq⟩⟩
  · exact .inr (by simp [heq])
  · right
    refine ⟨by rw [heq], by rw [heq], ?_⟩
    rw [heq]
    intro hmem
    obtain ⟨_, _, _, ho⟩ := houts _ hmem
    cases ho
  · exact .inl (by simp [heq])

theorem isRestart_mediaStart : (st.mediaStart now env).2.1.countP DtlsOut.isRestart = 0 := by
  rcases mediaStart_cases now env st with
    ⟨heq, -⟩ | ⟨rtp, rtcp, outs, -, -, -, houts, hcases⟩
  · simp [heq]
  · have hnone : outs.countP DtlsOut.isRestart = 0 := by
      apply List.countP_eq_zero.mpr
      intro o ho
      obtain ⟨_, _, _, rfl⟩ := houts o ho
      simp [DtlsOut.isRestart]
    rcases hcases with heq | ⟨raddrRtp, raddrRtcp, heq⟩
    · rw [heq]
      exact hnone
    · rw [heq, List.countP_append, hnone]
      rfl

/-- After a reset the timer is running if it was, or if the start succeeds. -/
theorem tmrHs_restart (st : DtlsMedia) (active : Bool) :
    (({ st.reset.1 with active } : DtlsMedia).mediaStart now env).1.tmrHs.isRunning =
      (st.tmrHs.isRunning || env.starts st.mux) := by
  unfold mediaStart reset DtlsEnv.starts DtlsComp.start
  cases hmedia : env.hasMedia with
  | false => simp
  | true =>
      cases hmux : st.mux <;> cases hrtp : env.rtpStart.err <;> cases hrtcp : env.rtcpStart.err <;>
        simp

/-! ### One step -/

/-- As long as audio cannot flow, the deadline is running, or all restarts are spent. -/
def Watched (st : DtlsMedia) : Prop :=
  st.rtp.negotiated = false → st.tmrHs.isRunning = true ∨ st.hsRestarts = dtlsMaxRestarts

/-- The update makes a started association change its role. -/
def reverses (st : DtlsMedia) (env : DtlsEnv) : Bool :=
  match env.setup with
  | none => false
  | some rsetup => (st.offerer || env.lattrOk) && st.started && st.role rsetup != st.active

end DtlsMedia

namespace DtlsSys

open DtlsMedia

/-- The steps after which somebody is still watching: no role reversal and no restart but the last fails
to start, unless the timer runs anyway, and RTCP does not finish before RTP. -/
def keepsWatch (s : DtlsSys) : DtlsAct → Bool
  | .update _ env =>
      !s.media.reverses env || s.media.tmrHs.isRunning ||
        decide (s.media.hsRestarts = dtlsMaxRestarts) || env.starts env.mux
  | .deadline env =>
      s.media.rtp.negotiated || decide (dtlsMaxRestarts ≤ s.media.hsRestarts + 1) ||
        env.starts s.media.mux
  | .established .rtcp => s.media.rtp.negotiated || decide (s.media.hsRestarts = dtlsMaxRestarts)
  | _ => true

end DtlsSys

namespace DtlsMedia

variable (now : Nat) (env : DtlsEnv) (st : DtlsMedia)

/-- What an update does: set `mux` and no more; or start, perhaps in a new role; or, with the role reversed,
reset and start. -/
theorem update_cases :
    (st.reverses env = false ∧ (st.update now env).1 = { st with mux := env.mux } ∧
      ∀ o ∈ (st.update now env).2, ∃ active, o = .setLattr active) ∨
    ∃ said active, (∀ o ∈ said, ∃ active, o = .setLattr active) ∧
      ((st.reverses env = false ∧
          (st.update now env).1 = (({ st with mux := env.mux, active } : DtlsMedia).mediaStart now env).1 ∧
          (st.update now env).2 =
            said ++ (({ st with mux := env.mux, active } : DtlsMedia).mediaStart now env).2.1) ∨
        (st.reverses env = true ∧
          (st.update now env).1 =
            (({ ({ st with mux := env.mux } : DtlsMedia).reset.1 with active } : DtlsMedia).mediaStart
              now env).1 ∧
          (st.update now env).2 = said ++ .reset st.rtp.negotiated ::
            (({ ({ st with mux := env.mux } : DtlsMedia).reset.1 with active } : DtlsMedia).mediaStart
              now env).2.1)) := by
  unfold update reverses
  cases hsetup : env.setup with
  | none => exact .inl ⟨rfl, rfl, fun o ho => by cases ho⟩
  | some rsetup =>
      have hrole : ({ st with mux := env.mux } : DtlsMedia).role rsetup = st.role rsetup := rfl
      have hsaid : ∀ o ∈ (if st.offerer then [] else [DtlsOut.setLattr (st.role rsetup)]),
          ∃ active, o = .setLattr active := by
        intro o ho
        split at ho
        · cases ho
        · exact ⟨_, List.mem_singleton.mp ho⟩
      by_cases hfails : (!st.offerer && !env.lattrOk) = true
      · left
        have hnot : (st.offerer || env.lattrOk) = false := by simpa using hfails
        simp only [hrole, hfails, hnot, if_true, Bool.false_and]
        exact ⟨trivial, trivial, hsaid⟩
      · right
        have hok : (st.offerer || env.lattrOk) = true := by
          cases hoff : st.offerer <;> simp_all
        refine ⟨_, st.role rsetup, hsaid, ?_⟩
        simp only [hrole, hfails, hok, Bool.false_eq_true, if_false, Bool.true_and]
        cases hrev : (st.started && st.role rsetup != st.active) with
        | false => exact .inl ⟨rfl, rfl, by simp⟩
        | true => exact .inr ⟨rfl, rfl, by simp [reset]⟩

theorem update_hsRestarts :
    (st.update now env).1.hsRestarts = st.hsRestarts ∧
      (st.update now env).2.countP DtlsOut.isRestart = 0 := by
  have hnone {outs : List DtlsOut} (h : ∀ o ∈ outs, ∃ active, o = .setLattr active) :
      outs.countP DtlsOut.isRestart = 0 := by
    apply List.countP_eq_zero.mpr
    intro o ho
    obtain ⟨_, rfl⟩ := h o ho
    simp [DtlsOut.isRestart]
  rcases update_cases now env st with
    ⟨-, hst, hsaid⟩ | ⟨said, active, hsaid, ⟨-, hst, houts⟩ | ⟨-, hst, houts⟩⟩
  · rw [hst]
    exact ⟨rfl, hnone hsaid⟩
  · rw [hst, houts, List.countP_append, hnone hsaid, isRestart_mediaStart]
    exact ⟨(mediaStart_frame now env _).2.2.1, rfl⟩
  · rw [hst, houts, List.countP_append, List.countP_cons, hnone hsaid, isRestart_mediaStart]
    exact ⟨(mediaStart_frame now env _).2.2.1, rfl⟩

/-- An update that starts the media arms the timer; before the first start there is nothing to reverse. -/
theorem update_started (hfresh : st.started = false ∧ st.tmrHs = none) :
    ((st.update now env).1.tmrHs.isRunning = true ∧ .started ∈ (st.update now env).2) ∨
      ((st.update now env).1.started = false ∧ (st.update now env).1.tmrHs = none ∧
        .started ∉ (st.update now env).2) := by
  have hnone {outs : List DtlsOut} (h : ∀ o ∈ outs, ∃ active, o = .setLattr active) :
      .started ∉ outs := by
    intro hmem
    obtain ⟨_, ho⟩ := h _ hmem
    cases ho
  rcases update_cases now env st with
    ⟨-, hst, hsaid⟩ | ⟨said, active, hsaid, ⟨-, hst, houts⟩ | ⟨hrev, -⟩⟩
  · right
    rw [hst]
    exact ⟨hfresh.1, hfresh.2, hnone hsaid⟩
  · rw [hst, houts]
    rcases mediaStart_started now env { st with mux := env.mux, active } with
      ⟨htmr, hmem⟩ | ⟨htmr, hstarted, hmem⟩
    · exact .inl ⟨htmr, List.mem_append_right _ hmem⟩
    · right
      refine ⟨hstarted.trans hfresh.1, htmr.trans hfresh.2, fun h => ?_⟩
      exact (List.mem_append.mp h).elim (hnone hsaid) hmem
  · have hnot : st.reverses env = false := by
      unfold reverses
      cases env.setup <;> simp [hfresh.1]
    exact absurd (hnot.symm.trans hrev) (by decide)

theorem watched_update (hwatched : st.Watched) :
    (st.update now env).1.Watched ↔
      (!st.reverses env || st.tmrHs.isRunning || decide (st.hsRestarts = dtlsMaxRestarts) ||
        env.starts env.mux) = true := by
  rcases update_cases now env st with
    ⟨hrev, hst, -⟩ | ⟨said, active, -, ⟨hrev, hst, -⟩ | ⟨hrev, hst, -⟩⟩
  · rw [hst, hrev]
    exact iff_of_true hwatched rfl
  · rw [hst, hrev]
    refine iff_of_true (fun hneg => ?_) rfl
    obtain ⟨-, -, hrestarts, hnegotiated⟩ := mediaStart_frame now env
      { st with mux := env.mux, active }
    have hbefore := hwatched (hnegotiated.symm.trans hneg)
    rcases mediaStart_started now env { st with mux := env.mux, active } with
      ⟨htmr, -⟩ | ⟨htmr, -⟩
    · exact .inl htmr
    · rw [htmr, hrestarts]
      exact hbefore
  · obtain ⟨-, -, hrestarts, hnegotiated⟩ := mediaStart_frame now env
      { ({ st with mux := env.mux } : DtlsMedia).reset.1 with active }
    have htmr := tmrHs_restart now env ({ st with mux := env.mux } : DtlsMedia) active
    rw [hst, hrev, Watched, hrestarts, htmr]
    simp only [hnegotiated, Bool.not_true, Bool.false_or, Bool.or_eq_true, decide_eq_true_eq]
    simp only [reset, forall_const]
    tauto

/-- A deadline finds audio, or has no restart left, or spends one. -/
theorem handshakeDeadline_cases :
    ((st.rtp.negotiated = true ∨ dtlsMaxRestarts ≤ st.hsRestarts) ∧
        (st.handshakeDeadline now env).1 = st ∧
        (st.handshakeDeadline now env).2.countP DtlsOut.isRestart = 0) ∨
      (st.rtp.negotiated = false ∧ st.hsRestarts < dtlsMaxRestarts ∧
        (st.handshakeDeadline now env).1.rtp.negotiated = false ∧
        (st.handshakeDeadline now env).1.hsRestarts = st.hsRestarts + 1 ∧
        (st.handshakeDeadline now env).1.tmrHs.isRunning = (st.tmrHs.isRunning || env.starts st.mux) ∧
        (st.handshakeDeadline now env).2.countP DtlsOut.isRestart = 1) := by
  unfold handshakeDeadline
  cases hneg : st.rtp.negotiated with
  | true => exact .inl ⟨.inl rfl, rfl, rfl⟩
  | false =>
      by_cases hspent : dtlsMaxRestarts ≤ st.hsRestarts
      · left
        simp only [Bool.false_eq_true, if_false, hspent, if_true]
        exact ⟨.inr trivial, trivial, rfl⟩
      · right
        simp only [Bool.false_eq_true, if_false, hspent]
        -- the role of the attempt that starts now
        obtain ⟨active, hactive⟩ : ∃ active, (if dtlsMaxRestarts ≤ st.hsRestarts + 1 ∧
            (!st.active) = true then { st with hsRestarts := st.hsRestarts + 1, active := true }
            else { st with hsRestarts := st.hsRestarts + 1 }) =
            ({ st with hsRestarts := st.hsRestarts + 1, active } : DtlsMedia) := by
          split
          · exact ⟨true, rfl⟩
          · exact ⟨st.active, rfl⟩
        rw [hactive]
        have hframe := mediaStart_frame now
          { env with raddrRtp := st.raddrRtp, raddrRtcp := st.raddrRtcp }
          ({ st with hsRestarts := st.hsRestarts + 1, active } : DtlsMedia).reset.1
        have htmr := tmrHs_restart now { env with raddrRtp := st.raddrRtp, raddrRtcp := st.raddrRtcp }
          ({ st with hsRestarts := st.hsRestarts + 1 } : DtlsMedia) active
        have hcount := isRestart_mediaStart now
          { env with raddrRtp := st.raddrRtp, raddrRtcp := st.raddrRtcp }
          ({ st with hsRestarts := st.hsRestarts + 1, active } : DtlsMedia).reset.1
        refine ⟨trivial, Nat.not_le.mp hspent, hframe.2.2.2, hframe.2.2.1, htmr, ?_⟩
        rw [List.countP_append, List.countP_cons]
        exact congrArg (_ + ·) hcount

end DtlsMedia

namespace DtlsSys

open DtlsMedia

variable {s s' : DtlsSys} {act : DtlsAct} {os : List DtlsOut}

theorem dtlsSystem_step (hstep : dtlsSystem.step s act = some (s', os)) :
    match act with
    | .update _ env => s'.media = (s.media.update s.now env).1 ∧ os = (s.media.update s.now env).2
    | .deadline env =>
        s.media.tmrHs.isDue s.now = true ∧
          s'.media = (({ s.media with tmrHs := none } : DtlsMedia).handshakeDeadline s.now env).1 ∧
          os = (({ s.media with tmrHs := none } : DtlsMedia).handshakeDeadline s.now env).2
    | .established c =>
        s.media.shakesHands c = true ∧ s'.media = s.media.established c ∧ os = []
    | .elapse _ => s'.media = s.media ∧ os = [] := by
  cases act with
  | update peerOffers env =>
      have hsys := Option.some.inj hstep
      exact ⟨congrArg (fun p => p.1.media) hsys.symm, congrArg Prod.snd hsys.symm⟩
  | deadline env =>
      obtain ⟨hdue, hsys⟩ := Option.ite_none_right_eq_some.mp hstep
      have hsys := Option.some.inj hsys
      exact ⟨hdue, congrArg (fun p => p.1.media) hsys.symm, congrArg Prod.snd hsys.symm⟩
  | established c =>
      obtain ⟨hon, hsys⟩ := Option.ite_none_right_eq_some.mp hstep
      have hsys := Option.some.inj hsys
      exact ⟨hon, congrArg (fun p => p.1.media) hsys.symm, congrArg Prod.snd hsys.symm⟩
  | elapse ms =>
      have hsys := Option.some.inj hstep
      exact ⟨congrArg (fun p => p.1.media) hsys.symm, congrArg Prod.snd hsys.symm⟩

/-- No step but the watchdog's spends a restart, and that one at most one. -/
theorem hsRestarts_step (hstep : dtlsSystem.step s act = some (s', os))
    (hbound : s.media.hsRestarts ≤ dtlsMaxRestarts) :
    s'.media.hsRestarts = s.media.hsRestarts + os.countP DtlsOut.isRestart ∧
      s'.media.hsRestarts ≤ dtlsMaxRestarts := by
  have hstep := dtlsSystem_step hstep
  cases act with
  | update peerOffers env =>
      obtain ⟨hmedia, rfl⟩ := hstep
      obtain ⟨hrestarts, hcount⟩ := update_hsRestarts s.now env s.media
      rw [hmedia, hcount]
      exact ⟨hrestarts, hrestarts.le.trans hbound⟩
  | deadline env =>
      obtain ⟨-, hmedia, rfl⟩ := hstep
      rcases handshakeDeadline_cases s.now env { s.media with tmrHs := none } with
        ⟨-, hst, hcount⟩ | ⟨-, hleft, -, hrestarts, -, hcount⟩
      · rw [hmedia, hst, hcount]
        exact ⟨rfl, hbound⟩
      · rw [hmedia, hcount]
        exact ⟨hrestarts, hrestarts.le.trans hleft⟩
  | established c =>
      obtain ⟨-, hmedia, rfl⟩ := hstep
      rw [hmedia]
      cases c <;> exact ⟨rfl, hbound⟩
  | elapse ms =>
      obtain ⟨hmedia, rfl⟩ := hstep
      rw [hmedia]
      exact ⟨rfl, hbound⟩

/-- One step of a watched media: it is watched afterwards exactly if `keepsWatch` says so. -/
theorem watched_step (hstep : dtlsSystem.step s act = some (s', os))
    (hbound : s.media.hsRestarts ≤ dtlsMaxRestarts) (hwatched : s.media.Watched) :
    s'.media.Watched ↔ s.keepsWatch act = true := by
  have hstep := dtlsSystem_step hstep
  cases act with
  | update peerOffers env =>
      rw [hstep.1]
      exact watched_update s.now env _ hwatched
  | deadline env =>
      rw [hstep.2.1]
      simp only [keepsWatch, Bool.or_eq_true, decide_eq_true_eq]
      rcases handshakeDeadline_cases s.now env { s.media with tmrHs := none } with
        ⟨hquiet, hst, -⟩ | ⟨hneg, hleft, hneg', hrestarts, htmr, -⟩
      · rw [hst]
        rcases hquiet with hneg | hspent
        · refine iff_of_true (fun hnot => ?_) (.inl (.inl hneg))
          exact absurd (hnot.symm.trans hneg) (by decide)
        · exact iff_of_true (fun _ => .inr (Nat.le_antisymm hbound hspent))
            (.inl (.inr (Nat.le_succ_of_le hspent)))
      · simp only at hneg hleft htmr hrestarts
        rw [Watched, hneg', htmr, hrestarts, hneg]
        simp only [Timer.isRunning_none, Bool.false_or, forall_const, Bool.false_eq_true, false_or]
        constructor
        · rintro (hstarts | hlast)
          · exact .inr hstarts
          · exact .inl hlast.ge
        · rintro (hlast | hstarts)
          · exact .inr (Nat.le_antisymm hleft hlast)
          · exact .inl hstarts
  | established c =>
      rw [hstep.2.1]
      cases c with
      | rtp => exact iff_of_true (fun hnot => by cases hnot) rfl
      | rtcp =>
          simp only [Watched, DtlsMedia.established, keepsWatch, Timer.isRunning_none, Bool.or_eq_true,
            decide_eq_true_eq]
          cases s.media.rtp.negotiated <;> simp
  | elapse ms =>
      rw [hstep.1]
      exact iff_of_true hwatched rfl

/-- What holds in every run: the restarts are counted and bounded, and before the first start there is
nothing to watch. -/
theorem counted_run {C : DtlsSys → DtlsAct → Prop} {t : Trace DtlsAct DtlsOut}
    (hrun : dtlsSystem.Run C s t) :
    s.media.hsRestarts = t.outs.countP DtlsOut.isRestart ∧ s.media.hsRestarts ≤ dtlsMaxRestarts ∧
      (.started ∉ t.outs → s.media.started = false ∧ s.media.tmrHs = none) := by
  refine hrun.invariant (I := fun s t => s.media.hsRestarts = (Trace.outs t).countP DtlsOut.isRestart ∧
    s.media.hsRestarts ≤ dtlsMaxRestarts ∧
    (.started ∉ Trace.outs t → s.media.started = false ∧ s.media.tmrHs = none)) ?_ ?_
  · rintro s ⟨offerer, hmedia⟩
    rw [hmedia]
    exact ⟨rfl, Nat.zero_le _, fun _ => ⟨rfl, rfl⟩⟩
  · rintro s t act s' os ⟨hcount, hbound, hfresh⟩ - hstep
    rw [Trace.outs_append, Trace.outs_singleton, List.countP_append, ← hcount]
    obtain ⟨hrestarts, hbound'⟩ := hsRestarts_step hstep hbound
    refine ⟨hrestarts, hbound', fun hnot => ?_⟩
    simp only [List.mem_append, not_or] at hnot
    have hbefore := hfresh hnot.1
    have hstep := dtlsSystem_step hstep
    cases act with
    | update peerOffers env =>
        obtain ⟨hmedia, rfl⟩ := hstep
        rw [hmedia]
        rcases update_started s.now env _ hbefore with ⟨-, hmem⟩ | ⟨hstarted, htmr, -⟩
        · exact absurd hmem hnot.2
        · exact ⟨hstarted, htmr⟩
    | deadline env =>
        have hdue := hstep.1
        simp [hbefore.2, Timer.isDue] at hdue
    | established c =>
        rw [hstep.2.1]
        cases c <;> exact ⟨hbefore.1, rfl⟩
    | elapse ms =>
        rw [hstep.1]
        exact hbefore

/-- **The handshake is watched.** At most `VOXSDK_DTLS_MAX_RESTARTS` restarts happen in the life of a
media. If no step of the run was one that `keepsWatch` refuses, then from the first start on, as long as
RTP is not negotiated, the deadline is armed or all restarts are spent; and the next step keeps it so
exactly if `keepsWatch` admits it. -/
theorem handshake_watched {t : Trace DtlsAct DtlsOut} (hrun : dtlsSystem.Run Machine.Always s t) :
    t.outs.countP DtlsOut.isRestart ≤ dtlsMaxRestarts ∧
    (dtlsSystem.Run (fun s act => s.keepsWatch act) s t → .started ∈ t.outs →
      (s.media.rtp.negotiated = false →
        s.media.tmrHs.isRunning = true ∨ s.media.hsRestarts = dtlsMaxRestarts) ∧
      ∀ act s' os, dtlsSystem.step s act = some (s', os) →
        ((s'.media.rtp.negotiated = false →
          s'.media.tmrHs.isRunning = true ∨ s'.media.hsRestarts = dtlsMaxRestarts) ↔
        s.keepsWatch act = true)) := by
  obtain ⟨hcount, hbound, -⟩ := counted_run hrun
  refine ⟨hcount ▸ hbound, fun hkeeps hbegun => ?_⟩
  have hwatched : .started ∈ t.outs → s.media.Watched := by
    clear hrun hcount hbound hbegun
    induction hkeeps with
    | start h => exact fun hmem => absurd hmem (by simp)
    | @step s s' t act os hprev hC hstep ih =>
        intro hmem
        obtain ⟨-, hbound, hfresh⟩ := counted_run hprev
        by_cases hbegun : .started ∈ Trace.outs t
        · exact (watched_step hstep hbound (ih hbegun)).mpr hC
        · -- this is the first start
          rw [Trace.outs_append, Trace.outs_singleton] at hmem
          have hnow := (List.mem_append.mp hmem).resolve_left hbegun
          have hstep := dtlsSystem_step hstep
          cases act with
          | update peerOffers env =>
              obtain ⟨hmedia, rfl⟩ := hstep
              rw [hmedia]
              rcases update_started s.now env _ (hfresh hbegun) with ⟨htmr, -⟩ | ⟨-, -, hnone⟩
              · exact fun _ => .inl htmr
              · exact absurd hnow hnone
          | deadline env =>
              have hdue := hstep.1
              simp [(hfresh hbegun).2, Timer.isDue] at hdue
          | established c => simp [hstep.2.2] at hnow
          | elapse ms => simp [hstep.2] at hnow
  exact ⟨hwatched hbegun, fun act s' os hstep => watched_step hstep hbound (hwatched hbegun)⟩

/-- A description of the peer with this `setup`, RTCP on a port of its own; everything it leads to
succeeds. -/
def described (setup : DtlsSetup) : DtlsEnv :=
  { setup := some setup
    mux := false
    hasMedia := true
    raddrRtp := none
    raddrRtcp := none
    lattrOk := true
    rtpStart := { err := false, leavesSock := false }
    rtcpStart := { err := false, leavesSock := false } }

/-- Our offer is answered; the handshake does not end in time and is restarted. -/
theorem handshake_watched_restarted :
    ∃ s : DtlsSys, s.media.rtp.negotiated = false ∧ s.media.hsRestarts = 1 ∧
      (s.media.tmrHs.isRunning = true ∨ s.media.hsRestarts = dtlsMaxRestarts) := by
  obtain ⟨s, t, hrun, hend⟩ := Machine.exists_run_of_exec (M := dtlsSystem) keepsWatch
    (s := { now := 0, media := .alloc true }) ⟨true, rfl⟩
    [.update false (described .active), .elapse 1200, .deadline (described .active)]
    (fun s t => !s.media.rtp.negotiated && decide (s.media.hsRestarts = 1) &&
      decide (.started ∈ Trace.outs t))
    (by decide +kernel)
  simp only [Bool.and_eq_true, Bool.not_eq_true', decide_eq_true_eq] at hend
  obtain ⟨⟨hneg, hrestarts⟩, hbegun⟩ := hend
  exact ⟨s, hneg, hrestarts, ((handshake_watched hrun.always).2 hrun hbegun).1 hneg⟩

/-- RTCP is negotiated first and stands the watchdog down: nobody waits for RTP, and no restart has been
spent. -/
theorem handshake_abandoned :
    ¬ ∀ (s : DtlsSys) (t : Trace DtlsAct DtlsOut), dtlsSystem.Run Machine.Always s t →
      .started ∈ t.outs → s.media.rtp.negotiated = false →
        s.media.tmrHs.isRunning = true ∨ s.media.hsRestarts = dtlsMaxRestarts := by
  intro h
  obtain ⟨s, t, hrun, hend⟩ := Machine.exists_run_of_exec (M := dtlsSystem) (fun _ _ => true)
    (s := { now := 0, media := .alloc true }) ⟨true, rfl⟩
    [.update false (described .active), .established .rtcp]
    (fun s t => !s.media.rtp.negotiated && !s.media.tmrHs.isRunning &&
      decide (s.media.hsRestarts ≠ dtlsMaxRestarts) && decide (.started ∈ Trace.outs t))
    (by decide +kernel)
  simp only [Bool.and_eq_true, Bool.not_eq_true', decide_eq_true_eq] at hend
  obtain ⟨⟨⟨hneg, hidle⟩, hleft⟩, hbegun⟩ := hend
  rcases h s t hrun.always hbegun hneg with harmed | hspent
  · exact absurd (hidle.symm.trans harmed) (by decide)
  · exact hleft hspent

end DtlsSys

end VoxSdk
