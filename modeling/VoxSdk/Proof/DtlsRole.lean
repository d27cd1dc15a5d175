import VoxSdk.Proof.DtlsWatch

/-!
# The role across re-negotiations

The role is computed from the peer's attribute and from who made the session's first offer. An answer that
repeats the peer's role gives back the role we hold, in either kind of session. An offer says `actpass`, and
that is read as if it were a first one: it makes an offerer the client and an answerer the server, whatever
role the association was negotiated in.
-/

namespace VoxSdk

open Reactive

namespace DtlsMedia

/-- The attribute of a peer that keeps the role it holds, which is the other one than ours. -/
def keptSetup (st : DtlsMedia) (peerOffers : Bool) : DtlsSetup :=
  if peerOffers then .actpass else if st.active then .passive else .active

/-- A description of a peer that keeps its role gives back our role, unless it is an offer and finds an
offerer that is the server, or an answerer that is the client. -/
theorem role_keptSetup (st : DtlsMedia) (peerOffers : Bool) :
    st.role (st.keptSetup peerOffers) = st.active ↔ (peerOffers = true → st.active = st.offerer) := by
  unfold role keptSetup
  cases peerOffers <;> cases st.offerer <;> cases st.active <;> decide

theorem reset_mediaStart (now : Nat) (env : DtlsEnv) (st : DtlsMedia) (negotiated : Bool) :
    .reset negotiated ∉ (st.mediaStart now env).2.1 := by
  intro hmem
  rcases mediaStart_cases now env st with
    ⟨heq, -⟩ | ⟨rtp, rtcp, outs, -, -, -, houts, hcases⟩
  · simp [heq] at hmem
  · have hnot : .reset negotiated ∉ outs := by
      intro h
      obtain ⟨_, _, _, ho⟩ := houts _ h
      cases ho
    rcases hcases with heq | ⟨raddrRtp, raddrRtcp, heq⟩
    · rw [heq] at hmem
      exact hnot hmem
    · rw [heq] at hmem
      simp only [List.mem_append, List.mem_singleton, reduceCtorEq, or_false] at hmem
      exact hnot hmem

/-- An update that gives back the role we hold resets nothing; one that does not, takes the other role. -/
theorem update_role (now : Nat) (env : DtlsEnv) (st : DtlsMedia) :
    ((st.update now env).1.active = st.active ↔
        ∀ rsetup, env.setup = some rsetup → (st.offerer || env.lattrOk) = true →
          st.role rsetup = st.active) ∧
      ((st.update now env).1.active = st.active → ∀ negotiated,
        .reset negotiated ∉ (st.update now env).2) := by
  unfold update
  cases hsetup : env.setup with
  | none => simp
  | some rsetup =>
      have hrole : ({ st with mux := env.mux } : DtlsMedia).role rsetup = st.role rsetup := rfl
      by_cases hfails : (!st.offerer && !env.lattrOk) = true
      · have hnot : (st.offerer || env.lattrOk) = false := by simpa using hfails
        simp only [hrole, hfails, hnot, if_true]
        refine ⟨by simp, fun _ negotiated hmem => ?_⟩
        split at hmem
        · cases hmem
        · simp at hmem
      · have hok : (st.offerer || env.lattrOk) = true := by
          cases hoff : st.offerer <;> simp_all
        have hframe (st : DtlsMedia) := (mediaStart_frame now env st).2.1
        simp only [hrole, hfails, hok, Bool.false_eq_true, if_false, hframe]
        refine ⟨by simp, fun hsame negotiated hmem => ?_⟩
        rw [hsame] at hmem
        simp only [bne_self_eq_false, Bool.and_false, Bool.false_eq_true, if_false,
          List.append_nil, List.mem_append] at hmem
        rcases hmem with hmem | hmem
        · split at hmem
          · cases hmem
          · simp at hmem
        · exact reset_mediaStart _ _ _ _ hmem

/-- The watchdog restarts only what is not negotiated. -/
theorem reset_handshakeDeadline (now : Nat) (env : DtlsEnv) (st : DtlsMedia) :
    .reset true ∉ (st.handshakeDeadline now env).2 := by
  unfold handshakeDeadline
  cases hneg : st.rtp.negotiated with
  | true => simp
  | false =>
      by_cases hspent : dtlsMaxRestarts ≤ st.hsRestarts
      · simp [hspent]
      · simp only [Bool.false_eq_true, if_false, hspent, List.cons_append, List.mem_cons,
          List.mem_append, reduceCtorEq, false_or, not_or]
        refine ⟨?_, reset_mediaStart _ _ _ _⟩
        split <;> simp [reset, hneg]

end DtlsMedia

namespace DtlsSys

open DtlsMedia

/-- The exchanges in which the peer keeps its role; any other step is none. -/
def peerKeeps (s : DtlsSys) : DtlsAct → Prop
  | .update peerOffers env => env.setup = some (s.media.keptSetup peerOffers)
  | _ => True

/-- The steps that keep ours: the peer offers to an offerer that is the client, or to an answerer that is
the server, or not at all. -/
def keepsRole (s : DtlsSys) : DtlsAct → Bool
  | .update peerOffers env =>
      !peerOffers || !(s.media.offerer || env.lattrOk) || s.media.active == s.media.offerer
  | _ => true

variable {s s' : DtlsSys} {os : List DtlsOut}

theorem role_update {peerOffers : Bool} {env : DtlsEnv}
    (hpeer : s.peerKeeps (.update peerOffers env))
    (hstep : dtlsSystem.step s (.update peerOffers env) = some (s', os)) :
    (s'.media.active = s.media.active ∧ .reset true ∉ os) ↔
      s.keepsRole (.update peerOffers env) = true := by
  obtain ⟨hmedia, rfl⟩ := dtlsSystem_step hstep
  obtain ⟨hactive, hreset⟩ := update_role s.now env s.media
  have hkeeps : s.keepsRole (.update peerOffers env) = true ↔
      ((s.media.offerer || env.lattrOk) = true →
        s.media.role (s.media.keptSetup peerOffers) = s.media.active) := by
    rw [role_keptSetup]
    simp only [keepsRole]
    generalize (s.media.offerer || env.lattrOk) = computed
    cases peerOffers <;> cases computed <;> simp
  rw [hmedia, hkeeps]
  constructor
  · rintro ⟨hsame, -⟩ hcomputed
    exact hactive.mp hsame _ hpeer hcomputed
  · intro hgives
    have hsame : (s.media.update s.now env).1.active = s.media.active := by
      refine hactive.mpr fun rsetup hsetup hcomputed => ?_
      obtain rfl := Option.some.inj (hpeer.symm.trans hsetup)
      exact hgives hcomputed
    exact ⟨hsame, hreset hsame true⟩

/-- **A negotiated association survives.** In a stretch of a session's run in which the peer keeps its
role and no exchange is one that `keepsRole` refuses, no association that is negotiated is reset; and a
further exchange keeps the role, and resets nothing negotiated, exactly if `keepsRole` admits it. -/
theorem association_kept {s₀ s : DtlsSys} {u : Trace DtlsAct DtlsOut}
    (hsteps : dtlsSystem.Steps (fun s act => s.peerKeeps act ∧ s.keepsRole act = true) s₀ u s) :
    .reset true ∉ u.outs ∧
    ∀ peerOffers env s' os, s.peerKeeps (.update peerOffers env) →
      dtlsSystem.step s (.update peerOffers env) = some (s', os) →
      ((s'.media.active = s.media.active ∧ .reset true ∉ os) ↔
        s.keepsRole (.update peerOffers env) = true) := by
  refine ⟨?_, fun peerOffers env s' os hpeer hstep => role_update hpeer hstep⟩
  induction hsteps with
  | refl => exact List.not_mem_nil
  | @step r r' v act os _ hC hstep ih =>
      rw [Trace.outs_append, Trace.outs_singleton, List.mem_append, not_or]
      refine ⟨ih, ?_⟩
      cases act with
      | update peerOffers env => exact ((role_update hC.1 hstep).mpr hC.2).2
      | deadline env =>
          obtain ⟨-, -, rfl⟩ := dtlsSystem_step hstep
          exact reset_handshakeDeadline _ _ _
      | established c =>
          obtain ⟨-, -, rfl⟩ := dtlsSystem_step hstep
          exact List.not_mem_nil
      | elapse ms =>
          obtain ⟨-, rfl⟩ := dtlsSystem_step hstep
          exact List.not_mem_nil

/-- An answerer whose peer made the first offer and makes the next, and then answers one of ours. -/
theorem association_kept_answerer :
    ∃ (s : DtlsSys) (u : Trace DtlsAct DtlsOut), u.length = 4 ∧ s.media.rtp.negotiated = true ∧
      .reset true ∉ u.outs := by
  obtain ⟨s, u, hsteps, hend⟩ := Machine.exists_steps_of_exec (M := dtlsSystem)
    (s := { now := 0, media := .alloc false })
    (fun s act => s.keepsRole act && match act with
      | .update peerOffers env => decide (env.setup = some (s.media.keptSetup peerOffers))
      | _ => true)
    [.update true (described .actpass), .established .rtp, .update true (described .actpass),
      .update false (described .active)]
    (fun s u => decide (u.length = 4) && s.media.rtp.negotiated)
    (by decide +kernel)
  simp only [Bool.and_eq_true, decide_eq_true_eq] at hend
  refine ⟨s, u, hend.1, hend.2, ?_⟩
  refine (association_kept (hsteps.mono fun s act h => ?_)).1
  obtain ⟨hkeeps, hpeer⟩ := Bool.and_eq_true_iff.mp h
  refine ⟨?_, hkeeps⟩
  cases act with
  | update peerOffers env =>
      have hsetup : env.setup = some (s.media.keptSetup peerOffers) := of_decide_eq_true hpeer
      exact hsetup
  | deadline env => trivial
  | established c => trivial
  | elapse ms => trivial

/-- We made the session's offer and the peer answered `active`; now the peer puts the call on hold. -/
theorem association_reset :
    ¬ ∀ (s s' : DtlsSys) (t : Trace DtlsAct DtlsOut) (peerOffers : Bool) (env : DtlsEnv)
      (os : List DtlsOut), dtlsSystem.Run Machine.Always s t → s.media.rtp.negotiated = true →
      s.peerKeeps (.update peerOffers env) →
      dtlsSystem.step s (.update peerOffers env) = some (s', os) →
      s'.media.active = s.media.active ∧ .reset true ∉ os := by
  intro h
  obtain ⟨s, t, hrun, hend⟩ := Machine.exists_run_of_exec (M := dtlsSystem) (fun _ _ => true)
    (s := { now := 0, media := .alloc true }) ⟨true, rfl⟩
    [.update false (described .active), .established .rtp]
    (fun s _ => s.media.rtp.negotiated && !s.keepsRole (.update true (described .actpass)))
    (by decide +kernel)
  simp only [Bool.and_eq_true, Bool.not_eq_true'] at hend
  obtain ⟨hneg, hrefused⟩ := hend
  obtain ⟨s', os, hstep⟩ : ∃ s' os,
      dtlsSystem.step s (.update true (described .actpass)) = some (s', os) := ⟨_, _, rfl⟩
  have hpeer : s.peerKeeps (.update true (described .actpass)) := (rfl : some DtlsSetup.actpass = _)
  have hkept := (role_update hpeer hstep).mp (h s s' t true _ os hrun.always hneg hpeer hstep)
  exact absurd (hrefused.symm.trans hkept) (by decide)

end DtlsSys

end VoxSdk
