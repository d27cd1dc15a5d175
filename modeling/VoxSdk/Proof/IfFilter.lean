import VoxSdk.IceIfsel

/-!
# Does the filter leave a call anything to gather on?

The first filter keeps the usable addresses. The second keeps the one address the call signals from, once that
is known to be a local one: nothing is left if it is a local address the first filter turned down.
-/

namespace VoxSdk

variable {net : BaresipNet} {m : MnatMedia} {sa sig : Sa}

/-- A local address a candidate could have: neither loopback nor link-local, of an enabled family. -/
def BaresipNet.Usable (net : BaresipNet) (sa : Sa) : Prop :=
  sa.isLoopback = false ∧ sa.isLinklocal = false ∧ net.afEnabled sa = true

instance (net : BaresipNet) (sa : Sa) : Decidable (net.Usable sa) := inferInstanceAs (Decidable (_ ∧ _))

/-- The address the call signals from, if it has one. -/
def MnatMedia.signalling (m : MnatMedia) : Option Sa := ((m.sess.bind MnatSess.sdp).join).filter Sa.isSet

/-- The address the call signals from, if it is one of the local addresses. -/
def BaresipNet.live (net : BaresipNet) (m : MnatMedia) : Option Sa :=
  m.signalling.filter fun sig => decide (sig ∈ net.laddrs)

theorem cmp_eq_true_iff (h : sig.isSet = true) : sig.cmp sa = true ↔ sa = sig := by
  have hne : sig ≠ .unset := by
    rintro rfl
    cases h
  rw [Sa.cmp, decide_eq_true hne, Bool.true_and, decide_eq_true_iff]
  exact eq_comm

theorem laddrApply_voxsdkSigHandler (net : BaresipNet) (h : sig.isSet = true) :
    net.laddrApply (voxsdkSigHandler sig) = true ↔ sig ∈ net.laddrs := by
  rw [BaresipNet.laddrApply, List.any_eq_true]
  constructor
  · rintro ⟨sa, hmem, hcmp⟩
    rwa [(cmp_eq_true_iff h).mp hcmp] at hmem
  · intro hmem
    exact ⟨sig, hmem, (cmp_eq_true_iff h).mpr rfl⟩

/-- The second filter: where the call is known to signal from a local address, that address alone. -/
theorem voxsdkIfSignalling_iff :
    voxsdkIfSignalling net m sa = true ↔ ∀ sig, net.live m = some sig → sa = sig := by
  unfold voxsdkIfSignalling BaresipNet.live MnatMedia.signalling
  cases m.sess.bind MnatSess.sdp with
  | none => simp
  | some laddr =>
      rw [Option.join_some]
      cases hset : laddr.filter Sa.isSet with
      | none => simp [hset]
      | some sig =>
          have hisSet := (Option.filter_eq_some_iff.mp hset).2
          have happly := laddrApply_voxsdkSigHandler net hisSet
          by_cases hmem : sig ∈ net.laddrs
          · simp [hset, happly.mpr hmem, hmem, cmp_eq_true_iff hisSet]
          · simp [hset, Bool.eq_false_iff.mpr fun h => hmem (happly.mp h), hmem]

/-- Both filters. -/
theorem ifHandler_iff :
    ifHandler net m sa = true ↔ net.Usable sa ∧ ∀ sig, net.live m = some sig → sa = sig := by
  rw [← voxsdkIfSignalling_iff, ifHandler, BaresipNet.Usable]
  cases sa.isLoopback <;> cases sa.isLinklocal <;> cases net.afEnabled sa <;>
    cases voxsdkIfSignalling net m sa <;> simp

theorem live_mem (h : net.live m = some sig) : sig ∈ net.laddrs :=
  of_decide_eq_true (Option.filter_eq_some_iff.mp h).2

/-- **A call is left with a candidate whenever there is a usable address, unless the address it signals from is
a local one that is not usable itself.** -/
theorem ifHandler_accepts_iff (net : BaresipNet) (m : MnatMedia) :
    ((∃ sa ∈ net.laddrs, net.Usable sa) →
        ∃ sa ∈ net.laddrs, net.Usable sa ∧ ifHandler net m sa = true) ↔
      (∀ sa ∈ net.laddrs, ¬net.Usable sa) ∨ ∀ sig, net.live m = some sig → net.Usable sig := by
  constructor
  · intro haccepts
    by_cases hany : ∃ sa ∈ net.laddrs, net.Usable sa
    · right
      intro sig hlive
      obtain ⟨sa, -, husable, hsa⟩ := haccepts hany
      rwa [(ifHandler_iff.mp hsa).2 sig hlive] at husable
    · left
      push Not at hany
      exact hany
  · rintro (hnone | hlive) ⟨sa, hmem, husable⟩
    · exact absurd husable (hnone sa hmem)
    · cases hsig : net.live m with
      | none =>
          refine ⟨sa, hmem, husable, ifHandler_iff.mpr ⟨husable, ?_⟩⟩
          intro sig h
          cases hsig.symm.trans h
      | some sig =>
          refine ⟨sig, live_mem hsig, hlive sig hsig, ifHandler_iff.mpr ⟨hlive sig hsig, ?_⟩⟩
          intro sig' h
          exact Option.some.inj (hsig.symm.trans h)

/-- A Wi-Fi address beside a link-local one, which is what the call signals from. -/
theorem ifHandler_starves :
    ¬∀ (net : BaresipNet) (m : MnatMedia), (∃ sa ∈ net.laddrs, net.Usable sa) →
      ∃ sa ∈ net.laddrs, net.Usable sa ∧ ifHandler net m sa = true := by
  intro h
  have hstarved := h
    { laddrs := [.v4 0xa9fe0101, .v4 0xc0a80102], inetEnabled := true, inet6Enabled := true }
    { sess := some { sdp := some (some (.v4 0xa9fe0101)) } }
  exact absurd (hstarved (by decide)) (by decide)

end VoxSdk
