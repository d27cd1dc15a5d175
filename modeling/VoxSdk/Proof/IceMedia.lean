import VoxSdk.Proof.IceRestart

/-!
# The pair ICE nominated

A stream's pair is recorded when ICE nominates it, and delivered to baresip then and there or, for a call
that is still ringing, with the next exchange. Every later exchange makes baresip forget it, and
`reassert_selected` puts it back as long as the peer signals the address it did. The argument follows one
stream: what an exchange does to it (`StreamUpdate`), what a step does (`StreamStep`), and what a stretch
without a nomination leaves of the pair.
-/

namespace VoxSdk

open Reactive

/-- ICE nominates a pair for the stream. -/
def IceAct.nominates (i : Nat) : IceAct → Bool
  | .connected j raddr1 _ _ => decide (j = i) && raddr1.isSet
  | _ => false

namespace IceMedia

/-- What `ice_connected` remembers is the same. -/
structure SamePair (m m' : IceMedia) : Prop where
  selected : m'.selected = m.selected
  selectedRtcp : m'.selectedRtcp = m.selectedRtcp
  rsig : m'.rsig = m.rsig
  selSet : m'.selSet = m.selSet
  held : m'.held = m.held

variable {m m' m'' : IceMedia}

theorem SamePair.refl : SamePair m m := ⟨rfl, rfl, rfl, rfl, rfl⟩

theorem SamePair.trans (h : SamePair m m') (h' : SamePair m' m'') : SamePair m m'' :=
  ⟨h'.selected.trans h.selected, h'.selectedRtcp.trans h.selectedRtcp, h'.rsig.trans h.rsig,
    h'.selSet.trans h.selSet, h'.held.trans h.held⟩

theorem samePair_rebase (sdp : MediaSdp) : SamePair m (m.rebase sdp) := by
  unfold rebase
  split <;> exact ⟨rfl, rfl, rfl, rfl, rfl⟩

theorem samePair_syncUfrag (sdp : MediaSdp) : SamePair m (m.syncUfrag sdp) := by
  unfold syncUfrag
  split <;> exact ⟨rfl, rfl, rfl, rfl, rfl⟩

/-- The call of the connected handler that delivers the pair. -/
def pair (i : Nat) (m : IceMedia) : IceOut :=
  .connected i m.selected (m.selectedRtcp.filter SaPort.isSet)

theorem reassert_held {i : Nat} {sdp : MediaSdp} (hset : m.selSet = true) (hheld : m.held = true) :
    m.reassert i sdp = ({ m with held := false }, [m.pair i]) := by
  simp [reassert, hset, hheld, pair]

theorem reassert_again {i : Nat} {sdp : MediaSdp} (hset : m.selSet = true) (hheld : m.held = false)
    (hsame : sdp.raddr.cmp m.rsig = true) :
    m.reassert i sdp = ({ m with reasserted := true }, [m.pair i]) := by
  simp [reassert, hset, hheld, hsame, pair]

/-- `reassert_selected` looks at nothing else of a stream. -/
theorem SamePair.reassert (h : SamePair m m') (i : Nat) (sdp : MediaSdp) :
    SamePair (m.reassert i sdp).1 (m'.reassert i sdp).1 ∧
      (m'.reassert i sdp).2 = (m.reassert i sdp).2 := by
  unfold IceMedia.reassert
  rw [h.selSet, h.held, h.selected, h.selectedRtcp, h.rsig]
  split
  · exact ⟨h, rfl⟩
  · simp only
    split
    · exact ⟨⟨rfl, rfl, rfl, rfl, rfl⟩, rfl⟩
    · split
      · exact ⟨⟨h.selected, h.selectedRtcp, h.rsig, rfl, h.held⟩, rfl⟩
      · exact ⟨⟨rfl, rfl, rfl, rfl, rfl⟩, rfl⟩

/-- All other streams are left without a pair. -/
theorem reassert_lost {i : Nat} {sdp : MediaSdp}
    (h : m.selSet = false ∨ (m.held = false ∧ sdp.raddr.cmp m.rsig = false)) :
    (m.reassert i sdp).1.selSet = false ∧ (m.reassert i sdp).2 = [] := by
  cases hset : m.selSet with
  | false => simp [reassert, hset]
  | true =>
      rcases h with h | ⟨hheld, hmoved⟩
      · exact absurd (h.symm.trans hset) (by simp)
      · simp [reassert, hset, hheld, hmoved, forget]

end IceMedia

namespace IceSess

variable {g : Cfg} {env : IceEnv} {s s' s'' : IceSess} {i : Nat} {m m' : IceMedia}

/-- The update sees other credentials than the last one did. -/
def credentialsChanged (s : IceSess) (env : IceEnv) : Bool := (s.remoteUfragSync env).1

/-- And takes that as the end of the pairs ICE nominated. -/
def drops (s : IceSess) (env : IceEnv) : Bool :=
  s.credentialsChanged env && (s.awaitAnswer || s.awaitingSecure env)

/-- The update gets as far as `reassert_selected`; `inside` is whether an estab handler makes it. -/
def reasserts (s : IceSess) (env : IceEnv) (inside : Bool) : Bool :=
  (inside && s.awaitAnswer) || !s.drops env

/-- No pair is delivered to the stream. -/
def Silent (i : Nat) (os : List IceOut) : Prop :=
  ∀ a b, a.isSet = true → .connected i a b ∉ os

/-- What an update does to a stream: its pair is forgotten, or asserted again. -/
inductive StreamUpdate (reasserts : Bool) (i : Nat) (sdp : MediaSdp) (m m' : IceMedia)
    (os : List IceOut) : Prop where
  | forgotten : reasserts = false → m'.selSet = false → Silent i os →
      StreamUpdate reasserts i sdp m m' os
  | reasserted : reasserts = true → IceMedia.SamePair (m.reassert i sdp).1 m' →
      (∀ a b, a.isSet = true →
        (.connected i a b ∈ os ↔ .connected i a b ∈ (m.reassert i sdp).2)) →
      StreamUpdate reasserts i sdp m m' os

/-- The same pairs are delivered to the stream. -/
def SameDeliveries (i : Nat) (os os' : List IceOut) : Prop :=
  ∀ a b, a.isSet = true → (.connected i a b ∈ os' ↔ .connected i a b ∈ os)

theorem SameDeliveries.refl {os : List IceOut} : SameDeliveries i os os := fun _ _ _ => .rfl

theorem Silent.before {os os' : List IceOut} (h : Silent i os') : SameDeliveries i os (os' ++ os) :=
  fun a b ha => by rw [List.mem_append, or_iff_right (h a b ha)]

theorem Silent.after {os os' : List IceOut} (h : Silent i os') : SameDeliveries i os (os ++ os') :=
  fun a b ha => by rw [List.mem_append, or_iff_left (h a b ha)]

theorem SameDeliveries.silent {os os' : List IceOut} (h : SameDeliveries i os os')
    (hos : Silent i os) : Silent i os' :=
  fun a b ha hmem => hos a b ha ((h a b ha).mp hmem)

theorem StreamUpdate.congr {q : Bool} {sdp : MediaSdp} {n n' : IceMedia} {os os' : List IceOut}
    (h : StreamUpdate q i sdp m m' os) (hm : IceMedia.SamePair n m) (hm' : IceMedia.SamePair m' n')
    (hos : SameDeliveries i os os') : StreamUpdate q i sdp n n' os' := by
  cases h with
  | forgotten hq hlost hnone => exact .forgotten hq (hm'.selSet.trans hlost) (hos.silent hnone)
  | reasserted hq hsame hmem =>
      obtain ⟨hreassert, houts⟩ := hm.reassert i sdp
      refine .reasserted hq ((hreassert.trans hsame).trans hm') fun a b ha => ?_
      rw [hos a b ha, hmem a b ha, houts]

theorem mem_reassert {i j : Nat} {sdp : MediaSdp} {a : SaPort} {b : Option SaPort}
    (h : .connected i a b ∈ (m.reassert j sdp).2) : i = j := by
  simp only [IceMedia.reassert] at h
  split at h
  · cases h
  · split at h
    · simp_all
    · split at h
      · cases h
      · simp_all

theorem stream_reassertSelected (hm : s.medial[i]? = some m) :
    (s.reassertSelected env).medial[i]? = some (m.reassert i (env.sdp i)).1 ∧
      ∃ os, (s.reassertSelected env).out = s.out ++ os ∧
        ∀ a b, .connected i a b ∈ os ↔ .connected i a b ∈ (m.reassert i (env.sdp i)).2 := by
  refine ⟨by simp [reassertSelected, hm], _, rfl, fun a b => ?_⟩
  rw [List.mem_flatMap]
  constructor
  · rintro ⟨p, hp, hmem⟩
    obtain ⟨j, hj, rfl⟩ := List.mem_mapIdx.mp hp
    obtain rfl := mem_reassert hmem
    rw [List.getElem?_eq_getElem hj] at hm
    exact Option.some.inj hm ▸ hmem
  · intro hmem
    obtain ⟨hi, rfl⟩ := List.getElem?_eq_some_iff.mp hm
    exact ⟨_, List.mem_mapIdx.mpr ⟨i, hi, rfl⟩, hmem⟩

theorem stream_updated (hm : s.medial[i]? = some m) :
    ∃ m' os, (s.updated env).medial[i]? = some m' ∧ (s.updated env).out = s.out ++ os ∧
      StreamUpdate (!s.drops env) i (env.sdp i) m m' os := by
  have hsynced : (s.remoteUfragSync env).2.medial[i]? = some (m.syncUfrag (env.sdp i)) := by
    simp [remoteUfragSync, hm]
  have hsecure : awaitingSecure env { (s.remoteUfragSync env).2 with awaitAnswer := false } =
      s.awaitingSecure env := by
    simp [awaitingSecure, remoteUfragSync]
  have hforget (r : IceSess) (hr : r.medial = (s.remoteUfragSync env).2.medial.map IceMedia.forget)
      (hout : r.out = s.out) (hdrops : s.drops env = true) :
      ∃ m' os, r.medial[i]? = some m' ∧ r.out = s.out ++ os ∧
        StreamUpdate (!s.drops env) i (env.sdp i) m m' os :=
    ⟨_, [], by rw [hr, List.getElem?_map, hsynced]; rfl, by simp [hout],
      .forgotten (by simp [hdrops]) rfl (by simp [Silent])⟩
  simp only [updated]
  split
  · rename_i hanswer
    obtain ⟨hawait, hchanged⟩ := Bool.and_eq_true_iff.mp hanswer
    have hawait : s.awaitAnswer = true := hawait
    exact hforget _ rfl rfl (by simp [drops, credentialsChanged, hawait, hchanged])
  · rename_i hother
    split
    · rename_i hrestarted
      obtain ⟨hchanged, hinsecure⟩ := Bool.and_eq_true_iff.mp hrestarted
      rw [hsecure] at hinsecure
      have hdrops : s.drops env = true := by
        simp [drops, credentialsChanged, hchanged, hinsecure]
      unfold peerRestarted
      simp only
      split
      · exact hforget _ rfl rfl hdrops
      · split <;> exact hforget _ rfl rfl hdrops
    · rename_i hkept
      have hdrops : s.drops env = false := by
        rw [hsecure] at hkept
        have hother : ¬(s.awaitAnswer && (s.remoteUfragSync env).1) = true := hother
        simp only [drops, credentialsChanged]
        cases hchanged : (s.remoteUfragSync env).1 with
        | false => rfl
        | true =>
            simp only [hchanged, Bool.and_true, Bool.true_and, Bool.not_eq_true] at hother hkept
            simp [hother, hkept]
      obtain ⟨hm', os, hos, hmem⟩ := @stream_reassertSelected env
        { (s.remoteUfragSync env).2 with awaitAnswer := false } i _ hsynced
      obtain ⟨hsame, houts⟩ := (IceMedia.samePair_syncUfrag (m := m) (env.sdp i)).reassert i (env.sdp i)
      exact ⟨_, os, hm', hos, .reasserted (by simp [hdrops]) hsame fun a b _ => by rw [hmem, houts]⟩

theorem stream_updateh (hm : s.medial[i]? = some m) :
    ∃ m' os, (s.updateh env).medial[i]? = some m' ∧ (s.updateh env).out = s.out ++ os ∧
      StreamUpdate (s.reasserts env s.inEstab) i (env.sdp i) m m' os := by
  unfold updateh reasserts
  split
  · rename_i hsuppressed
    obtain ⟨hm', os, hos, hmem⟩ := stream_reassertSelected hm
    exact ⟨_, os, hm', hos, .reasserted (by simp [hsuppressed]) .refl fun a b _ => hmem a b⟩
  · rename_i hdelegated
    have hdrops : (s.emit .update).drops env = s.drops env := rfl
    obtain ⟨m', os, hm', hos, hupdate⟩ := stream_updated (s := s.emit .update) hm
    rw [hdrops] at hupdate
    rw [Bool.not_eq_true] at hdelegated
    refine ⟨m', [.update] ++ os, hm', by rw [hos]; simp [emit], ?_⟩
    rw [hdelegated, Bool.false_or]
    exact hupdate.congr .refl .refl (Silent.before (by simp [Silent]))

/-- What a handler that makes at most the exchange `u` does to a stream ICE nominates nothing for. -/
def StreamWork (s : IceSess) (i : Nat) (m m' : IceMedia) (os : List IceOut) :
    Option (IceEnv × Bool) → Prop
  | none => IceMedia.SamePair m m' ∧ Silent i os
  | some (env, inside) => StreamUpdate (s.reasserts env inside) i (env.sdp i) m m' os

theorem stream_estabRelease (hm : s.medial[i]? = some m) :
    ∃ m' os, (s.estabRelease env).medial[i]? = some m' ∧ (s.estabRelease env).out = s.out ++ os ∧
      StreamWork s i m m' os (if env.modify then some (env, true) else none) := by
  have hoffer : Silent i [.estab false] := by simp [Silent]
  unfold estabRelease
  simp only
  split
  · obtain ⟨m', os, hm', hos, hupdate⟩ :=
      stream_updateh (s := ({ s with inEstab := true }).emit (.estab false)) hm
    exact ⟨m', [.estab false] ++ os, hm', by rw [← List.append_assoc]; exact hos,
      hupdate.congr .refl .refl hoffer.before⟩
  · exact ⟨m, _, hm, rfl, .refl, hoffer⟩

/-- The credentials an update will be compared with, and the answer it may be, are the same. -/
structure SameCredentials (s s' : IceSess) : Prop where
  rufrag : s'.medial.map IceMedia.rufrag = s.medial.map IceMedia.rufrag
  awaitAnswer : s'.awaitAnswer = s.awaitAnswer

theorem SameCredentials.changed (h : SameCredentials s s') :
    s'.credentialsChanged env = s.credentialsChanged env := by
  have hmap (ms : List IceMedia) : (ms.mapIdx fun i m => m.ufragChanged (env.sdp i)) =
      (ms.map IceMedia.rufrag).mapIdx fun i u => decide ((env.sdp i).ufrag ≠ []) && decide (u ≠ []) &&
        decide (u ≠ (env.sdp i).ufrag) := by
    refine List.ext_getElem? fun i => ?_
    simp only [List.getElem?_mapIdx, List.getElem?_map, Option.map_map]
    rfl
  simp only [credentialsChanged, remoteUfragSync, hmap, h.rufrag]

theorem SameCredentials.reasserts (h : SameCredentials s s') (inside : Bool) :
    s'.reasserts env inside = s.reasserts env inside := by
  have hlen : s'.medial.length = s.medial.length := by
    simpa using congrArg List.length h.rufrag
  simp only [IceSess.reasserts, drops, h.changed, h.awaitAnswer, awaitingSecure, hlen]

theorem StreamWork.congr {r : IceSess} {n n' : IceMedia} {os os' : List IceOut}
    {u : Option (IceEnv × Bool)} (h : StreamWork r i m m' os u) (hr : SameCredentials s r)
    (hm : IceMedia.SamePair n m) (hm' : IceMedia.SamePair m' n') (hos : SameDeliveries i os os') :
    StreamWork s i n n' os' u := by
  cases u with
  | none => exact ⟨(hm.trans h.1).trans hm', hos.silent h.2⟩
  | some u =>
      have hupdate := StreamUpdate.congr h hm hm' hos
      rwa [hr.reasserts] at hupdate

theorem stream_primeConncheck (hm : s.medial[i]? = some m) :
    ∃ m' os, (s.primeConncheck env).medial[i]? = some m' ∧
      (s.primeConncheck env).out = s.out ++ os ∧ IceMedia.SamePair m m' ∧ Silent i os := by
  rw [primeConncheck_eq]
  split
  · exact ⟨_, [.update], by simp [remoteUfragSync, emit, hm]; rfl, rfl,
      IceMedia.samePair_syncUfrag _, by simp [Silent]⟩
  · exact ⟨m, [], hm, by simp, .refl, by simp [Silent]⟩

theorem stream_offer (hm : s.medial[i]? = some m) :
    ∃ m' os, (s.offer env).medial[i]? = some m' ∧ (s.offer env).out = s.out ++ os ∧
      StreamWork s i m m' os (if env.modify then some (env, true) else none) := by
  let ready : IceSess := { s.rebaseSignalled env with restarting := false, released := true }
  have hready : ready.medial[i]? = some (m.rebase (env.sdp i)) := by
    simp [ready, rebaseSignalled, hm]
  have hsame : SameCredentials s ready := by
    refine ⟨List.ext_getElem? fun j => ?_, rfl⟩
    simp only [ready, rebaseSignalled, List.getElem?_map, List.getElem?_mapIdx, Option.map_map]
    congr 1
    funext m
    simp only [Function.comp_apply, IceMedia.rebase]
    split <;> rfl
  obtain ⟨m₁, os₁, hm₁, hos₁, hwork⟩ := @stream_estabRelease env ready i _ hready
  obtain ⟨m₂, os₂, hm₂, hos₂, hpair, hsilent⟩ := stream_primeConncheck hm₁
  refine ⟨m₂, os₁ ++ os₂, hm₂, ?_, hwork.congr hsame (IceMedia.samePair_rebase _) hpair hsilent.after⟩
  exact hos₂.trans (by rw [hos₁, List.append_assoc]; rfl)

theorem stream_estab (hm : s.medial[i]? = some m) (hout : s.out = []) (failure : Bool) :
    ∃ m', (s.estab env failure).medial[i]? = some m' ∧
      StreamWork s i m m' (s.estab env failure).out
        (if env.modify && s.offers failure then some (env, true) else none) := by
  let ended : IceSess := ({ s with tmr := none }).emit .gatherOver
  have hover : Silent i [.gatherOver] := by simp [Silent]
  have hoffer (hoffers : s.offers failure = true) :
      ∃ m', (ended.offer env).medial[i]? = some m' ∧ StreamWork s i m m' (ended.offer env).out
        (if env.modify && s.offers failure then some (env, true) else none) := by
    obtain ⟨m', os, hm', hos, hwork⟩ := @stream_offer env ended i m hm
    rw [hoffers, Bool.and_true, hos]
    refine ⟨m', hm', hwork.congr ⟨rfl, rfl⟩ .refl .refl ?_⟩
    simp only [ended, emit, hout, List.nil_append]
    exact hover.before
  have hnone {r : IceSess} (hr : r.medial = s.medial) (hos : Silent i r.out)
      (hoffers : s.offers failure = false) : ∃ m', r.medial[i]? = some m' ∧ StreamWork s i m m' r.out
        (if env.modify && s.offers failure then some (env, true) else none) := by
    rw [hoffers, Bool.and_false]
    exact ⟨m, hr ▸ hm, .refl, hos⟩
  simp only [estab]
  split
  · rename_i hok
    exact hoffer (by simp [offers, show failure = false by simpa using hok])
  · rename_i hfailed
    have hfailed : failure = true := by simpa using hfailed
    split
    · rename_i hreleased
      have hreleased : s.released = true := hreleased
      refine hnone rfl ?_ (by simp [offers, hfailed, hreleased])
      simpa [emit, hout] using hover
    · rename_i hreleased
      have hreleased : s.released = false := Bool.eq_false_iff.mpr hreleased
      split
      · rename_i hrestarting
        have hrestarting : s.restarting = true := hrestarting
        exact hoffer (by simp [offers, hrestarting, hreleased])
      · rename_i hrestarting
        have hrestarting : s.restarting = false := Bool.eq_false_iff.mpr hrestarting
        refine hnone rfl ?_ (by simp [offers, hfailed, hrestarting])
        simp [estabFail, emit, hout, Silent]

theorem stream_gatherDeadline (hm : s.medial[i]? = some m) (hout : s.out = []) :
    ∃ m', (s.gatherDeadline env).medial[i]? = some m' ∧
      StreamWork s i m m' (s.gatherDeadline env).out
        (if env.modify && !s.released then some (env, true) else none) := by
  simp only [gatherDeadline]
  split
  · rename_i hreleased
    rw [hreleased, Bool.not_true, Bool.and_false, hout]
    exact ⟨m, hm, .refl, by simp [Silent]⟩
  · rename_i hreleased
    rw [Bool.eq_false_iff.mpr hreleased, Bool.not_false, Bool.and_true]
    obtain ⟨m', os, hm', hos, hwork⟩ := @stream_estabRelease env
      { s.emit .gatherOver with restarting := false, released := true } i m hm
    refine ⟨m', hm', hwork.congr ⟨rfl, rfl⟩ .refl .refl ?_⟩
    rw [hos, emit, hout]
    exact Silent.before (by simp [Silent])

theorem stream_reofferRelease (hm : s.medial[i]? = some m) :
    ∃ m' os, (s.reofferRelease env).medial[i]? = some m' ∧
      (s.reofferRelease env).out = s.out ++ os ∧
      StreamWork s i m m' os (if env.modify then some (env, true) else none) := by
  obtain ⟨m', os, hm', hos, hwork⟩ := @stream_estabRelease env { s with tmrReoffer := none } i m hm
  exact ⟨m', os, hm', hos, hwork.congr ⟨rfl, rfl⟩ .refl .refl .refl⟩

theorem stream_reofferDeadline (hm : s.medial[i]? = some m) (hout : s.out = []) :
    ∃ m', (s.reofferDeadline env).medial[i]? = some m' ∧
      StreamWork s i m m' (s.reofferDeadline env).out
        (if env.modify && !s.awaitingSecure env then some (env, true) else none) := by
  unfold reofferDeadline
  split
  · rename_i hinsecure
    rw [hinsecure, Bool.not_true, Bool.and_false]
    refine ⟨m, by split <;> exact hm, .refl, ?_⟩
    split <;> simp [hout, Silent]
  · rename_i hsecure
    rw [Bool.eq_false_iff.mpr hsecure, Bool.not_false, Bool.and_true]
    obtain ⟨m', os, hm', hos, hwork⟩ := @stream_reofferRelease env s i m hm
    refine ⟨m', hm', hwork.congr ⟨rfl, rfl⟩ .refl .refl ?_⟩
    rw [hos, hout]
    exact .refl

theorem stream_reofferCandidate (hm : s.medial[i]? = some m) :
    ∃ m' os, (s.reofferCandidate env).medial[i]? = some m' ∧
      (s.reofferCandidate env).out = s.out ++ os ∧
      StreamWork s i m m' os
        (if env.modify && (!s.reoffered && !s.awaitingSecure env) then some (env, true) else none) := by
  have hnone {r : IceSess} (hr : r.medial = s.medial) (hout : r.out = s.out) :
      ∃ m' os, r.medial[i]? = some m' ∧ r.out = s.out ++ os ∧ StreamWork s i m m' os none :=
    ⟨m, [], hr ▸ hm, by simp [hout], .refl, by simp [Silent]⟩
  unfold reofferCandidate
  split
  · rename_i hdone
    rw [hdone, Bool.not_true, Bool.false_and, Bool.and_false]
    exact hnone rfl rfl
  · rename_i hfirst
    rw [Bool.eq_false_iff.mpr hfirst, Bool.not_false, Bool.true_and]
    simp only
    split
    · rename_i hinsecure
      have hinsecure : s.awaitingSecure env = true := hinsecure
      rw [hinsecure, Bool.not_true, Bool.and_false]
      exact hnone rfl rfl
    · rename_i hsecure
      have hsecure : s.awaitingSecure env = false := Bool.eq_false_iff.mpr hsecure
      rw [hsecure, Bool.not_false, Bool.and_true]
      obtain ⟨m', os, hm', hos, hwork⟩ := @stream_reofferRelease env { s with reoffered := true } i m hm
      exact ⟨m', os, hm', hos, hwork.congr ⟨rfl, rfl⟩ .refl .refl .refl⟩

theorem rufrag_select (raddr1 : SaPort) (raddr2 : Option SaPort) (sdp : MediaSdp) :
    (m.select raddr1 raddr2 sdp).rufrag = m.rufrag := by
  unfold IceMedia.select
  split <;> rfl

/-- The conclusion of checks on the stream `j`, once the call is answered, for any stream. -/
theorem stream_connected {j : Nat} {n : IceMedia} {raddr1 : SaPort} {raddr2 : Option SaPort}
    (hincoming : env.incoming = false) (hj : s.medial[j]? = some n) (hout : s.out = [])
    (hm : (s.medial.set j (n.select raddr1 raddr2 (env.sdp j)))[i]? = some m) :
    ∃ m' os, (s.connected env j raddr1 raddr2).medial[i]? = some m' ∧
      (s.connected env j raddr1 raddr2).out = .connected j raddr1 raddr2 :: os ∧
      StreamWork s i m m' os
        (if env.modify && s.offersCandidate env j then some (env, true) else none) := by
  let told : IceSess := ({ s with medial := s.medial.set j (n.select raddr1 raddr2 (env.sdp j)) }).emit
    (.connected j raddr1 raddr2)
  have hsame : SameCredentials s told := by
    obtain ⟨hlt, hget⟩ := List.getElem?_eq_some_iff.mp hj
    refine ⟨?_, rfl⟩
    simp only [told, emit, List.map_set, rufrag_select]
    rw [← hget, ← List.getElem_map IceMedia.rufrag (h := by simpa using hlt), List.set_getElem_self]
  have hsecure : told.awaitingSecure env = s.awaitingSecure env := by
    simp [told, emit, awaitingSecure]
  have htold : told.out = [.connected j raddr1 raddr2] := by simp [told, emit, hout]
  simp only [connected, hj, hincoming, Bool.false_eq_true, if_false]
  split
  · rename_i hnever
    rw [neverSignalled_select] at hnever
    obtain ⟨m', os, hm', hos, hwork⟩ := @stream_reofferCandidate env told i m hm
    refine ⟨m', os, hm', by rw [hos, htold]; rfl, ?_⟩
    have hcond : (!told.reoffered && !told.awaitingSecure env) = s.offersCandidate env j := by
      rw [hsecure]
      simp [offersCandidate, hj, hincoming, hnever, told, emit]
    rw [hcond] at hwork
    exact hwork.congr hsame .refl .refl .refl
  · rename_i hsignalled
    rw [neverSignalled_select] at hsignalled
    have hcond : s.offersCandidate env j = false := by
      simp [offersCandidate, hj, Bool.eq_false_iff.mpr hsignalled]
    rw [hcond, Bool.and_false]
    exact ⟨m, [], hm, htold, .refl, by simp [Silent]⟩

/-- The exchange a step shows `ice_updateh`, and whether an estab handler makes it. -/
def updateOf (s : IceSess) : IceAct → Option (IceEnv × Bool)
  | .updateh env => some (env, false)
  | .estab failure env => if env.modify && s.offers failure then some (env, true) else none
  | .gatherDeadline env => if env.modify && !s.released then some (env, true) else none
  | .reofferDeadline env => if env.modify && !s.awaitingSecure env then some (env, true) else none
  | .connected j _ _ env => if env.modify && s.offersCandidate env j then some (env, true) else none
  | _ => none

/-- The step replaces the session underneath. -/
def restarts (s : IceSess) : IceAct → Bool
  | .restart _ env | .rrestart env => !s.medial.isEmpty && !s.restarting && env.sessh.isNone
  | _ => false

/-- What a step does to a stream ICE nominates nothing for. -/
inductive StreamStep (s : IceSess) (i : Nat) (act : IceAct) (m m' : IceMedia)
    (os : List IceOut) : Prop where
  | worked : StreamWork s i m m' os (s.updateOf act) → StreamStep s i act m m' os
  | restarted : s.restarts act = true → m'.selSet = false → Silent i os →
      StreamStep s i act m m' os

theorem stream_restart {r : IceSess} {act : IceAct} (hm : r.medial[i]? = some m) (hout : r.out = [])
    (laddr : Sa) (hupdate : s.updateOf act = none)
    (hrestarts : s.restarts act = (!r.medial.isEmpty && !r.restarting && env.sessh.isNone)) :
    ∃ m', (r.restart g env laddr).2.medial[i]? = some m' ∧
      StreamStep s i act m m' (r.restart g env laddr).2.out := by
  have hnothing : ∃ m', r.medial[i]? = some m' ∧ StreamStep s i act m m' r.out := by
    refine ⟨m, hm, .worked ?_⟩
    rw [hupdate]
    exact ⟨.refl, by simp [hout, Silent]⟩
  unfold restart
  split
  · exact hnothing
  · rename_i hstreams
    split
    · exact hnothing
    · rename_i hidle
      split
      · exact hnothing
      · rename_i hsessh
        rw [Bool.eq_false_iff.mpr hstreams, Bool.eq_false_iff.mpr hidle, hsessh] at hrestarts
        exact ⟨_, by simp [hm]; rfl, .restarted hrestarts rfl (by simp [hout, Silent])⟩

/-- A stream ICE nominates a pair for once the call is answered holds none; one it concludes on without an
address while the phone rings has no pair that has been delivered. -/
def concludesOnce (s : IceSess) : IceAct → Bool
  | .connected j raddr1 _ env => (s.medial[j]?).all fun m =>
      if env.incoming then raddr1.isSet || m.held || !m.selSet else !raddr1.isSet || !m.held
  | _ => true

theorem stream_connected_other {j : Nat} {raddr1 : SaPort} {raddr2 : Option SaPort}
    (hm : s.medial[i]? = some m)
    (hother : (IceAct.connected j raddr1 raddr2 env).nominates i = false)
    (hheld : m.held = true ∨ s.concludesOnce (.connected j raddr1 raddr2 env) = true) :
    ∃ m', (s.idle.connected env j raddr1 raddr2).medial[i]? = some m' ∧
      StreamStep s i (.connected j raddr1 raddr2 env) m m'
        (s.idle.connected env j raddr1 raddr2).out := by
  simp only [IceAct.nominates, Bool.and_eq_false_iff, decide_eq_false_iff_not] at hother
  have hsilent : Silent i [.connected j raddr1 raddr2] := by
    intro a b ha h
    simp only [List.mem_singleton, IceOut.connected.injEq] at h
    obtain ⟨rfl, rfl, -⟩ := h
    rcases hother with hne | hunset
    · exact hne rfl
    · exact absurd (hunset.symm.trans ha) (by simp)
  cases hj : s.medial[j]? with
  | none =>
      have hnothing : s.idle.connected env j raddr1 raddr2 = s.idle := by
        simp [connected, idle, hj]
      have hnone : s.updateOf (.connected j raddr1 raddr2 env) = none := by
        simp [updateOf, offersCandidate, hj]
      rw [hnothing]
      refine ⟨m, hm, .worked ?_⟩
      rw [hnone]
      exact ⟨.refl, by simp [idle, Silent]⟩
  | some n =>
      -- the stream itself keeps its pair, having been given no address
      have hselect (h : j = i) : n.select raddr1 raddr2 (env.sdp j) = m := by
        obtain rfl := h
        obtain rfl : n = m := Option.some.inj (hj.symm.trans hm)
        exact if_neg (by simpa using hother.resolve_left fun hne => hne rfl)
      cases hincoming : env.incoming with
      | true =>
          have hnone : s.updateOf (.connected j raddr1 raddr2 env) = none := by
            simp [updateOf, offersCandidate, hj, hincoming]
          simp only [connected, idle, hj, hincoming, if_true]
          by_cases hji : j = i
          · have hkept : (m.held || m.selSet) = m.held := by
              rcases hheld with hheld | honce
              · simp [hheld]
              · obtain rfl := hji
                rw [concludesOnce, hm, Option.all_some, hincoming, if_pos rfl,
                  hother.resolve_left fun hne => hne rfl] at honce
                cases hset : m.selSet <;> simp_all
            rw [hselect hji, hkept]
            refine ⟨m, ?_, .worked ?_⟩
            · obtain rfl := hji
              simp [(List.getElem?_eq_some_iff.mp hm).1]
            · rw [hnone]
              exact ⟨.refl, by simp [Silent]⟩
          · refine ⟨m, by rw [List.getElem?_set_ne hji]; exact hm, .worked ?_⟩
            rw [hnone]
            exact ⟨.refl, by simp [Silent]⟩
      | false =>
          have hm₁ : (s.medial.set j (n.select raddr1 raddr2 (env.sdp j)))[i]? = some m := by
            by_cases hji : j = i
            · rw [hselect hji]
              obtain rfl := hji
              simp [(List.getElem?_eq_some_iff.mp hm).1]
            · rw [List.getElem?_set_ne hji]
              exact hm
          obtain ⟨m', os, hm', hos, hwork⟩ := @stream_connected env s.idle i m j n raddr1 raddr2
            hincoming hj rfl hm₁
          refine ⟨m', hm', .worked ?_⟩
          rw [hos]
          exact hwork.congr ⟨rfl, rfl⟩ .refl .refl hsilent.before

/-- A step does at most one of three things to a stream it nominates nothing for. -/
theorem stream_step {act : IceAct} {os : List IceOut} (hm : s.medial[i]? = some m)
    (hidle : s.inEstab = false) (hother : act.nominates i = false)
    (hheld : m.held = true ∨ s.concludesOnce act = true)
    (hstep : (iceSystem g).step s act = some (s', os)) :
    ∃ m', s'.medial[i]? = some m' ∧ StreamStep s i act m m' os := by
  have hworked {r : IceSess} {act : IceAct} {u : Option (IceEnv × Bool)}
      (hu : s.updateOf act = u)
      (h : ∃ m', r.medial[i]? = some m' ∧ StreamWork s i m m' r.out u) :
      ∃ m', r.medial[i]? = some m' ∧ StreamStep s i act m m' r.out := by
    obtain ⟨m', hm', hwork⟩ := h
    exact ⟨m', hm', .worked (hu ▸ hwork)⟩
  simp only [iceSystem] at hstep
  split at hstep
  · cases hstep
    cases act with
    | mediah env =>
        refine hworked rfl ⟨m, ?_, .refl, by simp [handle, idle, Silent]⟩
        exact (List.getElem?_append_left (List.getElem?_eq_some_iff.mp hm).1).trans hm
    | elapse ms => exact hworked rfl ⟨m, hm, .refl, by simp [handle, idle, Silent]⟩
    | estab failure env => exact hworked rfl (stream_estab (s := s.idle) hm rfl failure)
    | gatherDeadline env =>
        exact hworked rfl (stream_gatherDeadline (s := { s.idle with tmr := none }) hm rfl)
    | reofferDeadline env =>
        exact hworked rfl (stream_reofferDeadline (s := { s.idle with tmrReoffer := none }) hm rfl)
    | connected j raddr1 raddr2 env => exact stream_connected_other hm hother hheld
    | updateh env =>
        obtain ⟨m', os, hm', hos, hupdate⟩ := @stream_updateh env s.idle i m hm
        rw [show s.idle.inEstab = false from hidle] at hupdate
        have hout : (s.idle.updateh env).out = os := hos
        exact hworked rfl ⟨m', hm', hout ▸ hupdate⟩
    | restart laddr env => exact stream_restart (r := s.idle) hm rfl laddr rfl rfl
    | rrestart env =>
        exact stream_restart (r := { s.idle with tmrRrestart := none }) hm rfl .unset rfl rfl
  · cases hstep

/-- The pair is delivered to the stream, and nothing else is. -/
def Delivers (i : Nat) (m : IceMedia) (os : List IceOut) : Prop :=
  ∀ a b, a.isSet = true → (.connected i a b ∈ os ↔ .connected i a b = m.pair i)

/-- An exchange forgets the pair, delivers one that was held, or delivers one again. -/
theorem StreamUpdate.lost_or_delivered {q : Bool} {sdp : MediaSdp} {os : List IceOut}
    (h : StreamUpdate q i sdp m m' os) :
    (m'.selSet = false ∧ Silent i os ∧ (q = false ∨ m.selSet = false ∨ m.held = false)) ∨
      (q = true ∧ m.selSet = true ∧ m.held = true ∧ IceMedia.SamePair { m with held := false } m' ∧
        Delivers i m os) ∨
      (m.selSet = true ∧ m.held = false ∧ sdp.raddr.cmp m.rsig = true ∧ IceMedia.SamePair m m' ∧
        Delivers i m os) := by
  cases h with
  | forgotten hq hlost hnone => exact .inl ⟨hlost, hnone, .inl hq⟩
  | reasserted hq hsame hmem =>
      have hgone (hwas : m.selSet = false ∨ (m.held = false ∧ sdp.raddr.cmp m.rsig = false)) :
          m'.selSet = false ∧ Silent i os := by
        obtain ⟨hlost, hnone⟩ := IceMedia.reassert_lost (i := i) hwas
        refine ⟨hsame.selSet.trans hlost, fun a b ha h => ?_⟩
        rw [hmem a b ha, hnone] at h
        cases h
      cases hset : m.selSet with
      | false => exact .inl ⟨(hgone (.inl hset)).1, (hgone (.inl hset)).2, .inr (.inl rfl)⟩
      | true =>
          cases hheld : m.held with
          | true =>
              rw [IceMedia.reassert_held hset hheld] at hsame hmem
              exact .inr (.inl ⟨hq, rfl, rfl, ⟨hsame.selected, hsame.selectedRtcp, hsame.rsig,
                hsame.selSet.trans hset, hsame.held⟩, fun a b ha => by simp [hmem a b ha]⟩)
          | false =>
              cases hstill : sdp.raddr.cmp m.rsig with
              | false =>
                  have hlost := hgone (.inr ⟨hheld, hstill⟩)
                  exact .inl ⟨hlost.1, hlost.2, .inr (.inr rfl)⟩
              | true =>
                  rw [IceMedia.reassert_again hset hheld hstill] at hsame hmem
                  exact .inr (.inr ⟨rfl, rfl, rfl, ⟨hsame.selected, hsame.selectedRtcp, hsame.rsig,
                    hsame.selSet, hsame.held⟩, fun a b ha => by simp [hmem a b ha]⟩)

/-- A pair that is still there after some work is the one that was. -/
theorem StreamWork.remembered {u : Option (IceEnv × Bool)} {os : List IceOut}
    (h : StreamWork s i m m' os u) (hset : m'.selSet = true) :
    m'.selected = m.selected ∧ m'.selectedRtcp = m.selectedRtcp ∧ m'.rsig = m.rsig ∧
      (m'.held = true → m.held = true) := by
  cases u with
  | none =>
      obtain ⟨hsame, -⟩ := h
      exact ⟨hsame.selected, hsame.selectedRtcp, hsame.rsig, fun h => hsame.held.symm.trans h⟩
  | some u =>
      rcases StreamUpdate.lost_or_delivered h with
        ⟨hlost, -⟩ | ⟨-, -, hheld, hsame, -⟩ | ⟨-, -, -, hsame, -⟩
      · exact absurd (hlost.symm.trans hset) (by simp)
      · exact ⟨hsame.selected, hsame.selectedRtcp, hsame.rsig, fun _ => hheld⟩
      · exact ⟨hsame.selected, hsame.selectedRtcp, hsame.rsig, fun h => hsame.held.symm.trans h⟩

/-- The stream remembers the pair as ICE nominated it. -/
structure Remembers (raddr1 : SaPort) (raddr2 : Option SaPort) (sdp : MediaSdp) (m : IceMedia) :
    Prop where
  selected : m.selected = raddr1
  selectedRtcp : m.selectedRtcp = raddr2
  rsig : m.rsig = sdp.raddr

variable {raddr1 : SaPort} {raddr2 : Option SaPort} {os : List IceOut}

/-- While the phone rings the pair is held, and nothing is delivered. -/
theorem stream_ringing (hm : s.medial[i]? = some m) (hset : raddr1.isSet = true)
    (hincoming : env.incoming = true)
    (hstep : (iceSystem g).step s (.connected i raddr1 raddr2 env) = some (s', os)) :
    ∃ m', s'.medial[i]? = some m' ∧ m'.selSet = true ∧ m'.held = true ∧
      Remembers raddr1 raddr2 (env.sdp i) m' := by
  simp only [iceSystem] at hstep
  split at hstep
  · cases hstep
    simp only [handle, connected, idle, hm, hincoming, if_true]
    refine ⟨_, List.getElem?_set_self (List.getElem?_eq_some_iff.mp hm).1, ?_⟩
    simp only [IceMedia.select, hset, if_true, Bool.or_true, true_and]
    exact ⟨rfl, rfl, rfl⟩
  · cases hstep

theorem stream_nominated (hm : s.medial[i]? = some m) (hset : raddr1.isSet = true)
    (hstep : (iceSystem g).step s (.connected i raddr1 raddr2 env) = some (s', os)) :
    ∃ m', s'.medial[i]? = some m' ∧ (m'.selSet = true →
      Remembers raddr1 raddr2 (env.sdp i) m' ∧
        (m'.held = true → env.incoming = true ∨ m.held = true)) := by
  cases hincoming : env.incoming with
  | true =>
      obtain ⟨m', hm', -, -, hpair⟩ := stream_ringing hm hset hincoming hstep
      exact ⟨m', hm', fun _ => ⟨hpair, fun _ => .inl rfl⟩⟩
  | false =>
      simp only [iceSystem] at hstep
      split at hstep
      · cases hstep
        obtain ⟨m', os, hm', -, hwork⟩ := @stream_connected env s.idle i
          (m.select raddr1 raddr2 (env.sdp i)) i m raddr1 raddr2 hincoming hm rfl
          (by simp [idle, (List.getElem?_eq_some_iff.mp hm).1])
        have hselect : m.select raddr1 raddr2 (env.sdp i) =
            { m with
              selected := raddr1, selectedRtcp := raddr2, rsig := (env.sdp i).raddr, selSet := true } :=
          if_pos hset
        rw [hselect] at hwork
        refine ⟨m', hm', fun hset' => ?_⟩
        obtain ⟨hselected, hrtcp, hrsig, hheld⟩ := hwork.remembered hset'
        exact ⟨⟨hselected, hrtcp, hrsig⟩, fun h => .inr (hheld h)⟩
      · cases hstep

/-- No peer has moved from a stream whose pair is held. -/
def heldInPlace (s : IceSess) (env : IceEnv) : Bool :=
  (s.medial.mapIdx fun i m => !(m.selSet && m.held) || (env.sdp i).raddr.cmp m.rsig).all id

theorem heldInPlace_stream (h : s.heldInPlace env = true) (hm : s.medial[i]? = some m)
    (hset : m.selSet = true) (hheld : m.held = true) : (env.sdp i).raddr.cmp m.rsig = true := by
  obtain ⟨hlt, rfl⟩ := List.getElem?_eq_some_iff.mp hm
  have hstream := List.all_eq_true.mp h _ (List.mem_mapIdx.mpr ⟨i, hlt, rfl⟩)
  simpa [hset, hheld] using hstream

/-- The steps after which a held pair is one that has never been delivered, and no pair is kept whose peer
has moved. -/
def keepsPairs (s : IceSess) (act : IceAct) : Bool :=
  s.concludesOnce act && (s.updateOf act).all fun u => !s.reasserts u.1 u.2 || s.heldInPlace u.1

/-- Should the step show the update handler an exchange, the peer signals the address. -/
def StillAt (i : Nat) (rsig : SaPort) (s : IceSess) (act : IceAct) : Prop :=
  ∀ u, s.updateOf act = some u → (u.1.sdp i).raddr.cmp rsig = true

/-- The step shows the update handler no exchange. -/
def NoExchange (s : IceSess) (act : IceAct) : Prop := s.updateOf act = none

/-- What a stretch that nominates nothing for the stream leaves of the pair nominated at its start. -/
structure PairKept (g : Cfg) (i : Nat) (raddr1 : SaPort) (raddr2 : Option SaPort) (env : IceEnv)
    (r : IceSess) (t : Trace IceAct IceOut) (s : IceSess) (m : IceMedia) : Prop where
  remembers : Remembers raddr1 raddr2 (env.sdp i) m
  held : m.held = true → env.incoming = true ∧ (iceSystem g).Steps NoExchange r t s ∧
    Silent i t.outs
  delivered : m.held = false → (iceSystem g).Steps (StillAt i (env.sdp i).raddr) r t s

theorem PairKept.step {r : IceSess} {t : Trace IceAct IceOut} {act : IceAct}
    (h : m.selSet = true → PairKept g i raddr1 raddr2 env r t s m) (hm : s.medial[i]? = some m)
    (hkeeps : s.keepsPairs act = true) (hstep : (iceSystem g).step s act = some (s', os))
    (hstream : StreamStep s i act m m' os) (hset : m'.selSet = true) :
    PairKept g i raddr1 raddr2 env r (t ++ [(act, os)]) s' m' := by
  cases hstream with
  | restarted _ hlost _ => exact absurd (hlost.symm.trans hset) (by simp)
  | worked hwork =>
      obtain ⟨-, hplace⟩ := Bool.and_eq_true_iff.mp hkeeps
      cases hu : s.updateOf act with
      | none =>
          rw [hu] at hwork
          obtain ⟨hsame, hsilent⟩ := hwork
          have hkept := h (hsame.selSet.symm.trans hset)
          have hnone : StillAt i (env.sdp i).raddr s act := fun u h => by simp [hu] at h
          refine ⟨⟨hsame.selected.trans hkept.remembers.selected,
            hsame.selectedRtcp.trans hkept.remembers.selectedRtcp,
            hsame.rsig.trans hkept.remembers.rsig⟩, fun hheld => ?_, fun hheld => ?_⟩
          · obtain ⟨hincoming, hsteps, hquiet⟩ := hkept.held (hsame.held.symm.trans hheld)
            refine ⟨hincoming, hsteps.step hu hstep, fun a b ha hmem => ?_⟩
            simp only [Trace.outs_append, Trace.outs_singleton, List.mem_append] at hmem
            exact hmem.elim (hquiet a b ha) (hsilent a b ha)
          · exact (hkept.delivered (hsame.held.symm.trans hheld)).step hnone hstep
      | some u =>
          rw [hu] at hwork hplace
          obtain ⟨hselected, hrtcp, hrsig, -⟩ := StreamWork.remembered hwork hset
          have hstill (hat : (u.1.sdp i).raddr.cmp (env.sdp i).raddr = true) :
              StillAt i (env.sdp i).raddr s act := fun v hv => by
            rw [hu] at hv
            exact Option.some.inj hv ▸ hat
          have hafter (hkept : PairKept g i raddr1 raddr2 env r t s m) (hheld : m'.held = false)
              (hsteps : (iceSystem g).Steps (StillAt i (env.sdp i).raddr) r (t ++ [(act, os)]) s') :
              PairKept g i raddr1 raddr2 env r (t ++ [(act, os)]) s' m' :=
            ⟨⟨hselected.trans hkept.remembers.selected, hrtcp.trans hkept.remembers.selectedRtcp,
              hrsig.trans hkept.remembers.rsig⟩, fun h => absurd (hheld.symm.trans h) (by simp),
              fun _ => hsteps⟩
          rcases StreamUpdate.lost_or_delivered hwork with
            ⟨hlost, -⟩ | ⟨hreasserts, hwas, hheld, hsame, -⟩ | ⟨hwas, hheld, hat, hsame, -⟩
          · exact absurd (hlost.symm.trans hset) (by simp)
          · -- the held pair has been delivered, to a peer that is still where it was
            have hkept := h hwas
            obtain ⟨-, hsteps, -⟩ := hkept.held hheld
            rw [Option.all_some, show s.reasserts u.1 u.2 = true from hreasserts, Bool.not_true,
              Bool.false_or] at hplace
            have hat := heldInPlace_stream hplace hm hwas hheld
            rw [hkept.remembers.rsig] at hat
            have hnone : ∀ s act, NoExchange s act → StillAt i (env.sdp i).raddr s act :=
              fun s act hu v hv => by rw [hu] at hv; cases hv
            exact hafter hkept hsame.held ((hsteps.mono hnone).step (hstill hat) hstep)
          · have hkept := h hwas
            rw [hkept.remembers.rsig] at hat
            exact hafter hkept (hsame.held.trans hheld)
              ((hkept.delivered hheld).step (hstill hat) hstep)

end IceSess

namespace IceSess

variable {g : Cfg} {env : IceEnv} {r s s' : IceSess} {i : Nat} {m : IceMedia} {raddr1 : SaPort}
  {raddr2 : Option SaPort} {t : Trace IceAct IceOut}

/-- The stream holds the pair ICE nominated. -/
structure Holds (i : Nat) (raddr1 : SaPort) (raddr2 : Option SaPort) (sdp : MediaSdp) (s : IceSess)
    (m : IceMedia) : Prop where
  stream : s.medial[i]? = some m
  selSet : m.selSet = true
  held : m.held = true
  remembers : Remembers raddr1 raddr2 sdp m

/-- It does so until the next exchange. -/
theorem Holds.since (hholds : ∃ m, Holds i raddr1 raddr2 (env.sdp i) r m) (hidle : r.inEstab = false)
    (hsteps : (iceSystem g).Steps
      (fun s act => s.updateOf act = none ∧ act.nominates i = false ∧ s.restarts act = false) r t s) :
    (∃ m, Holds i raddr1 raddr2 (env.sdp i) s m) ∧ s.inEstab = false := by
  induction hsteps with
  | refl => exact ⟨hholds, hidle⟩
  | step _ hquiet hstep ih =>
      obtain ⟨⟨m, hm⟩, hidle⟩ := ih
      obtain ⟨hnone, hother, hkept⟩ := hquiet
      obtain ⟨m', hm', hstream⟩ := stream_step hm.stream hidle hother (.inl hm.held) hstep
      refine ⟨?_, inEstab_step hidle hstep⟩
      cases hstream with
      | restarted hrestarts _ _ => exact absurd (hkept.symm.trans hrestarts) (by simp)
      | worked hwork =>
          rw [hnone] at hwork
          obtain ⟨hsame, -⟩ := hwork
          exact ⟨m', hm', hsame.selSet.trans hm.selSet, hsame.held.trans hm.held,
            hsame.selected.trans hm.remembers.selected,
            hsame.selectedRtcp.trans hm.remembers.selectedRtcp,
            hsame.rsig.trans hm.remembers.rsig⟩

theorem concludesOnce_of_keepsPairs {act : IceAct} (h : s.keepsPairs act = true) :
    s.concludesOnce act = true :=
  (Bool.and_eq_true_iff.mp h).1

/-- Right after a nomination that meets the condition the pair is kept. -/
theorem PairKept.start {os : List IceOut} (hm : s.medial[i]? = some m) (hset : raddr1.isSet = true)
    (hkeeps : s.keepsPairs (.connected i raddr1 raddr2 env) = true)
    (hstep : (iceSystem g).step s (.connected i raddr1 raddr2 env) = some (s', os)) :
    ∃ m', s'.medial[i]? = some m' ∧
      (m'.selSet = true → PairKept g i raddr1 raddr2 env s' [] s' m') := by
  obtain ⟨m', hm', hpair⟩ := stream_nominated hm hset hstep
  refine ⟨m', hm', fun h => ?_⟩
  obtain ⟨hremembers, hheld⟩ := hpair h
  refine ⟨hremembers, fun h => ⟨?_, .refl, by simp [Silent]⟩, fun _ => .refl⟩
  rcases hheld h with hincoming | hheld
  · exact hincoming
  · have honce := concludesOnce_of_keepsPairs hkeeps
    rw [concludesOnce, hm, Option.all_some, hset, hheld] at honce
    cases hincoming : env.incoming with
    | true => rfl
    | false => simp [hincoming] at honce

theorem PairKept.since {t' : Trace IceAct IceOut}
    (hkept : ∃ m, r.medial[i]? = some m ∧ (m.selSet = true → PairKept g i raddr1 raddr2 env r [] r m))
    (hidle : r.inEstab = false)
    (hsteps : (iceSystem g).Steps
      (fun s act => s.keepsPairs act = true ∧ act.nominates i = false) r t' s) :
    (∃ m, s.medial[i]? = some m ∧ (m.selSet = true → PairKept g i raddr1 raddr2 env r t' s m)) ∧
      s.inEstab = false := by
  induction hsteps with
  | refl => exact ⟨hkept, hidle⟩
  | step _ hC hstep ih =>
      obtain ⟨⟨m, hm, hpair⟩, hidle⟩ := ih
      obtain ⟨m', hm', hstream⟩ :=
        stream_step hm hidle hC.2 (.inr (concludesOnce_of_keepsPairs hC.1)) hstep
      exact ⟨⟨m', hm', PairKept.step hpair hm hC.1 hstep hstream⟩, inEstab_step hidle hstep⟩

end IceSess

/-- The network of `gathered` while the phone rings. -/
def IceEnv.ringing : IceEnv := { IceEnv.gathered with incoming := true, modify := false }

end VoxSdk
