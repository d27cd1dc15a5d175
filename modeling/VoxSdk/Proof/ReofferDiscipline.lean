import VoxSdk.Proof.IceGather
import VoxSdk.Proof.IceMedia

/-!
# The re-offer of a candidate nobody was told about

A stream that ends up on an address that was never signalled asks for a re-offer; the first to ask is heard, and
the offer waits for the media encryption, but not for ever. A restart makes a new generation, in which a stream
may ask again; the timer that holds the offer of the old one goes on running.
-/

namespace VoxSdk

open Reactive

/-- A restart that goes through. -/
def IceOut.isRestart : IceOut → Bool
  | .restart _ => true
  | _ => false

namespace IceSess

variable {g : Cfg} {env : IceEnv} {s s' s'' : IceSess} {act : IceAct} {os : List IceOut}

/-- A stream concludes on an address the peer was never told. -/
def asks (s : IceSess) : IceAct → Bool
  | .connected i _ _ env => !env.incoming && s.medial[i]?.any fun m => m.neverSignalled (env.sdp i)
  | _ => false

/-- The step finds the handshake pending when the offer has been held for as long as it may be. -/
def lapses (s : IceSess) (asked : Option Nat) : IceAct → Bool
  | .reofferDeadline env =>
      s.awaitingSecure env && asked.any fun since => decide (since + iceReofferSecureDeadlineMs ≤ s.now)
  | _ => false

/-- A restart leaves no held offer behind. -/
def keepsReoffer (s : IceSess) (act : IceAct) : Bool := !(s.restarts act && s.tmrReoffer.isRunning)

end IceSess

/-- What the step hands to baresip is a re-offer: the other offers are those of a gather. -/
def IceAct.reoffers (act : IceAct) (os : List IceOut) : Bool :=
  match act with
  | .connected .. | .reofferDeadline _ => decide (.estab false ∈ os)
  | _ => false

/-- What has come of the re-offer since the session started or was last restarted: when a stream asked for it,
how often one was handed over, whether it was held until it lapsed. -/
structure Reoffer where
  asked : Option Nat
  handed : Nat
  lapsed : Bool
  deriving DecidableEq

namespace Reoffer

def none : Reoffer := { asked := Option.none, handed := 0, lapsed := false }

/-- A step as it bears on the re-offer. -/
def next (s : IceSess) (act : IceAct) (os : List IceOut) (r : Reoffer) : Reoffer :=
  if os.any IceOut.isRestart then none
  else
    { asked := r.asked.or (if s.asks act then some s.now else Option.none)
      handed := if act.reoffers os then r.handed + 1 else r.handed
      lapsed := r.lapsed || s.lapses r.asked act }

end Reoffer

/-- A re-offer as it should be: the first of its generation, asked for in it, while no handshake is pending,
and not after it has lapsed. -/
structure Disciplined (s : IceSess) (r : Reoffer) (act : IceAct) (r' : Reoffer) : Prop where
  first : r.handed = 0
  asked : r'.asked ≠ none
  secure : ∀ env, act = .reofferDeadline env ∨ (∃ i raddr1 raddr2, act = .connected i raddr1 raddr2 env) →
    s.awaitingSecure env = false
  kept : r.lapsed = false

namespace IceSess

variable {g : Cfg} {env : IceEnv} {s s' s'' : IceSess} {act : IceAct} {os : List IceOut}

/-! ### What leaves the re-offer alone -/

/-- The second session is the first after work beside its re-offer, which restarts nothing. -/
structure SameReoffer (s s' : IceSess) : Prop where
  reoffered : s'.reoffered = s.reoffered
  tmrReoffer : s'.tmrReoffer = s.tmrReoffer
  reofferDue : s'.reofferDue = s.reofferDue
  out : ∃ os, s'.out = s.out ++ os ∧ os.any IceOut.isRestart = false

theorem SameReoffer.trans (h : SameReoffer s s') (h' : SameReoffer s' s'') : SameReoffer s s'' := by
  obtain ⟨os, hos, hnone⟩ := h.out
  obtain ⟨os', hos', hnone'⟩ := h'.out
  refine ⟨h'.reoffered.trans h.reoffered, h'.tmrReoffer.trans h.tmrReoffer, h'.reofferDue.trans h.reofferDue,
    os ++ os', ?_, ?_⟩
  · rw [hos', hos, List.append_assoc]
  · rw [List.any_append, hnone, hnone', Bool.or_false]

theorem SameReoffer.refl : SameReoffer s s := ⟨rfl, rfl, rfl, [], (List.append_nil _).symm, rfl⟩

/-- A field that has nothing to do with the re-offer is written. -/
theorem SameReoffer.update (h : SameReoffer s s') (hreoffered : s''.reoffered = s'.reoffered)
    (htmr : s''.tmrReoffer = s'.tmrReoffer) (hdue : s''.reofferDue = s'.reofferDue)
    (hout : s''.out = s'.out) : SameReoffer s s'' :=
  ⟨hreoffered.trans h.reoffered, htmr.trans h.tmrReoffer, hdue.trans h.reofferDue, hout ▸ h.out⟩

theorem SameReoffer.emit (h : SameReoffer s s') {o : IceOut} (ho : o.isRestart = false) :
    SameReoffer s (s'.emit o) := by
  refine h.trans ⟨rfl, rfl, rfl, [o], rfl, ?_⟩
  rw [List.any_cons, ho]
  rfl

/-- What a step can do to the re-offer. -/
inductive ReofferStep (s : IceSess) (act : IceAct) (s' : IceSess) (os : List IceOut) : Prop where
  /-- It is left alone; a stream that asks comes too late. -/
  | beside : s'.reoffered = s.reoffered → s'.tmrReoffer = s.tmrReoffer → s'.reofferDue = s.reofferDue →
      os.any IceOut.isRestart = false → act.reoffers os = false →
      (s.asks act = true → s.reoffered = true) → (∀ asked, s.lapses asked act = false) → ReofferStep s act s' os
  | restarted : s.restarts act = true → s'.reoffered = false → s'.tmrReoffer = s.tmrReoffer →
      os.any IceOut.isRestart = true → act.reoffers os = false → ReofferStep s act s' os
  /-- A stream is the first to ask, and is made to wait. -/
  | held : s.asks act = true → s.reoffered = false → s'.reoffered = true → s'.tmrReoffer.isRunning = true →
      s'.reofferDue = s.now + iceReofferSecureDeadlineMs → os.any IceOut.isRestart = false →
      act.reoffers os = false → (∀ asked, s.lapses asked act = false) → ReofferStep s act s' os
  /-- Or not. -/
  | handed (i : Nat) (raddr1 : SaPort) (raddr2 : Option SaPort) (env : IceEnv) :
      act = .connected i raddr1 raddr2 env → s.asks act = true → s.reoffered = false →
      s.awaitingSecure env = false → s'.reoffered = true → s'.tmrReoffer = none →
      os.any IceOut.isRestart = false → act.reoffers os = true → (∀ asked, s.lapses asked act = false) →
      ReofferStep s act s' os
  /-- The held offer is looked at, and waits on. -/
  | polled (env : IceEnv) : act = .reofferDeadline env → s.tmrReoffer.isRunning = true →
      s.awaitingSecure env = true → s.now < s.reofferDue → s'.reoffered = s.reoffered →
      s'.tmrReoffer.isRunning = true → s'.reofferDue = s.reofferDue → os.any IceOut.isRestart = false →
      act.reoffers os = false → ReofferStep s act s' os
  /-- It has waited for too long. -/
  | lapsed (env : IceEnv) : act = .reofferDeadline env → s.tmrReoffer.isRunning = true →
      s.awaitingSecure env = true → s.reofferDue ≤ s.now → s'.reoffered = s.reoffered →
      s'.tmrReoffer = none → os.any IceOut.isRestart = false → act.reoffers os = false → ReofferStep s act s' os
  /-- The handshake is over, and the offer goes out. -/
  | released (env : IceEnv) : act = .reofferDeadline env → s.tmrReoffer.isRunning = true →
      s.awaitingSecure env = false → s'.reoffered = s.reoffered → s'.tmrReoffer = none →
      os.any IceOut.isRestart = false → act.reoffers os = true → ReofferStep s act s' os

/-- Work beside the re-offer, in a step that is neither a conclusion nor a poll. -/
theorem ReofferStep.of_same (hsame : SameReoffer s.idle s') (hreoffers : act.reoffers s'.out = false)
    (hasks : s.asks act = true → s.reoffered = true) (hlapses : ∀ asked, s.lapses asked act = false) :
    ReofferStep s act s' s'.out := by
  obtain ⟨os, hos, hnone⟩ := hsame.out
  refine .beside hsame.reoffered hsame.tmrReoffer hsame.reofferDue ?_ hreoffers hasks hlapses
  rw [hos]
  exact hnone

/-- Where the re-offer of a generation stands: nobody has asked, it is held, or it is over. -/
inductive ReofferStage (s : IceSess) (r : Reoffer) : Prop where
  | unasked : s.reoffered = false → s.tmrReoffer = none → r = .none → ReofferStage s r
  | waiting (since : Nat) : s.reoffered = true → s.tmrReoffer.isRunning = true →
      s.reofferDue = since + iceReofferSecureDeadlineMs →
      r = { asked := some since, handed := 0, lapsed := false } → ReofferStage s r
  | settled : s.reoffered = true → s.tmrReoffer = none → r.asked ≠ none → r.handed ≤ 1 → ReofferStage s r

theorem next_restarted (hrestart : os.any IceOut.isRestart = true) (r : Reoffer) : r.next s act os = .none :=
  if_pos hrestart

theorem next_kept (hnone : os.any IceOut.isRestart = false) (r : Reoffer) :
    r.next s act os =
      { asked := r.asked.or (if s.asks act then some s.now else none)
        handed := if act.reoffers os then r.handed + 1 else r.handed
        lapsed := r.lapsed || s.lapses r.asked act } :=
  if_neg (Bool.eq_false_iff.mp hnone)

theorem or_ne_none {a b : Option Nat} (h : a ≠ none) : a.or b ≠ none := by
  obtain ⟨since, rfl⟩ := Option.ne_none_iff_exists'.mp h
  exact Option.some_ne_none since

/-- Beside the re-offer its stage stays what it is. -/
theorem ReofferStage.beside {r : Reoffer} (h : ReofferStage s r) (hreoffered : s'.reoffered = s.reoffered)
    (htmr : s'.tmrReoffer = s.tmrReoffer) (hdue : s'.reofferDue = s.reofferDue)
    (hnone : os.any IceOut.isRestart = false) (hreoffers : act.reoffers os = false)
    (hasks : s.asks act = true → s.reoffered = true) (hlapses : ∀ asked, s.lapses asked act = false) :
    ReofferStage s' (r.next s act os) := by
  rw [next_kept hnone, hreoffers, hlapses, Bool.or_false]
  cases h with
  | unasked hfirst hidle hr =>
      have hsilent : s.asks act = false := Bool.eq_false_iff.mpr fun h => by simp [hasks h] at hfirst
      subst hr
      rw [hsilent]
      exact .unasked (hreoffered.trans hfirst) (htmr.trans hidle) rfl
  | waiting since hasked hrunning hsince hr =>
      subst hr
      exact .waiting since (hreoffered.trans hasked) (htmr ▸ hrunning) (hdue.trans hsince) rfl
  | settled hasked hidle hne hhanded =>
      exact .settled (hreoffered.trans hasked) (htmr.trans hidle) (or_ne_none hne) hhanded

/-- A step keeps the discipline, and a re-offer that goes out is as it should be. -/
theorem ReofferStage.step {r : Reoffer} (h : ReofferStage s r) (hkeeps : s.keepsReoffer act = true)
    (hstep : ReofferStep s act s' os) :
    ReofferStage s' (r.next s act os) ∧ (act.reoffers os = true → Disciplined s r act (r.next s act os)) := by
  have hquiet {P : Prop} (hreoffers : act.reoffers os = false) : act.reoffers os = true → P := fun h =>
    absurd (hreoffers.symm.trans h) Bool.false_ne_true
  cases hstep with
  | beside hreoffered htmr hdue hnone hreoffers hasks hlapses =>
      exact ⟨h.beside hreoffered htmr hdue hnone hreoffers hasks hlapses, hquiet hreoffers⟩
  | restarted hrestarts hreoffered htmr hrestart hreoffers =>
      have hidle : s.tmrReoffer.isRunning = false := by simpa [keepsReoffer, hrestarts] using hkeeps
      rw [next_restarted hrestart]
      refine ⟨.unasked hreoffered ?_ rfl, hquiet hreoffers⟩
      cases h with
      | unasked _ hnone _ => exact htmr.trans hnone
      | waiting _ _ hrunning _ _ => exact absurd (hidle.symm.trans hrunning) Bool.false_ne_true
      | settled _ hnone _ _ => exact htmr.trans hnone
  | held hasks hfirst hreoffered hrunning hdue hnone hreoffers hlapses =>
      rw [next_kept hnone, hreoffers, hlapses, hasks]
      cases h with
      | unasked _ _ hr =>
          subst hr
          exact ⟨.waiting s.now hreoffered hrunning hdue rfl, nofun⟩
      | waiting _ hasked _ _ _ => exact absurd (hfirst.symm.trans hasked) Bool.false_ne_true
      | settled hasked _ _ _ => exact absurd (hfirst.symm.trans hasked) Bool.false_ne_true
  | handed i raddr1 raddr2 env hact hasks hfirst hsecure hreoffered hidle hnone hreoffers hlapses =>
      rw [next_kept hnone, hreoffers, hlapses, hasks]
      cases h with
      | unasked _ _ hr =>
          subst hr
          refine ⟨.settled hreoffered hidle (Option.some_ne_none _) le_rfl,
            fun _ => ⟨rfl, Option.some_ne_none _, ?_, rfl⟩⟩
          rintro env' (hpoll | ⟨j, a, b, hconnected⟩)
          · cases hact.symm.trans hpoll
          · cases hact.symm.trans hconnected
            exact hsecure
      | waiting _ hasked _ _ _ => exact absurd (hfirst.symm.trans hasked) Bool.false_ne_true
      | settled hasked _ _ _ => exact absurd (hfirst.symm.trans hasked) Bool.false_ne_true
  | polled env hact hrunning hawaiting hearly hreoffered hrunning' hdue hnone hreoffers =>
      rw [next_kept hnone, hreoffers]
      cases h with
      | unasked _ hidle _ => simp [hidle] at hrunning
      | waiting since hasked _ hsince hr =>
          subst hr
          refine ⟨.waiting since (hreoffered.trans hasked) hrunning' (hdue.trans hsince) ?_, nofun⟩
          have hlapses : s.lapses (some since) act = false := by
            rw [hact]
            simp only [lapses, Option.any_some, hawaiting, Bool.true_and, decide_eq_false_iff_not]
            omega
          rw [hlapses]
          rfl
      | settled _ hidle _ _ => simp [hidle] at hrunning
  | lapsed env hact hrunning hawaiting hlate hreoffered hidle hnone hreoffers =>
      rw [next_kept hnone, hreoffers]
      cases h with
      | unasked _ hidle _ => simp [hidle] at hrunning
      | waiting since hasked _ _ hr =>
          subst hr
          exact ⟨.settled (hreoffered.trans hasked) hidle (Option.some_ne_none _) (Nat.zero_le _), nofun⟩
      | settled _ hidle _ _ => simp [hidle] at hrunning
  | released env hact hrunning hsecure hreoffered hidle hnone hreoffers =>
      rw [next_kept hnone, hreoffers]
      cases h with
      | unasked _ hidle _ => simp [hidle] at hrunning
      | waiting since hasked _ _ hr =>
          subst hr
          refine ⟨.settled (hreoffered.trans hasked) hidle (Option.some_ne_none _) le_rfl,
            fun _ => ⟨rfl, Option.some_ne_none _, ?_, rfl⟩⟩
          rintro env' (hpoll | ⟨j, a, b, hconnected⟩)
          · cases hact.symm.trans hpoll
            exact hsecure
          · cases hact.symm.trans hconnected
      | settled _ hidle _ _ => simp [hidle] at hrunning

end IceSess

end VoxSdk
