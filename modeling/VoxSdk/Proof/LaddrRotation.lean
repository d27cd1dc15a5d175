import VoxSdk.Lib.Rotation
import VoxSdk.Proof.Attempts

/-!
# Local addresses taking turns

A repair round offers from the address the routing table names, then from the others in turn: the call's
`net_mig_tried` and `net_mig_laddr` are a rotation through the usable addresses, with a record of four.
Deferred offers and transports that do not reset hold a turn up; they do not change whose it is. So the
offers of a round are fair exactly when the rotation is: with four usable addresses at most or five offers,
and with two if the routing table named the first of them.
-/

namespace VoxSdk

open Reactive

namespace SysOut

/-- The address of an attempt to offer. -/
def attemptedFrom : SysOut → Option Sa
  | .iceRestart _ sa | .callResetTransp _ sa => some sa
  | _ => none

/-- CALL_MIGRATING: the offer is out. -/
def isMigrating : SysOut → Bool
  | .net r => decide (r.event = .callMigrating)
  | _ => false

end SysOut

/-- The address the offer of a handler was made from, if it made one. -/
def madeFrom (os : List SysOut) : Option Sa :=
  if os.any SysOut.isMigrating then os.findSome? SysOut.attemptedFrom else none

namespace Call

variable {g : Cfg} {nm : Netmon} {now : Nat} {env : NetEnv} {c d : Call}

end Call

/-! ### Rounds -/

/-- The monitor, the time and the network when a handler works on the call. -/
structure NetTick where
  nm : Netmon
  now : Nat
  env : NetEnv

/-- What can happen to a call: a handover's generation reaches it, a stall repair is asked for, the verify
timer judges it, a transport reset that failed fails it, the peer answers an offer, it closes, and the rest,
which its migration has no part in. -/
inductive TurnAct where
  | handover (w : NetTick)
  | repair (w : NetTick)
  | verify (w : NetTick)
  | failPending (w : NetTick) (err : Errno)
  | sdpAnswer (w : NetTick)
  | closed
  | aside (state : CallState) (localHold : Bool) (stallRxPackets stallSince : Nat) (stallActive : Bool)

namespace TurnAct

/-- The event begins a round. -/
def begins : TurnAct → Bool
  | .handover _ | .repair _ => true
  | _ => false

/-- The handler asks the routing table for an address, if the call is still there. -/
def asks (c : Call) : TurnAct → Option NetTick
  | .handover w => some w
  | .verify w =>
      if c.netMigGen = w.nm.gen ∧ (c.netMigState = .stalled ∨ c.netMigState = .waitAddr) then some w
      else none
  | _ => none

end TurnAct

/-- The offers of a round from its first to the one made now, if one was. As long as the round has offered
from one address only, it does not rotate, and the last offer from there counts. -/
def nextOffers (offers : List Sa) : Option Sa → List Sa
  | none => offers
  | some sa => if offers = [sa] then offers else offers ++ [sa]

/-- What is kept of a round: what the routing table said when it was last asked, and the addresses the round
has offered from since it rotates, the one before included. -/
structure Offered where
  route : Option Sa
  offers : List Sa

/-- The round as a handler goes about its offer: a new one, or the one under way, with the routing table's
answer if it is asked. -/
def Offered.asked (m : Offered) (c : Call) (act : TurnAct) : Offered :=
  { route := (act.asks c).elim m.route fun w => (w.env.call c.id).sourceAddr
    offers := if act.begins then [] else m.offers }

/-- The call's address has turn `k` of the rotation that began with `r`, and the record is the rotation's as
soon as the turn is recorded. A round that is past its first address goes on rotating. -/
structure Due (xs : List Sa) (r : Sa) (k : Nat) (c : Call) : Prop where
  laddr : c.netMigLaddr = (Rotation.after netMaxCand xs r k).cur
  tried : Rotation.remember netMaxCand c.netMigLaddr c.netMigTried = (Rotation.after netMaxCand xs r k).tried
  rotates : 0 < k → c.rotateLaddr = true

/-- The offers before turn `k`; the first one may have to be repeated. -/
def MadeBefore (xs : List Sa) (r : Sa) : Nat → List Sa → Prop
  | 0, offers => offers = [] ∨ offers = [r]
  | k + 1, offers => offers = Rotation.turns netMaxCand xs r k

/-- The offers of a round are turns of the rotation that begins with the routing table's answer. -/
def Taken (xs : List Sa) (m : Offered) : Prop :=
  m.offers = [] ∨ ∃ r ∈ xs, m.route = some r ∧ ∃ k, m.offers = Rotation.turns netMaxCand xs r k

/-- Where a round stands. -/
def InTurn (xs : List Sa) (limit : Nat) (c : Call) (m : Offered) : Prop :=
  match c.netMigState with
  | .stalled | .waitAddr => m.offers = [] ∧ c.netMigTried = [] ∧ c.netMigTries < limit
  | .deferred =>
      c.netMigTries < limit ∧ ∃ r ∈ xs, m.route = some r ∧ ∃ k, Due xs r k c ∧ MadeBefore xs r k m.offers
  | .sent =>
      ∃ r ∈ xs, m.route = some r ∧ ∃ k, Due xs r k c ∧ m.offers = Rotation.turns netMaxCand xs r k
  | .idle | .done | .failed => True

/-- The round with the offer of a handler, if it made one. -/
def Offered.next (m : Offered) (d : Call) : Offered :=
  { m with offers := nextOffers m.offers (madeFrom d.out) }

variable {g : Cfg} {nm : Netmon} {now : Nat} {env : NetEnv} {c d : Call} {xs offers : List Sa} {r : Sa}
  {m : Offered} {k limit : Nat}

theorem MadeBefore.taken (hr : r ∈ xs) (hroute : m.route = some r) (h : MadeBefore xs r k m.offers) :
    Taken xs m := by
  cases k with
  | zero => exact h.imp_right fun h => ⟨r, hr, hroute, 0, h⟩
  | succ k => exact .inr ⟨r, hr, hroute, k, h⟩

/-- The offer that is due makes the turns one more. -/
theorem MadeBefore.next (hr : r ∈ xs) (htwo : 2 ≤ xs.toFinset.card) (h : MadeBefore xs r k offers) :
    nextOffers offers (some (Rotation.after netMaxCand xs r k).cur) =
      Rotation.turns netMaxCand xs r k := by
  unfold nextOffers
  cases k with
  | zero =>
      rcases h with rfl | rfl
      · rfl
      · exact if_pos rfl
  | succ k =>
      have hne : offers ≠ [(Rotation.after netMaxCand xs r (k + 1)).cur] := by
        intro heq
        have hturns : Rotation.turns netMaxCand xs r k = [_] := Eq.trans (Eq.symm h) heq
        have hlen := congrArg List.length hturns
        rw [Rotation.length_turns, List.length_singleton] at hlen
        obtain rfl : k = 0 := by omega
        exact Rotation.second_ne (by decide) hr htwo (List.singleton_inj.mp hturns).symm
      dsimp only
      rw [if_neg hne, Rotation.turns_succ]
      exact congrArg (· ++ _) h

theorem rotateLaddr_mono (hstall : d.netMigStall = c.netMigStall) (htries : c.netMigTries ≤ d.netMigTries)
    (h : c.rotateLaddr = true) : d.rotateLaddr = true := by
  unfold Call.rotateLaddr at h ⊢
  rw [hstall]
  exact decide_eq_true ((of_decide_eq_true h).trans htries)

/-- A turn stays due while its address does, recorded or not. -/
theorem Due.keep (h : Due xs r k c) (hladdr : d.netMigLaddr = c.netMigLaddr)
    (htried : d.netMigTried = c.netMigTried ∨
      d.netMigTried = Rotation.remember netMaxCand c.netMigLaddr c.netMigTried)
    (hstall : d.netMigStall = c.netMigStall) (htries : c.netMigTries ≤ d.netMigTries) : Due xs r k d := by
  refine ⟨hladdr.trans h.laddr, ?_, fun hk => rotateLaddr_mono hstall htries (h.rotates hk)⟩
  rw [hladdr]
  rcases htried with htried | htried
  · rw [htried]
    exact h.tried
  · rw [htried, Rotation.remember_remember]
    exact h.tried

section

variable (hset : ∀ sa ∈ xs, sa.isSet = true) (htwo : 2 ≤ xs.toFinset.card)
  (hmax : max 1 nm.maxAttempts ≤ limit) (hlimit : limit < 2 ^ 32)

include hset htwo hmax hlimit

end

/-! ### Runs -/

section

variable {fam : Sa} {addrs : List Sa} {gen : Nat} {p : Call × Offered} {t : Trace TurnAct SysOut}

/-- A round that asks the routing table has not offered. -/
theorem InTurn.asked {w : NetTick} (h : InTurn xs limit c m) (hgen : c.netMigGen = w.nm.gen)
    (htaken : Taken xs m) :
    InTurn xs limit c (m.asked c (.verify w)) ∧ Taken xs (m.asked c (.verify w)) ∧
      (c.netMigState = .stalled ∨ c.netMigState = .waitAddr →
        (m.asked c (.verify w)).route = (w.env.call c.id).sourceAddr) := by
  by_cases hasks : c.netMigState = .stalled ∨ c.netMigState = .waitAddr
  · have hasked : m.asked c (.verify w) = { m with route := (w.env.call c.id).sourceAddr } := by
      unfold Offered.asked
      rw [show TurnAct.asks c (.verify w) = some w from if_pos ⟨hgen, hasks⟩]
      rfl
    have hturn : m.offers = [] ∧ c.netMigTried = [] ∧ c.netMigTries < limit := by
      unfold InTurn at h
      rcases hasks with hstate | hstate <;> rw [hstate] at h <;> exact h
    rw [hasked]
    refine ⟨?_, .inl hturn.1, fun _ => rfl⟩
    unfold InTurn
    rcases hasks with hstate | hstate <;> rw [hstate] <;> exact hturn
  · have hasked : m.asked c (.verify w) = m := by
      unfold Offered.asked
      rw [show TurnAct.asks c (.verify w) = none from if_neg fun hboth => hasks hboth.2]
      rfl
    rw [hasked]
    exact ⟨h, htaken, fun hboth => absurd hboth hasks⟩

end

/-! ### Two addresses -/

end VoxSdk
