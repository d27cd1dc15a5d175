import VoxSdk.Handover

/-!
# The SDK as a machine

Everything that can happen between `vox_netmon_init` and `vox_netmon_stop`, one handler at a time and in
any order: accounts and calls come and go, an account's own events, a call's events, the application's
network calls, the three timers of netmon. Network, kernel and baresip answer through the `NetEnv` a
handler runs with.
-/

namespace VoxSdk

open Reactive

/-- What can happen to the SDK. -/
inductive SysAct where
  | createAccount (id : Nat) (cfg : AccountCfg) (pushToken : Option CStr)
  | destroyAccount (id : Nat)
  | account (id : Nat) (act : AcctAct)
  | createCall (id : Nat) (acct : Option CallAcct) (state : CallState)
  | callRinging (id : Nat)
  | callEstablished (id : Nat)
  | callHeld (id : Nat)
  | callResumed (id : Nat)
  | callLocalHold (id : Nat) (hold : Bool)
  | callSdpAnswer (id : Nat) (env : NetEnv)
  | callClosed (id : Nat)
  | statsTick (id packets : Nat) (setupPending : Bool) (env : NetEnv)
  | networkChanged (env : NetEnv)
  | setMonitor (seconds : Nat)
  | setPolicy (reinvite hangup : Bool)
  | localAddr (env : NetEnv)
  | pollFires (env : NetEnv)
  | settleFires (env : NetEnv)
  | verifyFires (env : NetEnv)
  | elapse (ms : Nat)

/-- The events of an account that do not come from a handover or the clock. -/
def AcctAct.isOwn : AcctAct → Bool
  | .handoverMark | .handoverToRetry _ | .handoverReregister _ | .elapse _ => false
  | _ => true

namespace Sys

variable (g : Cfg)

/-- Whether an event can happen now. -/
def enabled (s : Sys) : SysAct → Bool
  | .createAccount id .. => s.accounts.all fun a => decide (a.id ≠ id)
  | .account id act => act.isOwn && s.accounts.any fun a => decide (a.id = id) && a.enabled s.now act
  | .createCall id .. => s.calls.all fun c => decide (c.id ≠ id)
  | .statsTick id .. => s.hasCall id fun c => decide (c.state = .established)
  | .pollFires _ => s.nm.tmrPoll.isDue s.now
  | .settleFires _ => s.nm.tmrSettle.isDue s.now
  | .verifyFires _ => s.nm.tmrVerify.isDue s.now
  | _ => true

/-- The handler of an event. A timer that fires is idle when its handler runs. -/
def handle (s : Sys) : SysAct → Sys
  | .createAccount id cfg pushToken =>
      { s with accounts := s.accounts ++ [Account.create id cfg pushToken] }
  | .destroyAccount id => { s with accounts := s.accounts.filter fun a => decide (a.id ≠ id) }
  | .account id act => s.onAccount g id act
  | .createCall id acct state => { s with calls := s.calls ++ [Call.wrapNew id acct state] }
  | .callRinging id => s.onCall id fun c => { c with state := .ringing }
  | .callEstablished id =>
      (s.onCall id fun c => ({ c with state := .established }).adaptCallStart s.now).callRefreshable id
  | .callHeld id => s.onCall id fun c => { c with state := .held }
  | .callResumed id => (s.onCall id fun c => { c with state := .established }).callRefreshable id
  | .callLocalHold id hold => s.onCall id fun c => { c with localHold := hold }
  | .callSdpAnswer id env => s.onCall id fun c => c.sdpAnswer g s.nm s.now env
  | .callClosed id => { s with calls := s.calls.filter fun c => decide (c.id ≠ id) }
  | .statsTick id packets setupPending env => s.statsTick g env id packets setupPending
  | .networkChanged env => s.netmonTrigger env true
  | .setMonitor seconds => s.setMonitorFn seconds
  | .setPolicy reinvite hangup => s.setPolicyFn reinvite hangup
  | .localAddr env => s.updateCurLaddr env
  | .pollFires env => ({ s with nm.tmrPoll := none }).pollHandler env
  | .settleFires env => ({ s with nm.tmrSettle := none }).settleHandler g env
  | .verifyFires env => ({ s with nm.tmrVerify := none }).verifyHandler g env
  | .elapse ms => { s with now := s.now + ms }

/-- Nothing done yet. -/
def idle (s : Sys) : Sys := { s with out := [] }

end Sys

/-- The runs of the SDK, from `vox_netmon_init` on. -/
def system (g : Cfg) : Machine Sys SysAct SysOut where
  init s := ∃ now up curLaddr,
    s = { now, accounts := [], calls := [], nm := netmonInit g now up curLaddr, out := [] }
  step s act :=
    if s.enabled act then some (s.idle.handle g act, (s.idle.handle g act).out) else none

/-- The SDK at time 0, with an address. -/
def Sys.justStarted (g : Cfg) : Sys :=
  { now := 0, accounts := [], calls := [], nm := netmonInit g 0 true [], out := [] }

theorem justStarted_init (g : Cfg) : (system g).init (Sys.justStarted g) := ⟨_, _, _, rfl⟩

/-- A network with one IPv4 address on which nothing changes and nothing fails. -/
def NetEnv.calm : NetEnv :=
  { scanned := 0
    routable := true
    linklocal := false
    curLaddr := "192.0.2.7".toList
    localAddrs := [.v4 0xc0000207]
    resetTransp := none
    call := fun _ =>
      { refreshAllowed := true
        onhold := false
        iceActive := false
        stream := true
        rxPackets := 0
        raddr := .v4 0xc6336401
        sdpRaddr := .v4 0xc6336401
        sourceAddr := some (.v4 0xc0000207)
        laddr := some (.v4 0xc0000207)
        iceRestart := some .noent
        resetTransp := none }
    reporting := fun _ => true
    rand := fun _ => 0 }

variable {g : Cfg} {s s' : Sys} {act : SysAct} {os : List SysOut}

theorem system_step (h : (system g).step s act = some (s', os)) :
    s.enabled act = true ∧ s' = s.idle.handle g act ∧ os = s'.out := by
  simp only [system] at h
  split at h
  · rename_i hen
    cases h
    exact ⟨hen, rfl, rfl⟩
  · cases h

end VoxSdk
