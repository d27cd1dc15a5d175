import VoxSdk.Netmon

/-!
# Migrating one call

The functions of `netmon.c` and `adapt.c` that work on one call: what a migration offers and from
which address, how it is judged, and when a stalled call is repaired. Each runs inside a handler and
leaves what it did in the call's `out`.
-/

namespace VoxSdk

open Reactive

/-- `backoff_ms`: 1, 2, 4, 8, 16, 32 s. -/
def backoffMs (attempt : Nat) : Nat := 1000 * 2 ^ min attempt 5

namespace Netmon

/-- `verify_tick_ms`. -/
def verifyTickMs (nm : Netmon) : Nat :=
  let ms := if nm.verifyMs = 0 then 2000 else nm.verifyMs
  max ms 500

end Netmon

/-- `restart_grace_ms`. -/
def Cfg.restartGraceMs (g : Cfg) : Nat :=
  if g.iceGatheringTimeoutMs = 0 then 3000 else g.iceGatheringTimeoutMs

namespace Call

variable (g : Cfg) (nm : Netmon) (now : Nat) (env : NetEnv)

def emit (o : SysOut) (c : Call) : Call := { c with out := c.out ++ [o] }

def setMigState (st : MigState) (c : Call) : Call := { c with netMigState := st }

/-- `call_signals_over_ws`. -/
def callSignalsOverWs (c : Call) : Bool :=
  match c.acct with
  | none => false
  | some acct => acct.parsedTransport.isWebSocket

/-- `call_uses_ice`. -/
def callUsesIce (c : Call) : Bool :=
  match c.acct with
  | none => g.iceEnabled
  | some acct => if c.bc then (env.call c.id).iceActive else acct.iceEnabled || g.iceEnabled

/-- `rx_packets`. -/
def rxPackets (c : Call) : Nat :=
  if c.bc && (env.call c.id).stream then (env.call c.id).rxPackets else 0

/-- `max_attempts_for`: how many offers the call gets. -/
def maxAttemptsFor (c : Call) : Nat :=
  if c.netMigStall then min nm.maxAttempts netStallAttempts
  else if nm.iceHandover = .failFast ∧ c.callUsesIce g env = true ∧ c.netIceRestarted = false then 1
  else nm.maxAttempts

/-- `verify_tick_for`. -/
def verifyTickFor (c : Call) : Nat :=
  if nm.verifyMs = 0 ∨ c.netMigStall = false then nm.verifyTickMs
  else min netStallVerifyMs nm.verifyTickMs

/-- `netmon_emit` for a call. -/
def report (what : NetEvent) (err : Option Errno) (attempt : Nat) (c : Call) : Call :=
  c.emit <| .net
    { event := what
      call := some c.id
      account := c.acct.map CallAcct.id
      attempt
      maxAttempts := c.maxAttemptsFor g nm env
      error := mapErr err
      ice := c.callUsesIce g env
      elapsedMs := if c.netMigStart = 0 then 0 else u32 (now - c.netMigStart)
      localAddr := nm.curLaddr }

/-! ### Local-address rotation -/

/-- `laddr_tried`. -/
def laddrTried (sa : Sa) (c : Call) : Bool := decide (sa ∈ c.netMigTried)

/-- `laddr_remember`. -/
def laddrRemember (sa : Sa) (c : Call) : Call :=
  if !sa.isSet || c.laddrTried sa then c
  else if netMaxCand ≤ c.netMigTried.length then c
  else { c with netMigTried := c.netMigTried ++ [sa] }

/-- The walk of `laddr_pick_handler`: the first address of the family not tried yet. -/
def laddrPick (af : Sa) (c : Call) : Option Sa :=
  env.localAddrs.find? fun sa =>
    sa.sameAf af && !sa.isLoopback && !sa.isLinklocal && !c.laddrTried sa

/-- `rotate_laddr`. -/
def rotateLaddr (c : Call) : Bool := decide ((if c.netMigStall then 1 else 2) ≤ c.netMigTries)

/-- `next_laddr`. -/
def nextLaddr (af : Sa) (c : Call) : Option Sa × Call :=
  match c.laddrPick env af with
  | some sa => (some sa, c)
  | none =>
      let c := { c with netMigTried := [] }
      (c.laddrPick env af, c)

/-! ### Offering -/

/-- CALL_CLOSED, reported from inside `ua_hangup`. -/
def closed (c : Call) : Call := { c with state := .ended, bc := false }

/-- `fail_migration`. -/
def failMigration (err : Errno) (c : Call) : Call :=
  let c := c.setMigState .failed
  let c := c.report g nm now env .callMigrationFailed (some err) c.netMigTries
  if nm.hangupOnFail && c.bc && c.acct.any CallAcct.ua then (c.emit (.uaHangup c.id)).closed else c

/-- The first half of `send_migration`'s offer: an ICE restart whose re-INVITE is still to come. -/
def offerRestarted (c : Call) : Call :=
  let c := { c with
    netIceRestarted := true
    netMigState := .sent
    netMigDue := now + g.restartGraceMs + c.verifyTickFor nm }
  c.report g nm now env .callMigrating none c.netMigTries

/-- The second half: `call_reset_transp` rewrites the session address and sends the re-INVITE. -/
def offerPlain (c : Call) : Call :=
  let c := c.emit (.callResetTransp c.id c.netMigLaddr)
  match (env.call c.id).resetTransp with
  | some err =>
      if c.maxAttemptsFor g nm env ≤ c.netMigTries then c.failMigration g nm now env err
      else c.setMigState .deferred
  | none =>
      let c := { c with netMigState := .sent, netMigDue := now + c.verifyTickFor nm }
      let c := c.report g nm now env .callMigrating none c.netMigTries
      if nm.verifyMs = 0 then
        (c.setMigState .done).report g nm now env .callMigrated none c.netMigTries
      else c

/-- The ICE_STALE report, once a generation. -/
def reportStale (err : Errno) (c : Call) : Call :=
  if c.netIceStaleSent then c
  else
    ({ c with netIceStaleSent := true }).report g nm now env .callIceStale (some err) c.netMigTries

/-- The rest of `send_migration`, once the attempt is counted. -/
def offer (c : Call) : Call :=
  if c.netMigPathMoved then
    let c := c.emit (.iceRestart c.id c.netMigLaddr)
    match (env.call c.id).iceRestart with
    | none | some .already => c.offerRestarted g nm now env
    -- no ICE on this call: the plain offer is the right one
    | some .noent => c.offerPlain g nm now env
    | some err => (c.reportStale g nm now env err).offerPlain g nm now env
  else c.offerPlain g nm now env

/-- The attempt is counted, and its address has had its turn. -/
def countOffer (c : Call) : Call :=
  let c := { c with netRxAtMig := c.rxPackets env, netMigTries := u32 (c.netMigTries + 1) }
  c.laddrRemember c.netMigLaddr

/-- `send_migration`. -/
def sendMigration (c : Call) : Call :=
  if !c.bc then c.setMigState .idle
  else if !(env.call c.id).refreshAllowed then
    if c.netMigState = .deferred then c
    else
      (c.setMigState .deferred).report g nm now env .callDeferred none (u32 (c.netMigTries + 1))
  else (c.countOffer env).offer g nm now env

/-- `retry_migration`. -/
def retryMigration (c : Call) : Call :=
  let c := c.laddrRemember c.netMigLaddr
  if c.rotateLaddr && c.netMigLaddr.isSet then
    match c.nextLaddr env c.netMigLaddr with
    | (some next, c) => ({ c with netMigLaddr := next }).sendMigration g nm now env
    | (none, c) => c.sendMigration g nm now env
  else c.sendMigration g nm now env

/-- `wait_for_addr`. -/
def waitForAddr (c : Call) : Call :=
  if c.netMigState = .waitAddr then c
  else (c.setMigState .waitAddr).report g nm now env .callDeferred none (u32 (c.netMigTries + 1))

/-- `start_migration` claims the call for the handover generation, unless it already is. -/
def claim (c : Call) : Call :=
  if c.netMigGen = nm.gen then c
  else
    { c with
      netMigGen := nm.gen
      netMigTries := 0
      netMigDue := 0
      netIceStaleSent := false
      netIceRestarted := false
      netMigPathMoved := false
      netMigStall := false
      netMigTried := []
      netMigStart := if nm.handoverStart = 0 then now else nm.handoverStart
      netMigLaddr := .unset }

/-- The peer's media address: where RTP goes, or else what the SDP says. -/
def peerAddr (c : Call) : Sa :=
  if (env.call c.id).raddr.isSet then (env.call c.id).raddr else (env.call c.id).sdpRaddr

/-- What the routing table says reaches the peer, when it is known. -/
def discover (c : Call) : Option Sa :=
  if (env.call c.id).stream && (c.peerAddr env).isSet then
    (env.call c.id).sourceAddr.filter Sa.isSet
  else none

/-- A retry offers from somewhere else. -/
def rotateFrom (laddr : Sa) (c : Call) : Sa × Call :=
  if c.rotateLaddr && c.laddrTried laddr then
    match c.nextLaddr env laddr with
    | (some next, c) => (next, c)
    | (none, c) => (laddr, c)
  else (laddr, c)

/-- The rest of `start_migration`, with the address to offer. -/
def migrateTo (laddr : Sa) (c : Call) : Call :=
  let same := decide ((env.call c.id).laddr = some laddr)
  if same && !c.callSignalsOverWs && !c.netMigStall then c.setMigState .idle
  else
    ({ c with
      netMigPathMoved := c.netMigPathMoved || c.netMigStall || !same
      netMigLaddr := laddr }).sendMigration g nm now env

/-- `start_migration`. -/
def startMigration (c : Call) : Call :=
  if !c.bc then c.setMigState .idle
  else
    let c := c.claim nm now
    match c.discover env with
    | none => c.waitForAddr g nm now env
    | some laddr =>
        let (laddr, c) := c.rotateFrom env laddr
        c.migrateTo g nm now env laddr

/-! ### Judging -/

/-- `verify_handler`, one more clock tick of a call that waits. -/
def charge (c : Call) : Call := { c with netMigTries := u32 (c.netMigTries + 1) }

/-- `verify_handler`, a call whose offer is out. -/
def judge (c : Call) : Call :=
  if c.netMigDue ≠ 0 ∧ now + 100 < c.netMigDue then c
  else if nm.verifyMs = 0 then
    (c.setMigState .done).report g nm now env .callMigrated none c.netMigTries
  else if c.state = .held ∨ (env.call c.id).onhold = true ∨ c.netRxAtMig < c.rxPackets env then
    (c.setMigState .done).report g nm now env .callMigrated none c.netMigTries
  else if c.maxAttemptsFor g nm env ≤ c.netMigTries then c.failMigration g nm now env .timedout
  else c.retryMigration g nm now env

/-- The body of `verify_handler`. -/
def verify (c : Call) : Call :=
  if c.netMigGen ≠ nm.gen then c
  else if !c.bc then c.setMigState .idle
  else
    match c.netMigState with
    | .stalled => c.startMigration g nm now env
    | .waitAddr =>
        let c := c.charge
        if nm.maxAttempts ≤ c.netMigTries then c.failMigration g nm now env .hostunreach
        else c.startMigration g nm now env
    | .deferred =>
        if (env.call c.id).refreshAllowed then c.sendMigration g nm now env
        else
          let c := c.charge
          if nm.maxAttempts ≤ c.netMigTries then c.failMigration g nm now env .timedout else c
    | .sent => c.judge g nm now env
    | .idle | .done | .failed => c

/-- The body of `fail_pending_migrations`. -/
def failPending (err : Errno) (c : Call) : Call :=
  if !c.bc || decide (c.netMigState = .done) || decide (c.netMigState = .failed) then c
  else
    ({ c with netMigStart := if c.netMigStart = 0 then nm.handoverStart else c.netMigStart
      }).failMigration g nm now env err

/-- What `migration_pending` counts: a call owed a verdict in this generation. -/
def isOwed (c : Call) : Bool := decide (c.netMigGen = nm.gen) && c.netMigState.isPending

/-- `vox_netmon_call_sdp_answer`. -/
def sdpAnswer (c : Call) : Call :=
  if !nm.started then c
  else if c.netMigState ≠ .sent ∨ c.netMigGen ≠ nm.gen then c
  else c.report g nm now env .callMigrateAccepted none c.netMigTries

/-! ### Stalls -/

/-- A held call carries no RTP by design. -/
def onHold (c : Call) : Bool :=
  decide (c.state = .held) || c.localHold || (env.call c.id).onhold

/-- When `vox_netmon_call_stalled` declines: a repair or a handover is running for the call, it is on
hold, or it has had its share of repairs. -/
def declinesRepair (c : Call) : Bool :=
  !nm.started || !c.bc || c.isOwed nm || c.onHold env
    || (decide (c.netStallRepairAt ≠ 0) && decide (now - c.netStallRepairAt < netStallCooldownMs))
    || decide (VoxSdk.netStallRounds ≤ c.netStallRounds)

/-- The call claimed for a repair round of its own. -/
def repairRound (c : Call) : Call :=
  { c with
    netStallRepairAt := now
    netStallRounds := c.netStallRounds + 1
    netMigGen := nm.gen
    netMigTries := 0
    netMigDue := 0
    netIceStaleSent := false
    netIceRestarted := false
    netMigPathMoved := false
    netMigTried := []
    netMigStall := true
    netMigStart := now
    netMigState := .stalled
    netMigLaddr := .unset }

/-- `vox_netmon_call_stalled`, `none` when it declines. -/
def callStalled (c : Call) : Option Call :=
  if c.declinesRepair nm now env then none else some (c.repairRound nm now)

/-- `stall_clear`. -/
def stallClear (elapsedMs : Nat) (c : Call) : Call :=
  if c.stallActive then
    ({ c with stallActive := false }).emit (.mediaStall c.id elapsedMs true)
  else c

/-- The counter's new starting point in `stall_tick`. -/
def stallRestart (packets : Nat) (c : Call) : Call :=
  { c with stallRxPackets := packets, stallSince := now }

/-- How long the counter has stood still. -/
def stallElapsed (c : Call) : Nat := u32 (now - c.stallSince)

/-- Whether `stall_tick` leaves the call's counter alone: it is on hold, or its migration state
says somebody is repairing it. -/
def stallSuppressed (c : Call) : Bool := c.onHold env || c.netMigState.isPending

/-- Whether a still counter has become a stall; `setupPending` is `media_setup_pending`. -/
def stallDetected (packets : Nat) (setupPending : Bool) (c : Call) : Bool :=
  decide (packets = c.stallRxPackets) && !c.stallActive
    && decide (g.mediaStallMs ≤ c.stallElapsed now)
    && !(decide (c.stallElapsed now < mediaSetupGraceMs) && setupPending)

/-- `stall_tick` for a sample of `packets` received: the call, and whether
`vox_netmon_call_stalled` is called for it. -/
def stallTick (packets : Nat) (setupPending : Bool) (c : Call) : Call × Bool :=
  if g.mediaStallMs = 0 then (c, false)
  else if c.stallSuppressed env then ((c.stallClear 0).stallRestart now packets, false)
  else if packets ≠ c.stallRxPackets then ((c.stallRestart now packets).stallClear 0, false)
  else if c.stallDetected g now packets setupPending then
    (({ c with stallActive := true }).emit (.mediaStall c.id (c.stallElapsed now) false), true)
  else (c, false)

/-- The same with the repair it may start: the call, and whether one was started. -/
def stallRepair (packets : Nat) (setupPending : Bool) (c : Call) : Call × Bool :=
  match c.stallTick g now env packets setupPending with
  | (c, false) => (c, false)
  | (c, true) =>
      match c.callStalled nm now env with
      | none => (c, false)
      | some c => (c, true)

/-- `vox_adapt_call_start`. -/
def adaptCallStart (c : Call) : Call :=
  { c with stallActive := false, stallRxPackets := 0, stallSince := now }

end Call

end VoxSdk
