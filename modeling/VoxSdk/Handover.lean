import VoxSdk.AccountMachine
import VoxSdk.Lib.Sweep
import VoxSdk.Migration

/-!
# The handover

The account list, the call list and `struct vox_netmon` together: the sequence detect, settle,
transports, REGISTER, re-INVITE, verify of `netmon.c`. A loop over a snapshot of a list is a sweep over
its first `netMaxSnap` elements. What happens to one of them is its own function, run from rest.
-/

namespace VoxSdk

open Reactive

/-- The account at rest, and what its handler did. -/
def Account.flush (a : Account) : Account × List SysOut := (a.idle, a.out.map (.acct a.id))

/-- The call between two events. -/
def Call.idle (c : Call) : Call := { c with out := [] }

/-- The call at rest, and what its handler did. -/
def Call.flush (c : Call) : Call × List SysOut := (c.idle, c.out)

/-- The SDK, as far as a handover can see it. `out` collects what the handler now running has
done. -/
structure Sys where
  now : Nat
  accounts : List Account
  calls : List Call
  nm : Netmon
  out : List SysOut

namespace Sys

variable (g : Cfg) (env : NetEnv)

def emit (os : List SysOut) (s : Sys) : Sys := { s with out := s.out ++ os }

/-- `netmon_emit` without a call. -/
def netReport (what : NetEvent) (account : Option Nat) (err : Option Errno) (attempt : Nat)
    (s : Sys) : NetReport :=
  { event := what
    call := none
    account
    attempt
    maxAttempts := s.nm.maxAttempts
    error := mapErr err
    ice := false
    elapsedMs := if s.nm.handoverStart = 0 then 0 else u32 (s.now - s.nm.handoverStart)
    localAddr := s.nm.curLaddr }

def emitNet (what : NetEvent) (err : Option Errno) (attempt : Nat) (s : Sys) : Sys :=
  s.emit [.net (s.netReport what none err attempt)]

/-- `update_cur_laddr`. -/
def updateCurLaddr (s : Sys) : Sys := { s with nm.curLaddr := strNcpy 64 env.curLaddr }

/-! ### The loops -/

/-- A loop over `snapshot_accounts`. -/
def sweepAccounts (work : Account → Account × List SysOut) (s : Sys) : Sys :=
  let (accounts, os) := sweep Account.inSnapshot work netMaxSnap s.accounts
  { s with accounts, out := s.out ++ os }

/-- A loop over `snapshot_calls`. A call hung up on the way has left the list at its end. -/
def sweepCalls (work : Call → Call) (s : Sys) : Sys :=
  let (calls, os) := sweep (fun _ => true) (fun c => (work c.idle).flush) netMaxSnap s.calls
  { s with calls := calls.filter Call.bc, out := s.out ++ os }

/-- `mark_accounts_reconnecting`. -/
def markAccountsReconnecting (s : Sys) : Sys :=
  s.sweepAccounts fun a => a.idle.regReconnecting.flush

/-- `handover_accounts_to_retry`. -/
def handoverAccountsToRetry (s : Sys) : Sys :=
  s.sweepAccounts fun a => (a.idle.handoverToRetry g s.now (env.rand a.id)).flush

/-- `reregister_accounts`. -/
def reregisterAccounts (s : Sys) : Sys :=
  s.sweepAccounts fun a =>
    let (b, os) := (a.idle.reregister s.now (env.reporting a.id)).flush
    (b, if a.authFailed then os else .net (s.netReport .reregistering (some a.id) none 0) :: os)

/-- The calls `migration_pending` finds. -/
def pendingCalls (s : Sys) : List Call := (s.calls.take netMaxSnap).filter (Call.isOwed s.nm)

/-- Where `arm_verify` leaves the shared timer: it goes by the most impatient pending call. -/
def nextVerify (s : Sys) : Timer :=
  if s.pendingCalls.isEmpty then s.nm.tmrVerify
  else
    Timer.start s.now <|
      s.pendingCalls.foldl (fun tick c => min tick (c.verifyTickFor s.nm)) s.nm.verifyTickMs

/-- `arm_verify`. -/
def armVerify (s : Sys) : Sys := { s with nm.tmrVerify := s.nextVerify }

/-- `migrate_calls`. -/
def migrateCalls (s : Sys) : Sys := (s.sweepCalls (Call.startMigration g s.nm s.now env)).armVerify

/-- `fail_pending_migrations`. -/
def failPendingMigrations (err : Errno) (s : Sys) : Sys :=
  s.sweepCalls (Call.failPending g s.nm s.now env err)

/-- `verify_handler`. -/
def verifyHandler (s : Sys) : Sys :=
  if !s.nm.started then s else (s.sweepCalls (Call.verify g s.nm s.now env)).armVerify

/-! ### The handover state machine -/

/-- The link is gone, or is not worth being called up. -/
def linkDown (curLaddr : CStr) (s : Sys) : Sys :=
  if s.nm.down then s
  else
    let s := { s with nm.down := true, nm.curLaddr := curLaddr }
    (s.emitNet .down none 0).markAccountsReconnecting

/-- The link is back. -/
def linkUp (s : Sys) : Sys :=
  if s.nm.down then
    let s := { s with nm.down := false }
    (s.updateCurLaddr env).emitNet .up none 0
  else s

/-- No address to bind at all: keep looking, with a backoff of its own. -/
def waitForAddress (s : Sys) : Sys :=
  { s with
    nm.tmrSettle := Timer.start s.now (backoffMs s.nm.waitTicks)
    nm.waitTicks := u32 (s.nm.waitTicks + 1) }

/-- Out of attempts. The accounts go to their retry policy, the calls are reported failed. -/
def giveUp (err : Errno) (s : Sys) : Sys :=
  let s := { s with nm.attempt := 0 }
  let s := s.handoverAccountsToRetry g env
  let s := s.failPendingMigrations g env err
  { s with nm.announced := false, nm.handoverStart := 0 }

/-- `uag_reset_transp` failed. `attempt` is below `max_attempts`, so it does not wrap. -/
def resetFailed (err : Errno) (s : Sys) : Sys :=
  let s := { s with nm.attempt := s.nm.attempt + 1 }
  let s := s.emitNet .handoverFailed (some err) s.nm.attempt
  if s.nm.attempt < s.nm.maxAttempts then
    { s with nm.tmrSettle := Timer.start s.now (backoffMs s.nm.attempt) }
  else s.giveUp g env err

/-- `uag_reset_transp` succeeded: a new generation. -/
def newGeneration (s : Sys) : Sys :=
  { s with
    nm.attempt := 0
    nm.resetPending := false
    nm.force := false
    nm.announced := false
    nm.gen := u32 (s.nm.gen + 1) }

/-- What `apply_handover` does once the transports are reset. -/
def resetDone (s : Sys) : Sys :=
  let s := (s.newGeneration.updateCurLaddr env).emitNet .transportReset none 0
  let s := s.reregisterAccounts env
  if s.nm.reinviteCalls then s.migrateCalls g env else s

/-- `apply_handover` after `uag_reset_transp`. -/
def resetOutcome (s : Sys) : Sys :=
  match env.resetTransp with
  | some err => s.resetFailed g env err
  | none => s.resetDone g env

/-- `apply_handover` with something to bind to. -/
def resetTransports (s : Sys) : Sys :=
  let s := if g.netPinnedResolvers then s else s.emit [.dnsRefresh]
  (s.emit [.uagResetTransp]).resetOutcome g env

/-- `apply_handover`, connectivity reporting. -/
def noteLink (s : Sys) : Sys :=
  if !env.routable then s.linkDown s.nm.curLaddr else s.linkUp env

/-- `apply_handover`. -/
def applyHandover (s : Sys) : Sys :=
  if !env.routable && !env.linklocal then (s.linkDown []).waitForAddress
  else (({ s with nm.waitTicks := 0 }).noteLink env).resetTransports g env

/-- A handover is owed. -/
def isOwed (s : Sys) : Bool := s.nm.resetPending || s.nm.force

/-- The debounce starts over. -/
def restartSettle (s : Sys) : Sys :=
  { s with nm.tmrSettle := Timer.start s.now s.nm.settleMs }

/-- What `netmon_trigger` notes of the scan and the request. -/
def noteChange (forced : Bool) (s : Sys) : Sys :=
  { s with
    nm.resetPending := s.nm.resetPending || decide (env.scanned ≠ 0)
    nm.force := s.nm.force || forced }

/-- `settle_handler`. -/
def settleHandler (s : Sys) : Sys :=
  if !s.nm.started then s
  else if env.scanned ≠ 0 then ({ s with nm.resetPending := true }).restartSettle
  else if !s.isOwed then s
  else s.applyHandover g env

/-- The announcement of a round in `netmon_trigger`. -/
def announce (s : Sys) : Sys :=
  if s.nm.announced then s
  else
    let s := { s with nm.announced := true, nm.handoverStart := s.now }
    ((s.updateCurLaddr env).emitNet .changeDetected none 0).markAccountsReconnecting

/-- `netmon_trigger`. -/
def netmonTrigger (forced : Bool) (s : Sys) : Sys :=
  if !s.nm.started then s
  else
    let s := s.noteChange env forced
    if !s.isOwed then s else (s.announce env).restartSettle

/-- `poll_handler`. -/
def pollHandler (s : Sys) : Sys :=
  if !s.nm.started then s
  else
    let s := s.netmonTrigger env false
    if s.nm.pollS = 0 then s
    else { s with nm.tmrPoll := Timer.start s.now (u32 (s.nm.pollS * 1000)) }

/-! ### The public API -/

/-- `set_monitor_fn`. -/
def setMonitorFn (seconds : Nat) (s : Sys) : Sys :=
  { s with
    nm.pollS := seconds
    nm.tmrPoll := if seconds = 0 then none else Timer.start s.now (u32 (seconds * 1000)) }

/-- `set_policy_fn`. -/
def setPolicyFn (reinvite hangup : Bool) (s : Sys) : Sys :=
  { s with nm.reinviteCalls := reinvite, nm.hangupOnFail := hangup }

/-! ### What happens to one account or call -/

/-- One event of the account with the id. -/
def onAccount (id : Nat) (act : AcctAct) (s : Sys) : Sys :=
  let (accounts, os) := sweep (fun a => decide (a.id = id))
    (fun a => (a.idle.handle g s.now act).flush) 1 s.accounts
  { s with accounts, out := s.out ++ os }

/-- A handler on the call with the id. -/
def onCall (id : Nat) (work : Call → Call) (s : Sys) : Sys :=
  let (calls, os) := sweep (fun c => decide (c.id = id)) (fun c => (work c.idle).flush) 1 s.calls
  { s with calls, out := s.out ++ os }

/-- The verify timer takes over at once: an offer is never built inside another handler. -/
def bounceVerify (s : Sys) : Sys := { s with nm.tmrVerify := Timer.start s.now 1 }

/-- Some call with the id passes the test. -/
def hasCall (id : Nat) (test : Call → Bool) (s : Sys) : Bool :=
  s.calls.any fun c => decide (c.id = id) && test c

/-- `vox_netmon_call_refreshable`. -/
def callRefreshable (id : Nat) (s : Sys) : Sys :=
  if !s.nm.started then s
  else if s.hasCall id fun c =>
      decide (c.netMigState = .deferred) && decide (c.netMigGen = s.nm.gen) then
    s.bounceVerify
  else s

/-- `vox_adapt_tick` of the call. -/
def statsTick (id packets : Nat) (setupPending : Bool) (s : Sys) : Sys :=
  let repaired (c : Call) := c.stallRepair g s.nm s.now env packets setupPending
  let asked := s.hasCall id fun c => (repaired c.idle).2
  let s := s.onCall id fun c => (repaired c).1
  if asked then s.bounceVerify else s

end Sys

end VoxSdk
