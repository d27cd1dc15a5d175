import VoxSdk.Config

/-!
# An account and what it reports

`struct voxsdk_account`, the REG_STATE events it posts, and the functions that decide whether and
how a state change is reported (`account.c`). Everything here runs on the re_main thread.
-/

namespace VoxSdk

open Reactive

/-- What `error_str` of an event points to: nothing, the account's own `reg_error_str`, or a copy in
the queued event's buffer. `vox_event_post` copies the event but not what it points to. -/
inductive ErrStr where
  | null
  | acct
  | buf (s : CStr)
  deriving DecidableEq, Repr

/-- `voxsdk_ev_reg_state_t`, for the account at hand. -/
structure RegEvent where
  state : RegState
  error : VoxError
  errorStr : ErrStr
  retryAttempt : Nat
  retryDelayMs : Nat
  deriving DecidableEq, Repr

/-- A REG_STATE event before `vox_account_reg_ev_prepare` has stamped it. -/
def RegEvent.of (state : RegState) (error : VoxError) (errorStr : ErrStr) : RegEvent :=
  { state, error, errorStr, retryAttempt := 0, retryDelayMs := 0 }

/-- What an account's handler does that is visible outside the account: the baresip functions it
calls, the events it posts, and, recorded for the reader, its own writes of `reg_state` and the
events `vox_account_reg_ev_prepare` told it not to post. `uaRegister` carries `reg_wanted` as it
stood at the call. -/
inductive AcctOut where
  | uaRegister (wanted : Bool)
  | uaUnregister
  | uaOptionsSend (host : CStr)
  | setOutbound (uri : CStr)
  | dnsResolve (host : CStr)
  | registrarWarning
  | regState (state : RegState)
  | post (ev : RegEvent)
  | suppressed (ev : RegEvent)
  | result (err : VoxError)
  deriving DecidableEq, Repr

/-- The signature of the last RECONNECTING event: `last_rc_*`. -/
structure LastRc where
  attempt : Nat
  delayMs : Nat
  error : VoxError
  valid : Bool
  deriving DecidableEq, Repr

/-- The account's own retry policy: `retry_policy_set` and the values it guards. -/
structure RetryPolicy where
  isSet : Bool
  initialMs : Nat
  maxMs : Nat
  backoff : ℚ
  maxAttempts : Nat

/-- RFC 3263 failover: `srv_*`. At most `srvMaxTargets` URIs are kept. -/
structure Srv where
  uri : List CStr
  idx : Nat
  pending : Bool
  tried : Bool

/-- What is fixed when the account is created: the configuration strings the modelled functions
read, and what `create_fn` parsed out of the login URI. -/
structure AccountCfg where
  outbound : Option CStr
  outboundProxy : Option CStr
  serverUrl : Option CStr
  serverHost : Option CStr
  serverPort : Nat
  parsedHost : CStr
  parsedPort : Nat
  parsedTransport : Transport
  iceEnabled : Bool
  pushProvider : PushProvider
  pushParam : Option CStr

/-- `struct voxsdk_account`, as far as registration goes. `ua` says whether baresip's user agent is
there. `out` collects what the handler now running has done. -/
structure Account where
  id : Nat
  cfg : AccountCfg
  ua : Bool
  destroyed : Bool
  regState : RegState
  regError : VoxError
  regErrorStr : CStr
  reconnecting : Bool
  retryAttempt : Nat
  retryDelayMs : Nat
  lastRc : LastRc
  retryTmr : Timer
  regWatchTmr : Timer
  regWatchElapsedMs : Nat
  retryPolicy : RetryPolicy
  regWanted : Bool
  srv : Srv
  kaTmr : Timer
  kaInFlight : Bool
  kaFailed : Bool
  pushToken : Option CStr
  out : List AcctOut

/-- A new account: `memset` to zero, `reg_state` UNREGISTERED, its user agent allocated. -/
def Account.create (id : Nat) (cfg : AccountCfg) (pushToken : Option CStr) : Account :=
  { id, cfg
    ua := true
    destroyed := false
    regState := .unregistered
    regError := .ok
    regErrorStr := []
    reconnecting := false
    retryAttempt := 0
    retryDelayMs := 0
    lastRc := { attempt := 0, delayMs := 0, error := .ok, valid := false }
    retryTmr := none
    regWatchTmr := none
    regWatchElapsedMs := 0
    retryPolicy := { isSet := false, initialMs := 0, maxMs := 0, backoff := 0, maxAttempts := 0 }
    regWanted := false
    srv := { uri := [], idx := 0, pending := false, tried := false }
    kaTmr := none
    kaInFlight := false
    kaFailed := false
    pushToken
    out := [] }

namespace Account

variable (g : Cfg) (now : Nat)

def emit (o : AcctOut) (a : Account) : Account := { a with out := a.out ++ [o] }

/-- A handler's write of `reg_state`. -/
def setRegState (st : RegState) (a : Account) : Account :=
  { a with regState := st, out := a.out ++ [.regState st] }

/-- `acct->reg_error_str[0] ? acct->reg_error_str : NULL`. -/
def errorPtr (a : Account) : ErrStr := if a.regErrorStr = [] then .null else .acct

/-- The server the account's requests are addressed to. -/
def serverName (a : Account) : CStr :=
  match a.cfg.serverHost with
  | some (c :: cs) => c :: cs
  | _ => a.cfg.parsedHost

/-! ### Reporting -/

/-- `vox_account_reconnect_reset`. -/
def reconnectReset (a : Account) : Account :=
  { a with lastRc := { a.lastRc with valid := false }, retryDelayMs := 0 }

/-- The signature test: the last RECONNECTING event said exactly this. -/
def sameReport (error : VoxError) (a : Account) : Bool :=
  a.lastRc.valid && decide (a.lastRc.error = error) &&
    decide (a.lastRc.attempt = a.retryAttempt) && decide (a.lastRc.delayMs = a.retryDelayMs)

/-- The signature of a RECONNECTING event about to be posted. -/
def remember (error : VoxError) (a : Account) : Account :=
  { a with
    lastRc :=
      { attempt := a.retryAttempt, delayMs := a.retryDelayMs, error := error, valid := true } }

/-- The event with the account's retry numbers on it. -/
def stamp (ev : RegEvent) (a : Account) : RegEvent :=
  { ev with retryAttempt := a.retryAttempt, retryDelayMs := a.retryDelayMs }

/-- `vox_account_reg_ev_prepare`: the stamped event, whether it is worth posting, and the account
with its signature brought up to date. -/
def regEvPrepare (ev : RegEvent) (a : Account) : RegEvent × Bool × Account :=
  if ev.state ≠ .reconnecting then
    let a := a.reconnectReset
    (a.stamp ev, true, a)
  else if a.sameReport ev.error then
    (a.stamp ev, false, a.emit (.suppressed (a.stamp ev)))
  else
    (a.stamp ev, true, a.remember ev.error)

/-- `if (vox_account_reg_ev_prepare(acct, &ev)) vox_event_post(&ev)`. -/
def postPrepared (ev : RegEvent) (a : Account) : Account :=
  match a.regEvPrepare ev with
  | (ev, true, a) => a.emit (.post ev)
  | (_, false, a) => a

/-- The same through a queued event that carries its own copy of the reason. -/
def postCopied (ev : RegEvent) (reason : ErrStr) (a : Account) : Account :=
  match a.regEvPrepare ev with
  | (ev, true, a) => a.emit (.post { ev with errorStr := reason })
  | (_, false, a) => a

/-! ### Reconnecting or failed -/

/-- `retry_budget_left`. -/
def retryBudgetLeft (a : Account) : Bool :=
  let maxAttempts :=
    if a.retryPolicy.isSet then a.retryPolicy.maxAttempts else g.regRetryMaxAttempts
  decide (maxAttempts = 0) || decide (a.retryAttempt < maxAttempts)

/-- The decision inside `vox_account_reg_fail_state`. -/
def willRetry (err : VoxError) (a : Account) : Bool :=
  a.regWanted && !a.destroyed && decide (err ≠ .auth) &&
    (a.retryTmr.isRunning || a.retryBudgetLeft g)

/-- `vox_account_reg_fail_state`. -/
def regFailState (err : VoxError) (a : Account) : RegState × Account :=
  let willRetry := a.willRetry g err
  (if willRetry then .reconnecting else .failed, { a with reconnecting := willRetry })

/-! ### Keepalive timer -/

/-- `vox_account_keepalive_arm`. -/
def keepaliveArm (a : Account) : Account :=
  if a.destroyed || !a.regWanted then a
  else if g.keepaliveInterval = 0 then a
  else { a with kaTmr := Timer.start now g.keepaliveInterval }

/-- `vox_account_keepalive_cancel`. -/
def keepaliveCancel (a : Account) : Account := { a with kaTmr := none }

/-- `vox_account_reg_reconnecting`: the network handover's mark. -/
def regReconnecting (a : Account) : Account :=
  if a.destroyed || !a.regWanted then a
  else if a.regState ≠ .registered ∧ a.regState ≠ .registering then a
  else
    let a := { a with reconnecting := true }
    let a := a.setRegState .reconnecting
    let a := a.keepaliveCancel
    a.postPrepared (.of .reconnecting .ok .null)

/-! ### Retry -/

/-- The delay of attempt `n + 1` before jitter: `n` times multiplied by the backoff, stopping at the
cap. -/
def backoffDelay (backoff : ℚ) (maxMs : Nat) : Nat → Nat → Nat
  | 0, delay => delay
  | n + 1, delay =>
      let delay := castU32 (delay * backoff)
      if maxMs ≤ delay then maxMs else backoffDelay backoff maxMs n delay

/-- `apply_jitter`; `rand` is what `rand_u32()` drew. -/
def applyJitter (delay : Nat) (jitter : ℚ) (rand : Nat) : Nat :=
  if jitter ≤ 0 ∨ delay = 0 then delay
  else
    let jitter := if 1 < jitter then 1 else jitter
    let span := castU32 (delay * jitter * 2)
    if span = 0 then delay
    else
      let offset := i32 (rand % u32 (span + 1)) - i32 (span / 2)
      if offset < 0 ∧ delay ≤ (-offset).toNat then 1
      else (Int.emod (i32 delay + offset) (2 ^ 32)).toNat

/-- The delay the next retry is armed with. -/
def retryDelay (rand : Nat) (a : Account) : Nat :=
  let p := a.retryPolicy
  let initialMs := if p.isSet then p.initialMs else g.regRetryInitialMs
  let maxMs := if p.isSet then p.maxMs else g.regRetryMaxMs
  let backoff := if p.isSet then p.backoff else g.regRetryBackoff
  applyJitter (backoffDelay backoff maxMs a.retryAttempt initialMs) g.regRetryJitter rand

/-- `vox_account_schedule_retry`. -/
def scheduleRetry (rand : Nat) (a : Account) : Account :=
  if a.retryTmr.isRunning then a
  else if !a.retryBudgetLeft g then
    let a := { a with reconnecting := false }
    if a.regState ≠ .reconnecting then a
    else
      let a := a.setRegState .failed
      a.postPrepared (.of .failed a.regError a.errorPtr)
  else
    let delay := a.retryDelay g rand
    let a := { a with
      retryAttempt := u32 (a.retryAttempt + 1)
      retryDelayMs := delay
      reconnecting := true }
    let a := a.setRegState .reconnecting
    let a := a.postPrepared (.of .reconnecting a.regError a.errorPtr)
    { a with retryTmr := Timer.start now delay }

end Account

end VoxSdk
