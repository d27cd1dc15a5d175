import VoxSdk.Account

/-!
# The registration handlers

What runs on re_main for one account: the registration cases of `bevent_handler` (`event.c`), the
three timers and the keepalive answer, the SRV lookup, the calls of the public API, and what a
network handover does to the account (`account.c`, `netmon.c`).

What baresip and the network decide is an argument: whether `ua_register` reports
BEVENT_REGISTERING before it returns, what `ua_isregistered` says, whether the account is in a call,
whether the OPTIONS request could be sent, what `rand_u32` draws.
-/

namespace VoxSdk

open Reactive

/-! ### Classifying a failure -/

/-- `isspace` in the C locale. -/
def isSpace (c : Char) : Bool :=
  c.toNat = 32 || (9 ≤ c.toNat && c.toNat ≤ 13)

/-- `strtol(s, &end, 10)`: the value and how many characters it took. -/
def strtol (s : CStr) : Int × Nat :=
  let spaces := s.takeWhile isSpace
  let rest := s.dropWhile isSpace
  let (negative, sign, rest) :=
    match rest with
    | '-' :: rest => (true, 1, rest)
    | '+' :: rest => (false, 1, rest)
    | rest => (false, 0, rest)
  let digits := rest.takeWhile Char.isDigit
  if digits = [] then (0, 0)
  else
    let value : Nat := digits.foldl (fun n c => 10 * n + (c.toNat - '0'.toNat)) 0
    (if negative then max (-value) (-2 ^ 63) else min value (2 ^ 63 - 1),
      spaces.length + sign + digits.length)

/-- `sip_reason_code`. -/
def sipReasonCode (reason : Option CStr) : Nat :=
  match reason with
  | none => 0
  | some reason =>
      let (code, taken) := strtol reason
      if taken ≠ 3 ∨ code < 100 ∨ 699 < code then 0 else code.toNat

/-- How REGISTER_FAIL classifies the reason. -/
def registerFailError (reason : Option CStr) : VoxError :=
  let code := sipReasonCode reason
  if code = 401 ∨ code = 403 ∨ code = 407 then .auth
  else if 500 ≤ code ∧ code < 600 then .server5xx
  else .transport

/-! ### Addresses -/

/-- `vox_transport_str`. -/
def transportStr : Transport → CStr
  | .udp => "udp".toList
  | .tcp => "tcp".toList
  | .tls => "tls".toList
  | .ws => "ws".toList
  | .wss => "wss".toList

/-- The port `vox_build_outbound` falls back to. -/
def outboundDefaultPort : Transport → Nat
  | .tls => 5061
  | .ws => 80
  | .wss => 443
  | _ => 5060

/-- `vox_build_outbound` without a server URL. -/
def buildOutboundHost (host : CStr) (port : Nat) (transport : Transport) : CStr :=
  let port := if port = 0 then outboundDefaultPort transport else port
  "sip:".toList ++ strNcpy 256 host ++ ":".toList ++ (Nat.repr port).toList
    ++ ";transport=".toList ++ transportStr transport

/-- `VOX_SRV_MAX_TARGETS`. -/
def srvMaxTargets : Nat := 4

/-- `VOX_REG_WATCH_INTERVAL_MS`. -/
def regWatchIntervalMs : Nat := 500

/-- `VOX_PUSH_PARAMS_BUFSZ`. -/
def pushParamsBufsz : Nat := 1024

namespace Account

variable (g : Cfg) (now : Nat)

/-! ### baresip's registration events -/

/-- `bevent_handler`, BEVENT_REGISTERING. -/
def beventRegistering (a : Account) : Account :=
  if a.reconnecting then
    let a := a.setRegState .reconnecting
    -- the reason the recovery started with travels in the queued event's own buffer
    let reason := if a.regErrorStr = [] then .null else .buf (strNcpy 4096 a.regErrorStr)
    a.postCopied (.of .reconnecting a.regError .null) reason
  else
    -- posted as it is: `vox_account_reg_ev_prepare` does not see this one
    (a.setRegState .registering).emit (.post (.of .registering .ok .null))

/-- `bevent_handler`, BEVENT_REGISTER_OK and BEVENT_FALLBACK_OK. -/
def beventRegisterOk (a : Account) : Account :=
  let a := a.setRegState .registered
  let a := { a with
    retryAttempt := 0
    reconnecting := false
    kaFailed := false
    regError := .ok
    regErrorStr := [] }
  let a := a.keepaliveArm g now
  a.postPrepared (.of .registered .ok .null)

/-- `bevent_handler`, BEVENT_REGISTER_FAIL and BEVENT_FALLBACK_FAIL. -/
def beventRegisterFail (reason : Option CStr) (rand : Nat) (a : Account) : Account :=
  let error := registerFailError reason
  let (state, a) := a.regFailState g error
  let a := a.setRegState state
  let a := { a with regError := error }
  let a := a.keepaliveCancel
  let a := { a with regErrorStr := (reason.map (strNcpy 256)).getD a.regErrorStr }
  let a := if error ≠ .auth then a.scheduleRetry g now rand else a
  a.postCopied (.of state error .null)
    (match reason with
      | none => .null
      | some reason => .buf (strNcpy 4096 reason))

/-- `bevent_handler`, BEVENT_UNREGISTERING. -/
def beventUnregistering (a : Account) : Account :=
  let a := a.setRegState .unregistering
  let a := { a with reconnecting := false }
  a.postPrepared (.of .unregistering .ok .null)

/-- `ua_register`. When there is something to register with, baresip reports BEVENT_REGISTERING from
inside the call. -/
def uaRegister (reporting : Bool) (a : Account) : Account :=
  let a := a.emit (.uaRegister a.regWanted)
  if reporting then a.beventRegistering else a

/-- `ua_unregister`, which reports BEVENT_UNREGISTERING in the same way. -/
def uaUnregister (reporting : Bool) (a : Account) : Account :=
  let a := a.emit .uaUnregister
  if reporting then a.beventUnregistering else a

/-! ### Registration watchdog -/

/-- `vox_account_watch_registration`. -/
def watchRegistration (a : Account) : Account :=
  if a.destroyed || !a.ua then a
  else { a with regWatchElapsedMs := 0, regWatchTmr := Timer.start now regWatchIntervalMs }

/-- `reg_watch_handler`; `registered` is what `ua_isregistered` answers. -/
def regWatchHandler (registered : Bool) (rand : Nat) (a : Account) : Account :=
  if a.destroyed || !a.ua || !a.regWanted then a
  else if a.regState = .registered ∨ a.regState = .failed then a
  else if a.retryTmr.isRunning then a
  else if registered then
    let a := a.emit .registrarWarning
    let a := a.setRegState .registered
    let a := { a with retryAttempt := 0, reconnecting := false }
    let a := a.keepaliveArm g now
    a.postPrepared (.of .registered .ok .null)
  else
    let a := { a with regWatchElapsedMs := u32 (a.regWatchElapsedMs + regWatchIntervalMs) }
    if g.sipTimerFMs ≠ 0 ∧ g.sipTimerFMs ≤ a.regWatchElapsedMs then
      let a := { a with regError := .timeout }
      let (state, a) := a.regFailState g .timeout
      let a := a.setRegState state
      let a := { a with regErrorStr := strNcpy 256 "registration timed out".toList }
      let a := a.postPrepared (.of state .timeout .acct)
      a.scheduleRetry g now rand
    else { a with regWatchTmr := Timer.start now regWatchIntervalMs }

/-! ### SRV failover -/

/-- `srv_failover_eligible`. -/
def srvFailoverEligible (a : Account) : Bool :=
  g.dnsSrvFailover
    && a.cfg.outbound.isNone && a.cfg.outboundProxy.isNone && g.outboundProxy.isNone
    && a.cfg.serverUrl.isNone
    && !a.cfg.parsedTransport.isWebSocket
    && decide (a.cfg.serverPort = 0) && decide (a.cfg.parsedPort = 0)
    && decide (a.serverName ≠ []) && !g.saSetStr a.serverName

/-- `vox_account_srv_resolve`; `dnsErr` says whether the lookup could not be started. -/
def srvResolve (dnsErr : Bool) (a : Account) : Account :=
  if a.srv.tried || a.srv.pending then a
  else if !a.srvFailoverEligible g then a
  else
    let a := { a with srv := { a.srv with tried := true, pending := true } }
    let a := a.emit (.dnsResolve a.serverName)
    if dnsErr then { a with srv := { a.srv with pending := false } } else a

/-- `srv_done_handler`: the targets of a successful lookup, `none` for a failed one. -/
def srvDoneHandler (targets : Option (List (Transport × CStr × Nat))) (a : Account) : Account :=
  if a.destroyed then a
  else
    let srv := { a.srv with pending := false }
    match targets with
    | none => { a with srv }
    | some targets =>
        let uris := targets.map fun (t, host, port) => buildOutboundHost (strNcpy 256 host) port t
        { a with srv := { srv with uri := (srv.uri ++ uris).take srvMaxTargets } }

/-- `srv_advance`. -/
def srvAdvance (a : Account) : Account :=
  if a.srv.uri.length < 2 || !a.ua then a
  else
    let a := { a with srv := { a.srv with idx := (a.srv.idx + 1) % a.srv.uri.length } }
    a.emit (.setOutbound (a.srv.uri.getD a.srv.idx []))

/-- `retry_timer_handler`. -/
def retryTimerHandler (reporting : Bool) (a : Account) : Account :=
  if a.destroyed || !a.ua then a
  else
    let a := a.srvAdvance
    let a := a.uaRegister reporting
    a.watchRegistration now

/-! ### Reachability probe -/

/-- The probe's request URI is `sip:` and the server's name, in 320 bytes. -/
def probeable (a : Account) : Bool :=
  decide (a.serverName ≠ []) && decide ("sip:".length + a.serverName.length < 320)

/-- `keepalive_handler`; `inCall` says whether `ua_calls` is not empty, `sendErr` whether
`ua_options_send` failed. -/
def keepaliveHandler (inCall sendErr : Bool) (a : Account) : Account :=
  if a.destroyed || !a.ua || !a.regWanted then a
  else if a.kaInFlight then a
  else if inCall then a.keepaliveArm g now
  else if !a.probeable then a
  else if sendErr then ({ a with kaInFlight := false }).keepaliveArm g now
  else ({ a with kaInFlight := true }).emit (.uaOptionsSend a.serverName)

/-- `keepalive_resp_handler`; `answered` is any response at all, `registered` what `ua_isregistered`
says. -/
def keepaliveRespHandler (answered registered : Bool) (rand : Nat) (a : Account) : Account :=
  if a.destroyed then a
  else
    let a := { a with kaInFlight := false }
    if answered then
      let recovered := a.kaFailed && decide (a.regState = .reconnecting) && registered
      let a := { a with kaFailed := false }
      let a :=
        if recovered then
          let a := a.setRegState .registered
          let a := { a with
            regError := .ok
            retryAttempt := 0
            reconnecting := false
            regErrorStr := [] }
          a.postPrepared (.of .registered .ok .null)
        else a
      a.keepaliveArm g now
    else
      let a := a.emit .registrarWarning
      let a := { a with kaFailed := true, regError := .timeout }
      let reregister := g.keepaliveReregister && a.regWanted
      let (state, a) :=
        if reregister then a.regFailState g .timeout
        else (if a.regWanted then .reconnecting else .failed, { a with reconnecting := a.regWanted })
      let a := a.setRegState state
      let a := { a with regErrorStr := strNcpy 256 "keepalive probe timed out".toList }
      let a := a.postPrepared (.of state .timeout .acct)
      if reregister then a.scheduleRetry g now rand else a.keepaliveArm g now

/-! ### The public API -/

/-- `register_fn`. -/
def registerFn (dnsErr reporting : Bool) (a : Account) : Account :=
  if a.ua then
    let a := { a with regWanted := true, reconnecting := false }
    let a := a.srvResolve g dnsErr
    let a := a.uaRegister reporting
    a.watchRegistration now
  else a

/-- `unregister_fn`. -/
def unregisterFn (reporting : Bool) (a : Account) : Account :=
  if a.ua then
    let a := { a with
      regWanted := false
      reconnecting := false
      kaFailed := false
      regState := .unregistering
      regWatchTmr := none }
    let a := a.keepaliveCancel
    a.uaUnregister reporting
  else a

/-- `keepalive_now_fn`. -/
def keepaliveNowFn (inCall sendErr : Bool) (a : Account) : Account :=
  ({ a with kaTmr := none }).keepaliveHandler g now inCall sendErr

/-- `set_retry_policy_fn`. -/
def setRetryPolicyFn (initialMs maxMs : Nat) (backoff : ℚ) (maxAttempts : Nat) (a : Account) :
    Account :=
  { a with retryPolicy := { isSet := true, initialMs, maxMs, backoff, maxAttempts } }

/-- `cancel_retry_fn`. -/
def cancelRetryFn (a : Account) : Account :=
  let a := { a with retryTmr := none, regWatchTmr := none, retryAttempt := 0 }
  if a.regState = .reconnecting then
    let a := { a with reconnecting := false }
    let a := a.setRegState .failed
    -- posted as it is, like REGISTERING above
    a.emit (.post (.of .failed a.regError a.errorPtr))
  else a

/-- `retry_now_fn`. -/
def retryNowFn (reporting : Bool) (a : Account) : Account :=
  let a := { a with retryTmr := none, retryAttempt := 0 }
  if !a.destroyed && a.ua then
    let a := { a with regWanted := true }
    let a := a.uaRegister reporting
    a.watchRegistration now
  else a

/-- `provider_str` of `build_push_contact_params`. -/
def providerStr : PushProvider → Option CStr
  | .none => none
  | .apns => some "apns".toList
  | .apnsSandbox => some "apns-sandbox".toList
  | .fcm => some "fcm".toList

/-- `build_push_contact_params` into a buffer of `size` bytes: empty when push is off, `none` for the
`-1` of parameters that do not fit. -/
def buildPushContactParams (size : Nat) (a : Account) : Option CStr :=
  match providerStr a.cfg.pushProvider, a.pushToken with
  | some provider, some (c :: token) =>
      let text := "pn-provider=".toList ++ provider ++ ";pn-prid=".toList ++ c :: token
      let text :=
        match a.cfg.pushParam with
        | some (d :: param) => text ++ ";pn-param=".toList ++ d :: param
        | _ => text
      if size < text.length + 1 then none else some text
  | _, _ => some []

/-- Whether `set_push_token_fn` leaves the new token to the next REGISTER: one is in flight, or a
retry is armed. -/
def registerDeferred (a : Account) : Bool :=
  decide (a.regState = .registering) || decide (a.regState = .unregistering) ||
    decide (a.regState = .reconnecting) || a.retryTmr.isRunning

/-- The token `set_push_token_fn` stores; `dupOk` says whether `vox_strdup` found memory. -/
def storePushToken (token : Option CStr) (dupOk : Bool) (a : Account) : Account :=
  { a with pushToken := if dupOk then token else none }

/-- `set_push_token_fn`. -/
def setPushTokenFn (token : Option CStr) (dupOk reporting : Bool) (a : Account) : Account :=
  if !a.ua then a.emit (.result .state)
  else
    let a := a.storePushToken token dupOk
    if (a.buildPushContactParams pushParamsBufsz).isNone then a.emit (.result .inval)
    else
      let a := if a.registerDeferred then a else a.uaRegister reporting
      a.emit (.result .ok)

/-- `ctx.result` when the function that was dispatched has run. -/
def ctxResult (a : Account) : VoxError :=
  match a.out.getLast? with
  | some (.result err) => err
  | _ => .ok

/-- `voxsdk_account_set_push_token`, with what it returns; `dispatch` is the error of `vox_dispatch_sync`. -/
def voxsdkAccountSetPushToken (dispatch : Int) (token : Option CStr) (dupOk reporting : Bool) (a : Account) :
    Account × Int :=
  if dispatch ≠ 0 then (a, dispatch)
  else
    let a := a.setPushTokenFn token dupOk reporting
    (a, a.ctxResult.code)

/-! ### Network handover -/

/-- Whether `snapshot_accounts` takes the account. -/
def inSnapshot (a : Account) : Bool := !a.destroyed && a.ua && a.regWanted

/-- The body of `handover_accounts_to_retry`. -/
def handoverToRetry (rand : Nat) (a : Account) : Account :=
  if a.regState = .reconnecting then a.scheduleRetry g now rand else a

/-- The registrar refused the account's credentials. -/
def authFailed (a : Account) : Bool :=
  decide (a.regState = .failed) && decide (a.regError = .auth)

/-- The body of `reregister_accounts`, after its NET event. -/
def reregister (reporting : Bool) (a : Account) : Account :=
  if a.authFailed then a
  else
    let a := { a with retryTmr := none, retryAttempt := 0, reconnecting := true }
    let a := a.uaRegister reporting
    a.watchRegistration now

end Account

end VoxSdk
