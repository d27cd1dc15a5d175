import VoxSdk.Lib.Machine
import VoxSdk.Registration

/-!
# One account as a machine

Everything that can happen to an account's registration, one event at a time and in any order: the
API calls, the registrar's answers (however late), the timers, the keepalive answer, the SRV lookup,
and the three things a network handover does to an account. re_main runs one handler to its end
before the next, so a step is a handler.

BEVENT_REGISTERING and BEVENT_UNREGISTERING are not events of their own: baresip reports them from
inside `ua_register` and `ua_unregister`. A refusal from inside `ua_register` is the event after it.
-/

namespace VoxSdk

open Reactive

/-- What can happen to an account. The arguments are what baresip, the network and the random
generator decide. -/
inductive AcctAct where
  | register (dnsErr reporting : Bool)
  | unregister (reporting : Bool)
  | retryNow (reporting : Bool)
  | cancelRetry
  | setRetryPolicy (initialMs maxMs : Nat) (backoff : ℚ) (maxAttempts : Nat)
  | setPushToken (token : Option CStr) (dupOk reporting : Bool)
  | keepaliveNow (inCall sendErr : Bool)
  | registerOk
  | registerFail (reason : Option CStr) (rand : Nat)
  | srvDone (targets : Option (List (Transport × CStr × Nat)))
  | retryFires (reporting : Bool)
  | watchFires (registered : Bool) (rand : Nat)
  | keepaliveFires (inCall sendErr : Bool)
  | optionsAnswered (answered registered : Bool) (rand : Nat)
  | handoverMark
  | handoverToRetry (rand : Nat)
  | handoverReregister (reporting : Bool)
  | elapse (ms : Nat)

namespace Account

variable (g : Cfg) (now : Nat)

/-- Whether an event can happen to the account now: a timer has to be due, an answer needs a request
that is out, a handover only touches the accounts in its snapshot, and `voxsdk_account_keepalive_now`
refuses an account the app does not want registered. -/
def enabled (a : Account) : AcctAct → Bool
  | .retryFires _ => a.retryTmr.isDue now
  | .watchFires .. => a.regWatchTmr.isDue now
  | .keepaliveFires .. => a.kaTmr.isDue now
  | .optionsAnswered .. => a.kaInFlight
  | .srvDone _ => a.srv.pending
  | .keepaliveNow .. => a.inSnapshot
  | .handoverMark | .handoverToRetry _ | .handoverReregister _ => a.inSnapshot
  | _ => true

/-- The handler of an event. A timer that fires is idle when its handler runs. -/
def handle (a : Account) : AcctAct → Account
  | .register dnsErr reporting => a.registerFn g now dnsErr reporting
  | .unregister reporting => a.unregisterFn reporting
  | .retryNow reporting => a.retryNowFn now reporting
  | .cancelRetry => a.cancelRetryFn
  | .setRetryPolicy initialMs maxMs backoff maxAttempts =>
      a.setRetryPolicyFn initialMs maxMs backoff maxAttempts
  | .setPushToken token dupOk reporting => a.setPushTokenFn token dupOk reporting
  | .keepaliveNow inCall sendErr => a.keepaliveNowFn g now inCall sendErr
  | .registerOk => a.beventRegisterOk g now
  | .registerFail reason rand => a.beventRegisterFail g now reason rand
  | .srvDone targets => a.srvDoneHandler targets
  | .retryFires reporting => ({ a with retryTmr := none }).retryTimerHandler now reporting
  | .watchFires registered rand =>
      ({ a with regWatchTmr := none }).regWatchHandler g now registered rand
  | .keepaliveFires inCall sendErr =>
      ({ a with kaTmr := none }).keepaliveHandler g now inCall sendErr
  | .optionsAnswered answered registered rand =>
      a.keepaliveRespHandler g now answered registered rand
  | .handoverMark => a.regReconnecting
  | .handoverToRetry rand => a.handoverToRetry g now rand
  | .handoverReregister reporting => a.reregister now reporting
  | .elapse _ => a

/-- The account between two events: nothing done yet. -/
def idle (a : Account) : Account := { a with out := [] }

/-- One event, if it can happen: the account after it, with what the handler did in `out`. -/
def react (a : Account) (act : AcctAct) : Option Account :=
  if a.enabled now act then some (a.idle.handle g now act) else none

end Account

/-- An account and the clock. -/
structure OneAccount where
  now : Nat
  acct : Account

/-- How far an event moves the clock. -/
def AcctAct.elapsed : AcctAct → Nat
  | .elapse ms => ms
  | _ => 0

/-- The runs of one account, from its creation on. -/
def oneAccount (g : Cfg) : Machine OneAccount AcctAct AcctOut where
  init s := ∃ id cfg pushToken, s.acct = Account.create id cfg pushToken
  step s act :=
    (s.acct.react g s.now act).map fun a => ({ now := s.now + act.elapsed, acct := a }, a.out)

/-- A UDP account of the host, with nothing else configured. -/
def AccountCfg.plain (host : CStr) : AccountCfg :=
  { outbound := none
    outboundProxy := none
    serverUrl := none
    serverHost := none
    serverPort := 0
    parsedHost := host
    parsedPort := 0
    parsedTransport := .udp
    iceEnabled := false
    pushProvider := .none
    pushParam := none }

/-- An account just created, at time 0. -/
def justCreated : OneAccount :=
  { now := 0, acct := Account.create 0 (.plain "sip.example.com".toList) none }

theorem justCreated_init (g : Cfg) : (oneAccount g).init justCreated := ⟨_, _, _, rfl⟩

variable {g : Cfg} {s s' : OneAccount} {act : AcctAct} {os : List AcctOut}

theorem oneAccount_step (h : (oneAccount g).step s act = some (s', os)) :
    s.acct.enabled s.now act = true ∧
      s'.acct = s.acct.idle.handle g s.now act ∧
      s'.now = s.now + act.elapsed ∧ os = s'.acct.out := by
  simp only [oneAccount, Account.react, Option.map_eq_some_iff, Prod.mk.injEq] at h
  obtain ⟨a, ha, rfl, rfl⟩ := h
  split at ha
  · rename_i hen
    cases ha
    exact ⟨hen, rfl, rfl, rfl⟩
  · cases ha

theorem oneAccount_step_of_enabled (act : AcctAct) (hen : s.acct.enabled s.now act = true) :
    (oneAccount g).step s act =
      some (⟨s.now + act.elapsed, s.acct.idle.handle g s.now act⟩,
        (s.acct.idle.handle g s.now act).out) := by
  simp only [oneAccount, Account.react, hen, if_true, Option.map_some]

end VoxSdk
