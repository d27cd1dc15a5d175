import VoxSdk.AccountMachine
import Mathlib.Logic.Function.Basic

/-!
# The accounts and the answers they wait for

`g_vox.accounts`, where the allocator puts the accounts, and the SRV lookups and OPTIONS probes whose
answers are still out. A callback carries the address of the account that asked, and `acct_is_live` is all
it knows of it. The allocator may put a new account at any address where none lives.
-/

namespace VoxSdk

open Reactive

inductive AskKind where
  | srv
  | options
  deriving DecidableEq

/-- A question that is out: the address its callback carries, the account that asked, and the host asked
about. -/
structure Ask where
  kind : AskKind
  addr : Nat
  asker : Nat
  host : CStr
  deriving DecidableEq

/-- What a handler has asked: a lookup that could be started, or a probe that was sent. -/
def Account.asks (addr : Nat) (a : Account) : List Ask :=
  a.out.filterMap fun o =>
    match o with
    | .dnsResolve host => if a.srv.pending then some { kind := .srv, addr, asker := a.id, host } else none
    | .uaOptionsSend host => some { kind := .options, addr, asker := a.id, host }
    | _ => none

/-- The accounts by address. Every account gets a number of its own. -/
structure Accounts where
  now : Nat
  live : Nat → Option Account
  asks : List Ask
  nextId : Nat

/-- What can happen: an account comes or goes, an event of one account, an answer, the clock. -/
inductive AccountsAct where
  | create (addr : Nat) (cfg : AccountCfg) (pushToken : Option CStr)
  | destroy (addr : Nat)
  | event (addr : Nat) (act : AcctAct)
  | srvAnswer (ask : Ask) (targets : Option (List (Transport × CStr × Nat)))
  | optionsAnswer (ask : Ask) (answered registered : Bool) (rand : Nat)
  | elapse (ms : Nat)

/-- What can be seen: what an account's handler does, and, recorded for the reader, each answer. -/
inductive AccountsOut where
  | acct (id : Nat) (o : AcctOut)
  | srvAnswered (ask : Ask) (targets : Option (List (Transport × CStr × Nat)))
  | optionsAnswered (ask : Ask)
  deriving DecidableEq

/-- The events of an account that are neither answers nor the clock. -/
def AcctAct.isEvent : AcctAct → Bool
  | .srvDone _ | .optionsAnswered .. | .elapse _ => false
  | _ => true

namespace Accounts

variable (g : Cfg)

/-- `destroy_fn` takes the account out of the list; what it asked stays asked. -/
def destroyFn (addr : Nat) (s : Accounts) : Accounts :=
  { s with live := Function.update s.live addr none }

/-- A handler of the account at an address. -/
def onAccountAt (addr : Nat) (f : Account → Account) (s : Accounts) : Accounts × List AccountsOut :=
  match s.live addr with
  | none => (s, [])
  | some a =>
      let a := f a.idle
      ({ s with live := Function.update s.live addr (some a), asks := s.asks ++ a.asks addr },
        a.out.map (.acct a.id))

/-- `srv_done_handler`, for the address the lookup carries. -/
def srvDone (ask : Ask) (targets : Option (List (Transport × CStr × Nat))) (s : Accounts) :
    Accounts × List AccountsOut :=
  onAccountAt ask.addr (fun a => a.srvDoneHandler targets) { s with asks := s.asks.erase ask }

/-- `keepalive_resp_handler`, for the address the probe carries. -/
def optionsDone (ask : Ask) (answered registered : Bool) (rand : Nat) (s : Accounts) :
    Accounts × List AccountsOut :=
  onAccountAt ask.addr (fun a => a.keepaliveRespHandler g s.now answered registered rand)
    { s with asks := s.asks.erase ask }

end Accounts

/-- The runs of the accounts. -/
def accounts (g : Cfg) : Machine Accounts AccountsAct AccountsOut where
  init s := (∀ addr, s.live addr = none) ∧ s.asks = []
  step s act :=
    match act with
    | .create addr cfg pushToken =>
        if (s.live addr).isNone then
          let a := Account.create s.nextId cfg pushToken
          some ({ s with live := Function.update s.live addr (some a), nextId := s.nextId + 1 }, [])
        else none
    | .destroy addr => if (s.live addr).isSome then some (s.destroyFn addr, []) else none
    | .event addr act =>
        if act.isEvent && (s.live addr).any fun a => a.enabled s.now act then
          some (s.onAccountAt addr fun a => a.handle g s.now act)
        else none
    | .srvAnswer ask targets =>
        if ask ∈ s.asks ∧ ask.kind = .srv then
          let (s, outs) := s.srvDone ask targets
          some (s, .srvAnswered ask targets :: outs)
        else none
    | .optionsAnswer ask answered registered rand =>
        if ask ∈ s.asks ∧ ask.kind = .options then
          let (s, outs) := s.optionsDone g ask answered registered rand
          some (s, .optionsAnswered ask :: outs)
        else none
    | .elapse ms => some ({ s with now := s.now + ms }, [])

end VoxSdk
