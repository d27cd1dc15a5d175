import VoxSdk.AccountMachine
import VoxSdk.Lib.CountedQueue

/-!
# Events and the strings they point to

A queued event is a copy of a struct whose strings are pointers. Most producers pack what they point to into
the event's own buffer. `vox_event_post` copies the struct alone, and a REG_STATE event that an account posts
this way may point to the account's `reg_error_str`, which the account's handlers go on writing on re_main
until the account is freed. The event thread, and in owned mode the application, read it later (`event.c`,
`account.c`).
-/

namespace VoxSdk

open Reactive

/-- Where a string of an event is: nowhere, in an account, or in the event's own buffer, in a clone of it or
in the program text. -/
inductive StrPtr where
  | null
  | regErrorStr (acct : Nat)
  | own (text : CStr)
  deriving DecidableEq

/-- `struct voxsdk_queued_event`, as far as its strings go, with what they read as when it was posted. -/
structure PostedEvent where
  strs : List StrPtr
  asPosted : List (Option CStr)
  deriving DecidableEq

/-- The accounts in the order they were created, with a gap for each that was freed, the event queue, and the
events the consumer may still look at: the one that is being delivered, and the clones not yet released. -/
structure EventStrings where
  now : Nat
  accounts : List (Option Account)
  queue : CountedQueue PostedEvent
  reading : List PostedEvent

/-- What can happen: `account` is a handler of the account on re_main, `oom` says for which of the events it
posts there is no memory; `other` is an event of any other producer. -/
inductive StrAct where
  | create (cfg : AccountCfg) (pushToken : Option CStr)
  | destroy (id : Nat)
  | account (id : Nat) (act : AcctAct) (oom : Nat → Bool)
  | elapse (ms : Nat)
  | other (strs : List (Option CStr))
  | takeEvent (delivered : Bool)
  | reads (i : Nat)
  | finished (i : Nat)

/-- The consumer reads the strings of an event; one that was freed reads as `none`. -/
inductive StrOut where
  | read (ev : PostedEvent) (found : List (Option (Option CStr)))
  deriving DecidableEq

namespace EventStrings

/-- The account with the number, unless it was freed. -/
def acct (s : EventStrings) (id : Nat) : Option Account := s.accounts[id]?.join

/-- What a string of an event reads as now. -/
def read (s : EventStrings) : StrPtr → Option (Option CStr)
  | .null => some none
  | .own text => some (some text)
  | .regErrorStr id => (s.acct id).map fun a => some a.regErrorStr

/-- `vox_event_post_qev`. -/
def postQev (ev : PostedEvent) (s : EventStrings) : EventStrings :=
  match s.queue.push ev with
  | none => s
  | some queue => { s with queue }

/-- The queued event that a REG_STATE event becomes. Handlers write `reg_error_str` before they post, so `a`
may be the account as its handler leaves it. -/
def regStateQev (id : Nat) (a : Account) (ev : RegEvent) : PostedEvent :=
  match ev.errorStr with
  | .null => { strs := [.null], asPosted := [none] }
  | .acct => { strs := [.regErrorStr id], asPosted := [some a.regErrorStr] }
  | .buf text => { strs := [.own text], asPosted := [some text] }

/-- The events a handler of the account has posted, in order, without those that found no memory. -/
def regStateQevs (id : Nat) (oom : Nat → Bool) (a : Account) : List PostedEvent :=
  let posted := a.out.filterMap fun o => match o with | .post ev => some (regStateQev id a ev) | _ => none
  (posted.zipIdx.filter fun p => !oom p.2).map Prod.fst

/-- An event that carries its own strings. -/
def ownQev (strs : List (Option CStr)) : PostedEvent :=
  { strs := strs.map fun str => match str with | none => .null | some text => .own text, asPosted := strs }

/-- One handler of one account. -/
def onAccount (g : Cfg) (id : Nat) (act : AcctAct) (oom : Nat → Bool) (s : EventStrings) :
    Option EventStrings :=
  match s.acct id with
  | none => none
  | some a =>
      (a.react g s.now act).map fun a =>
        (regStateQevs id oom a).foldl (fun s ev => s.postQev ev)
          { s with accounts := s.accounts.set id (some a) }

/-- A step, if it can be taken. -/
def act (g : Cfg) (s : EventStrings) : StrAct → Option (EventStrings × List StrOut)
  | .create cfg pushToken =>
      some ({ s with
        accounts := s.accounts ++ [some (Account.create s.accounts.length cfg pushToken)] }, [])
  | .destroy id => some ({ s with accounts := s.accounts.set id none }, [])
  | .account id act oom => (s.onAccount g id act oom).map fun s => (s, [])
  | .elapse ms => some ({ s with now := s.now + ms }, [])
  | .other strs => some (s.postQev (ownQev strs), [])
  | .takeEvent delivered =>
      match s.queue.pop with
      | none => none
      | some (ev, queue) =>
          -- `qev_clone` rebases what is in the event's own buffer, and leaves a pointer that is not
          some ({ s with queue, reading := if delivered then s.reading ++ [ev] else s.reading }, [])
  | .reads i => s.reading[i]?.map fun ev => (s, [.read ev (ev.strs.map s.read)])
  | .finished i => s.reading[i]?.map fun _ => ({ s with reading := s.reading.eraseIdx i }, [])

end EventStrings

/-- The runs of the event strings, from `voxsdk_init` on. -/
def eventStrings (g : Cfg) (max : Nat) : Machine EventStrings StrAct StrOut where
  init s := ∃ now, s = { now, accounts := [], queue := .empty max, reading := [] }
  step s a := s.act g a

end VoxSdk
