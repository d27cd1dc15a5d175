import Mathlib.Logic.Function.Basic
import VoxSdk.Dispatch

/-!
# Jobs and the accounts they are about

`voxsdk_account_register`, `voxsdk_account_unregister` and `voxsdk_account_keepalive_now` post a job with the address
of the account and return (`vox_dispatch`); `voxsdk_account_destroy` and the other functions of an account post one
and wait for it; `voxsdk_shutdown` posts one for each account, waits for it, and frees the account on its own thread
(`account.c`, `core.c`, `dispatch.c`). None of the jobs looks whether its account is still there.

An account has a number of its own and is freed when it is not on `g_vox.accounts`. What libre answers to a post is
an argument, and which of the accepted jobs the loop runs next.
-/

namespace VoxSdk

open Reactive

inductive JobKind where
  | registerFn
  | unregisterFn
  | keepaliveNowFn
  /-- `set_push_token_fn` and the like, for which the caller waits -/
  | syncFn
  | destroyFn
  /-- `hangup_ua_fn` -/
  | hangupUaFn
  deriving DecidableEq, Repr

/-- `dispatch_ctx_t`, `sync_ctx_t`. -/
structure Job where
  kind : JobKind
  acct : Nat
  deriving DecidableEq, Repr

/-- `voxsdk_shutdown`: not running, in its loop, waiting for `hangup_ua_fn`, and about to free the account. -/
inductive JobsDown where
  | up
  | accounts
  | hangUp (acct : Nat)
  | free (acct : Nat)
  deriving DecidableEq, Repr

/-- `g_vox.accounts` with what is asked of each, and the jobs libre has accepted and not run, in the order in which
they were posted. -/
structure Jobs where
  initialized : Bool
  next : Nat
  live : List Nat
  regWanted : Nat → Bool
  pending : List Job
  down : JobsDown

/-- The memory of an account is read, written or freed, alive or not; what a function returns. -/
inductive JobOut where
  | touched (acct : Nat) (alive : Bool)
  | returned (err : Int)
  deriving DecidableEq

inductive JobAct where
  | init
  | create
  | call (kind : JobKind) (acct : Nat) (err : Int)
  | run (i : Nat)
  /-- `voxsdk_shutdown` is called, and goes on -/
  | shutdown
  | shutdownNext (err : Int)
  deriving DecidableEq

namespace Jobs

def touch (acct : Nat) (s : Jobs) : JobOut := .touched acct (decide (acct ∈ s.live))

/-- `vox_dispatch`, and `vox_dispatch_sync` up to its wait: libre accepts the job, or answers an error. -/
def voxDispatch (job : Job) (err : Int) (s : Jobs) : Jobs × List JobOut :=
  if !s.initialized then (s, [.returned errState])
  else if err ≠ 0 then (s, [.returned err])
  else ({ s with pending := s.pending ++ [job] }, [.returned 0])

/-- `voxsdk_account_keepalive_now`, which reads the account first. -/
def keepaliveNow (acct : Nat) (err : Int) (s : Jobs) : Jobs × List JobOut :=
  if !s.regWanted acct then (s, [s.touch acct, .returned errState])
  else
    let (s', os) := s.voxDispatch { kind := .keepaliveNowFn, acct } err
    (s', s.touch acct :: os)

/-- The functions of an account. -/
def call (kind : JobKind) (acct : Nat) (err : Int) (s : Jobs) : Jobs × List JobOut :=
  match kind with
  | .keepaliveNowFn => s.keepaliveNow acct err
  | _ => s.voxDispatch { kind, acct } err

/-- A job runs. -/
def runJob (job : Job) (s : Jobs) : Jobs × List JobOut :=
  (match job.kind with
    | .registerFn => { s with regWanted := Function.update s.regWanted job.acct true }
    | .unregisterFn => { s with regWanted := Function.update s.regWanted job.acct false }
    | .destroyFn => { s with live := s.live.erase job.acct }
    | .keepaliveNowFn | .syncFn | .hangupUaFn => s, [s.touch job.acct])

/-- `voxsdk_shutdown` in its loop: it marks an account and has its calls hung up, or is through and stops the loop.
What libre has not run by then is never run. -/
def shutdownAccounts (err : Int) (s : Jobs) : Jobs × List JobOut :=
  match s.live with
  | [] => ({ s with initialized := false, pending := [], down := .up }, [])
  | acct :: _ =>
      if err ≠ 0 then ({ s with down := .free acct }, [s.touch acct])
      else
        ({ s with pending := s.pending ++ [{ kind := .hangupUaFn, acct }], down := .hangUp acct }, [s.touch acct])

/-- The next step of `voxsdk_shutdown`, if it has one. -/
def shutdownNext (err : Int) (s : Jobs) : Option (Jobs × List JobOut) :=
  match s.down with
  | .up => none
  | .accounts => some (s.shutdownAccounts err)
  | .hangUp acct =>
      if ({ kind := .hangupUaFn, acct } : Job) ∈ s.pending then none else some ({ s with down := .free acct }, [])
  | .free acct => some ({ s with live := s.live.erase acct, down := .accounts }, [s.touch acct])

def act (s : Jobs) : JobAct → Option (Jobs × List JobOut)
  | .init => if s.initialized then none else some ({ s with initialized := true }, [])
  | .create =>
      if s.initialized then some ({ s with next := s.next + 1, live := s.live ++ [s.next] }, []) else none
  | .call kind acct err => if kind = .hangupUaFn then none else some (s.call kind acct err)
  | .run i => s.pending[i]?.map fun job => { s with pending := s.pending.eraseIdx i }.runJob job
  | .shutdown => if s.initialized && decide (s.down = .up) then some ({ s with down := .accounts }, []) else none
  | .shutdownNext err => s.shutdownNext err

end Jobs

/-- The life of the accounts in a process. -/
def jobs : Machine Jobs JobAct JobOut where
  init s := s =
    { initialized := false, next := 0, live := [], regWanted := fun _ => false, pending := [], down := .up }
  step := Jobs.act

end VoxSdk
