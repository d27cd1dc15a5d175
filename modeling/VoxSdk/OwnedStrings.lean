import VoxSdk.Config
import VoxSdk.Lib.Ledger
import VoxSdk.Lib.Machine
import VoxSdk.Lib.RefTable
import Mathlib.Logic.Function.Basic

/-!
# Copied strings

What the SDK copies to the heap and gives back: the strings of the configuration (`core.c`), those of an account
(`account.c`), and the custom headers of accounts and calls (`headers.c`, `call.c`). Any allocation may fail, and what
`mem_alloc` hands out holds what was there before. A string is its block and its text; a null pointer is none.
-/

namespace VoxSdk

open Ledger Reactive

/-- A copy on the heap. -/
structure Str where
  block : Nat
  text : CStr
  deriving DecidableEq

section Copies

variable (fails : Nat → Bool)

/-! ### One string, and an array of them -/

/-- `vox_strdup`. -/
def voxStrdup : Option CStr → Prog (Option Str)
  | none => pure none
  | some text => do
      let p ← Prog.alloc fails
      pure (p.map fun block => { block, text })

/-- `mem_deref` of a string. -/
def derefStr (s : Option Str) : Prog Unit := Prog.free (s.map Str.block)

/-- A NULL-terminated array of strings on the heap. -/
structure Strv where
  block : Nat
  elems : List Str
  deriving DecidableEq

/-- The loop of `vox_strdup_strv`, with the elements copied so far: where one fails, they are given back. -/
def strdupElems (arr : Nat) : List Str → List CStr → Prog (Option Strv)
  | dst, [] => pure (some { block := arr, elems := dst })
  | dst, text :: rest => do
      match ← voxStrdup fails (some text) with
      | some dup => strdupElems arr (dst ++ [dup]) rest
      | none =>
          Prog.each (fun s : Str => derefStr (some s)) dst
          Prog.free (some arr)
          pure none

/-- `vox_strdup_strv`. -/
def voxStrdupStrv : Option (List CStr) → Prog (Option Strv)
  | none => pure none
  | some src => do
      match ← Prog.alloc fails with
      | none => pure none
      | some arr => strdupElems fails arr [] src

/-- `vox_free_strv`. -/
def voxFreeStrv : Option Strv → Prog Unit
  | none => pure ()
  | some arr => do
      Prog.each (fun s : Str => derefStr (some s)) arr.elems
      Prog.free (some arr.block)

/-! ### The fields of a structure -/

variable {κ : Type} [DecidableEq κ]

/-- The assignments of a deep copy: each field in turn gets a copy of the source's, whatever it held. -/
def copyFields (src : κ → Option CStr) : List κ → (κ → Option Str) → Prog (κ → Option Str)
  | [], dst => pure dst
  | field :: fields, dst => do
      let s ← voxStrdup fails (src field)
      copyFields src fields (Function.update dst field s)

/-- The lines of a deep free: each field in turn is given back and set to NULL. -/
def freeFields : List κ → (κ → Option Str) → Prog (κ → Option Str)
  | [], dst => pure dst
  | field :: fields, dst => do
      derefStr (dst field)
      freeFields fields (Function.update dst field none)

/-! ### The configuration -/

/-- The strings of `voxsdk_config_t` that are copied. -/
inductive CfgStr where
  | localIp
  | sipDomain
  | serverUrl
  | serverHost
  | outboundProxy
  | caCertPath
  | clientCert
  | clientKey
  | sniHostname
  | userAgent
  | wsOrigin
  | stunServer
  | turnServer
  | turnUser
  | turnPass
  | pcapPath
  | tmpDir
  deriving DecidableEq, Repr

namespace CfgStr

/-- The fields before `ws_extra_headers`, in the order of the copy. -/
def beforeHeaders : List CfgStr :=
  [.localIp, .sipDomain, .serverUrl, .serverHost, .outboundProxy, .caCertPath, .clientCert, .clientKey, .sniHostname,
    .userAgent, .wsOrigin]

/-- The fields behind it. -/
def afterHeaders : List CfgStr := [.stunServer, .turnServer, .turnUser, .turnPass, .pcapPath, .tmpDir]

end CfgStr

/-- What the app passes in `voxsdk_config_t`. -/
structure CfgSource where
  str : CfgStr → Option CStr
  wsExtraHeaders : Option (List CStr)

/-- `g_vox.cfg_*`, the copies behind the pointers of `g_vox.cfg`. -/
structure CfgStrings where
  str : CfgStr → Option Str
  wsExtraHeaders : Option Strv

/-- All pointers NULL. -/
def CfgStrings.null : CfgStrings := { str := fun _ => none, wsExtraHeaders := none }

/-- `vox_cfg_deep_copy`. -/
def voxCfgDeepCopy (src : CfgSource) (ctx : CfgStrings) : Prog CfgStrings := do
  let str ← copyFields fails src.str CfgStr.beforeHeaders ctx.str
  let wsExtraHeaders ← voxStrdupStrv fails src.wsExtraHeaders
  let str ← copyFields fails src.str CfgStr.afterHeaders str
  pure { str, wsExtraHeaders }

/-- `vox_cfg_deep_free`. -/
def voxCfgDeepFree (ctx : CfgStrings) : Prog CfgStrings := do
  let str ← freeFields CfgStr.beforeHeaders ctx.str
  voxFreeStrv ctx.wsExtraHeaders
  let str ← freeFields CfgStr.afterHeaders str
  pure { str, wsExtraHeaders := none }

/-! ### Custom headers -/

/-- `struct vox_custom_hdr`. -/
structure CustomHdr where
  node : Nat
  name : Str
  value : Str
  deriving DecidableEq

/-- How `add_hdr_fn`, `add_call_hdr_fn` and `vox_call_wrap_new` make a header, up to `list_append`. Where a copy fails
the node is dropped, and its destructor gives back the copy that did not. -/
def customHdrNew (name value : CStr) : Prog (Option CustomHdr) := do
  match ← Prog.alloc fails with
  | none => pure none
  | some node =>
      let n ← voxStrdup fails (some name)
      let v ← voxStrdup fails (some value)
      match n, v with
      | some name, some value => pure (some { node, name, value })
      | n, v =>
          derefStr n
          derefStr v
          Prog.free (some node)
          pure none

/-- `list_append` of a header that `mem_alloc` has made: where the memory happens to say that its `le` is on a list
already, as `linked` has it of a block, it is refused, and nobody gives it back. -/
def appendHdr (linked : Nat → Bool) (ch : Option CustomHdr) (hdrs : List CustomHdr) :
    List CustomHdr × List CustomHdr :=
  match ch with
  | none => (hdrs, [])
  | some ch => if linked ch.node then (hdrs, [ch]) else (hdrs ++ [ch], [])

/-- `mem_deref` of a header, with `custom_hdr_destructor`. -/
def derefHdr (h : CustomHdr) : Prog Unit := do
  derefStr (some h.name)
  derefStr (some h.value)
  Prog.free (some h.node)

/-- The loop of `vox_call_wrap_new` over the account's headers: one that cannot be copied is left out. The nodes are
zeroed, so `list_append` takes them. -/
def inheritHdrs : List CustomHdr → Prog (List CustomHdr)
  | [] => pure []
  | h :: hs => do
      let ch ← customHdrNew fails h.name.text h.value.text
      let rest ← inheritHdrs hs
      pure (ch.toList ++ rest)

/-! ### Accounts and calls -/

/-- The strings of `voxsdk_account_config_t`. -/
inductive AcctStr where
  | uri
  | password
  | serverHost
  | serverUrl
  | authUser
  | displayName
  | stunServer
  | turnServer
  | turnUser
  | turnPass
  | outbound
  | outboundProxy
  | pushToken
  | pushParam
  deriving DecidableEq, Repr

/-- The order of `vox_acct_cfg_deep_copy` and `vox_acct_cfg_deep_free`. -/
def AcctStr.all : List AcctStr :=
  [.uri, .password, .serverHost, .serverUrl, .authUser, .displayName, .stunServer, .turnServer, .turnUser, .turnPass,
    .outbound, .outboundProxy, .pushToken, .pushParam]

/-- `struct voxsdk_account` as a block, with its strings and headers. -/
structure AcctMem where
  id : Nat
  node : Nat
  str : AcctStr → Option Str
  customHdrs : List CustomHdr

/-- `mem_deref` of an account, with `account_destructor`. -/
def derefAccount (a : AcctMem) : Prog Unit := do
  Prog.each derefHdr a.customHdrs
  let _ ← freeFields AcctStr.all a.str
  Prog.free (some a.node)

/-- `create_fn`: `uaAllocs` is whether `ua_alloc` succeeds. -/
def createAcct (id : Nat) (src : AcctStr → Option CStr) (uaAllocs : Bool) : Prog (Option AcctMem) := do
  match ← Prog.alloc fails with
  | none => pure none
  | some node =>
      let str ← copyFields fails src AcctStr.all fun _ => none
      let acct : AcctMem := { id, node, str, customHdrs := [] }
      if str .uri = none || !uaAllocs then do
        derefAccount acct
        pure none
      else pure (some acct)

/-- `struct voxsdk_call` as a block, with its headers; whether it is on the list of calls, and baresip has the call. -/
structure CallMem where
  id : Nat
  node : Nat
  customHdrs : List CustomHdr
  registered : Bool

/-- `vox_call_wrap_new`, for the headers there are to inherit. -/
def wrapCall (id : Nat) (hdrs : List CustomHdr) : Prog (Option CallMem) := do
  match ← Prog.alloc fails with
  | none => pure none
  | some node =>
      let customHdrs ← inheritHdrs fails hdrs
      pure (some { id, node, customHdrs, registered := true })

/-- `mem_deref` of the last reference to a call, with `vox_call_destructor`. -/
def derefCall (c : CallMem) : Prog Unit := do
  Prog.each derefHdr c.customHdrs
  Prog.free (some c.node)

end Copies

/-! ### Runs -/

/-- The SDK as far as it owns copies: `calls` are the wrappers that have not been freed, `stray` the headers that no
list has taken. -/
structure Strings where
  initialized : Bool
  ctx : CfgStrings
  accounts : List AcctMem
  calls : List CallMem
  stray : List CustomHdr

/-- What can happen to the copies: `comesUp` is whether the rest of `voxsdk_init` succeeds, `closes` which calls report
their end while `voxsdk_shutdown` hangs them up. -/
inductive StringsAct where
  | init (src : CfgSource) (comesUp : Bool)
  | shutdown (closes : Nat → Bool)
  | createAccount (id : Nat) (src : AcctStr → Option CStr) (uaAllocs : Bool)
  | destroyAccount (id : Nat)
  | addHeader (acct : Nat) (name value : CStr) (uaAdds : Bool)
  | setPushToken (acct : Nat) (token : Option CStr)
  | wrapCall (id acct : Nat) (inherit : Bool)
  | addCallHeader (call : Nat) (name value : CStr)
  | callClosed (call : Nat)
  | releaseCall (call : Nat)

namespace Strings

variable (fails linked : Nat → Bool)

def isAcct (id : Nat) (a : AcctMem) : Bool := decide (a.id = id)

def isCall (id : Nat) (c : CallMem) : Bool := decide (c.id = id)

/-- A function on the account with the id, which may lose headers. -/
def onAccount (id : Nat) (fn : AcctMem → Prog (AcctMem × List CustomHdr)) (s : Strings) : Prog Strings :=
  match s.accounts.find? (isAcct id) with
  | none => pure s
  | some a => do
      let (a, stray) ← fn a
      pure { s with accounts := updateFirst (isAcct id) (fun _ => a) s.accounts, stray := s.stray ++ stray }

/-- A function on the call with the id, which may lose headers. -/
def onCall (id : Nat) (fn : CallMem → Prog (CallMem × List CustomHdr)) (s : Strings) : Prog Strings :=
  match s.calls.find? (isCall id) with
  | none => pure s
  | some c => do
      let (c, stray) ← fn c
      pure { s with calls := updateFirst (isCall id) (fun _ => c) s.calls, stray := s.stray ++ stray }

/-- `add_hdr_fn`, once the user agent has taken the header. -/
def addHdrFn (name value : CStr) (a : AcctMem) : Prog (AcctMem × List CustomHdr) := do
  let ch ← customHdrNew fails name value
  let (customHdrs, stray) := appendHdr linked ch a.customHdrs
  pure ({ a with customHdrs }, stray)

/-- `set_push_token_fn`. -/
def setPushTokenFn (token : Option CStr) (a : AcctMem) : Prog (AcctMem × List CustomHdr) := do
  derefStr (a.str .pushToken)
  let t ← voxStrdup fails token
  pure ({ a with str := Function.update a.str .pushToken t }, [])

/-- `add_call_hdr_fn`. -/
def addCallHdrFn (name value : CStr) (c : CallMem) : Prog (CallMem × List CustomHdr) := do
  if !c.registered then pure (c, [])
  else
    let ch ← customHdrNew fails name value
    let (customHdrs, stray) := appendHdr linked ch c.customHdrs
    pure ({ c with customHdrs }, stray)

/-- `voxsdk_init`. The deep copy overwrites whatever the pointers hold. -/
def start (src : CfgSource) (comesUp : Bool) (s : Strings) : Prog Strings := do
  let ctx ← voxCfgDeepCopy fails src s.ctx
  if comesUp then pure { s with initialized := true, ctx }
  else
    let _ ← voxCfgDeepFree ctx
    pure { s with ctx := .null }

/-- The account loop of `voxsdk_shutdown`: the strings are freed there, and again by the destructor. -/
def dropAccount (a : AcctMem) : Prog Unit := do
  let str ← freeFields AcctStr.all a.str
  derefAccount { a with str }

/-- Whether `vox_call_global_reset` still finds the call on the list. -/
def isReset (closes : Nat → Bool) (c : CallMem) : Bool := c.registered && !closes c.id

/-- `voxsdk_shutdown`. The wrapper of a call that reports its end is left to the event that says so. -/
def stop (closes : Nat → Bool) (s : Strings) : Prog Strings := do
  Prog.each dropAccount s.accounts
  let ctx ← voxCfgDeepFree s.ctx
  Prog.each derefCall (s.calls.filter (isReset closes))
  let left := s.calls.filter fun c => !isReset closes c
  pure
    { initialized := false
      ctx
      accounts := []
      calls := left.map fun c => { c with registered := false }
      stray := s.stray }

/-- Whether an action can happen. -/
def enabled (s : Strings) : StringsAct → Bool
  | .init .. => !s.initialized
  | .shutdown _ => s.initialized
  | .createAccount id .. => s.initialized && !s.accounts.any (isAcct id)
  | .destroyAccount id => s.initialized && s.accounts.any (isAcct id)
  | .wrapCall id .. => s.initialized && !s.calls.any (isCall id)
  | .releaseCall id => (s.calls.find? (isCall id)).any fun c => !c.registered
  | _ => true

/-- The step of an action. -/
def handle (s : Strings) : StringsAct → Prog Strings
  | .init src comesUp => s.start fails src comesUp
  | .shutdown closes => s.stop closes
  | .createAccount id src uaAllocs => do
      let acct ← createAcct fails id src uaAllocs
      pure { s with accounts := s.accounts ++ acct.toList }
  | .destroyAccount id =>
      match s.accounts.find? (isAcct id) with
      | none => pure s
      | some a => do
          derefAccount a
          pure { s with accounts := s.accounts.eraseP (isAcct id) }
  | .addHeader acct name value uaAdds =>
      if uaAdds then s.onAccount acct (addHdrFn fails linked name value) else pure s
  | .setPushToken acct token => s.onAccount acct (setPushTokenFn fails token)
  | .wrapCall id acct inherit => do
      let hdrs := if inherit then ((s.accounts.find? (isAcct acct)).map AcctMem.customHdrs).getD [] else []
      let call ← wrapCall fails id hdrs
      pure { s with calls := s.calls ++ call.toList }
  | .addCallHeader call name value => s.onCall call (addCallHdrFn fails linked name value)
  | .callClosed call => s.onCall call fun c => pure ({ c with registered := false }, [])
  | .releaseCall call =>
      match s.calls.find? (isCall call) with
      | none => pure s
      | some c => do
          derefCall c
          pure { s with calls := s.calls.eraseP (isCall call) }

end Strings

/-- What is seen of a step: that it has freed a block that was not there. -/
inductive StringsOut where
  | fault
  deriving DecidableEq

/-- Nothing is there before the first `voxsdk_init`. -/
def Strings.atStart : Strings := { initialized := false, ctx := .null, accounts := [], calls := [], stray := [] }

/-- The runs of the SDK and the heap, from the start of the process on: `fails` says which allocations fail, and
`linked` what the blocks hold where a header has its `le`. -/
def ownedStrings (fails linked : Nat → Bool) : Machine (Strings × Store) StringsAct StringsOut where
  init p := p = (.atStart, { next := 0, live := 0 })
  step p act :=
    if p.1.enabled act then
      match (p.1.handle fails linked act).run p.2 with
      | some r => some (r, [])
      | none => some (p, [.fault])
    else none

end VoxSdk
