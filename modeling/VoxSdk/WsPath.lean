import VoxSdk.Config
import VoxSdk.Lib.Machine
import VoxSdk.Lib.RefTable

/-!
# The WebSocket server registry

`ws_path.c`: which server and path outbound WebSocket connects are pinned to. Every WS or WSS account
claims its server when it is created and releases it when it is destroyed; the pins are derived from
the claims.
-/

namespace VoxSdk

open Reactive

/-- `VOX_WS_MAX_SERVERS`. -/
def wsMaxServers : Nat := 4

/-- What `ws_find` compares: the origin and the explicit path. -/
structure WsServer where
  origin : CStr
  path : CStr
  deriving DecidableEq

/-- A zeroed `struct ws_server`. -/
def WsServer.none : Slot WsServer := { key := { origin := [], path := [] }, refs := 0, seq := 0 }

/-- The statics of `ws_path.c`: the table `ws_srvv`, and the pins `g_vox_ws_server` and
`g_vox_ws_path`. -/
structure WsRegistry where
  srvv : List (Slot WsServer)
  srvSeq : Nat
  srvOverflow : Bool
  server : CStr
  path : CStr

/-- Zero-initialised. -/
def WsRegistry.zero : WsRegistry :=
  { srvv := List.replicate wsMaxServers WsServer.none
    srvSeq := 0
    srvOverflow := false
    server := []
    path := [] }

/-- `ws_origin`. -/
def wsOrigin (transport : Transport) (host : CStr) (port : Nat) : CStr :=
  let scheme := if transport = .wss then "wss".toList else "ws".toList
  let host := if ':' ∈ host then '[' :: host ++ [']'] else host
  scheme ++ "://".toList ++ host ++ ':' :: (Nat.repr port).toList

namespace WsRegistry

/-- The servers in use. -/
def entries (r : WsRegistry) : List WsServer := (r.srvv.filter fun e => !e.isFree).map Slot.key

/-- What the entries say, if they all say the same. -/
def agreed (get : WsServer → CStr) (r : WsRegistry) : CStr :=
  match r.entries with
  | [] => []
  | e :: es => if es.all fun e' => decide (get e' = get e) then get e else []

/-- `ws_recompute`. -/
def recompute (r : WsRegistry) : WsRegistry :=
  { r with
    server := strNcpy 288 (if r.srvOverflow then [] else r.agreed WsServer.origin)
    path := strNcpy 256 (r.agreed WsServer.path)
    srvOverflow := r.srvOverflow && !r.entries.isEmpty }

/-- `ws_find` finds an entry. -/
def found (k : WsServer) (r : WsRegistry) : Bool := r.srvv.any (Slot.isFor k)

/-- There is a free slot. -/
def hasFreeSlot (r : WsRegistry) : Bool := r.srvv.any Slot.isFree

/-- `vox_ws_set_server`, once the origin is built. -/
def claim (k : WsServer) (r : WsRegistry) : WsRegistry :=
  if r.found k then { r with srvv := updateFirst (Slot.isFor k) Slot.retain r.srvv }.recompute
  else if !r.hasFreeSlot then { r with srvOverflow := true }.recompute
  else
    { r with
      srvv := updateFirst Slot.isFree
        (fun _ =>
          { key := { origin := strNcpy 288 k.origin, path := strNcpy 256 k.path }
            refs := 1
            seq := r.srvSeq + 1 })
        r.srvv
      srvSeq := r.srvSeq + 1 }.recompute

/-- `vox_ws_set_server`. -/
def setServer (transport : Transport) (host : CStr) (port : Nat) (path : CStr) (r : WsRegistry) :
    WsRegistry :=
  if host = [] ∨ port = 0 then r
  else r.claim { origin := wsOrigin transport host port, path }

/-- `vox_ws_unset_server`, once the origin is built. -/
def unclaim (k : WsServer) (r : WsRegistry) : WsRegistry :=
  if r.found k then
    { r with srvv := updateFirst (Slot.isFor k) (Slot.release WsServer.none) r.srvv }.recompute
  else r

/-- `vox_ws_unset_server`. -/
def unsetServer (transport : Transport) (host : CStr) (port : Nat) (path : CStr) (r : WsRegistry) :
    WsRegistry :=
  if host = [] ∨ port = 0 then r
  else r.unclaim { origin := wsOrigin transport host port, path }

/-! ### Connecting -/

/-- `ws_newest`. -/
def newest (r : WsRegistry) : Option WsServer :=
  if r.srvOverflow then none
  else
    (r.srvv.foldl
      (fun best e =>
        if e.isFree then best
        else if best.all fun b => decide (b.seq < e.seq) then some e else best)
      none).map Slot.key

/-- What `strstr` for a scheme's end leaves: the text before it, and after it. -/
def splitScheme : CStr → Option (CStr × CStr)
  | [] => none
  | ':' :: '/' :: '/' :: rest => some ([], rest)
  | c :: rest => (splitScheme rest).map fun p => (c :: p.1, p.2)

/-- `ws_uri_origin`, split at its scheme. -/
def uriOrigin (uri : CStr) : Option (CStr × CStr) :=
  match splitScheme uri with
  | none => none
  | some (scheme, rest) =>
      let authority := rest.takeWhile fun c => decide (c ≠ '/') && decide (c ≠ '?')
      if scheme.length + 3 + authority.length < 288 then some (scheme, authority) else none

/-- The host of an authority: what is inside the brackets, or before the last colon. -/
def authorityHost (authority : CStr) : CStr :=
  match authority with
  | '[' :: rest => rest.takeWhile fun c => decide (c ≠ ']')
  | _ =>
      if ':' ∈ authority then
        ((authority.reverse.dropWhile fun c => decide (c ≠ ':')).drop 1).reverse
      else authority

/-- `ws_uri_is_dead`; `isLocal` says of a host whether it is an address literal that is loopback or
unspecified. -/
def uriIsDead (isLocal : CStr → Bool) (uri : CStr) (r : WsRegistry) : Bool :=
  match uriOrigin uri with
  | none => false
  | some (scheme, authority) =>
      let origin := scheme ++ "://".toList ++ authority
      if r.entries.any fun e => decide (e.origin = origin) then false
      else
        let host := authorityHost authority
        if host = [] ∨ 256 ≤ host.length then false
        else decide (host.map Char.toLower = "localhost".toList) || isLocal host

/-- A URI printed into 512 bytes, or the one at hand when it does not fit. -/
def patched (uri text : CStr) : CStr := if text.length < 512 then text else uri

/-- The path to ask for when the server is known. -/
def pathOrRoot (path : CStr) : CStr := if path = [] then ['/'] else path

/-- The URI `websock_connect` dials for the one it is given. -/
def useUri (isLocal : CStr → Bool) (uri : CStr) (r : WsRegistry) : CStr :=
  if r.server ≠ [] then patched uri (r.server ++ pathOrRoot r.path)
  else
    match if r.uriIsDead isLocal uri then r.newest else none with
    | some rescue => patched uri (rescue.origin ++ pathOrRoot rescue.path)
    | none =>
        if r.path ≠ [] ∧ uri.getLast? = some '/' then patched uri (uri.dropLast ++ r.path) else uri

end WsRegistry

/-! ### The accounts -/

theorem length_strNcpy_lt {size : Nat} (hpos : 0 < size) (s : CStr) :
    (strNcpy size s).length < size :=
  (List.length_take_le _ _).trans_lt (Nat.sub_lt hpos one_pos)

/-- What a WebSocket account keeps of its server, in fields of fixed size. Other accounts do not come
near the registry. -/
structure WsAccount where
  id : Nat
  parsedTransport : Transport
  wsHost : CStr
  wsPort : Nat
  wsPinPath : CStr
  host_fits : wsHost.length < 256
  port_fits : wsPort < 2 ^ 16
  path_fits : wsPinPath.length < 256

namespace WsAccount

/-- `create_fn`, with the server the account is to use. -/
def create (id : Nat) (transport : Transport) (host : CStr) (port : Nat) (path : CStr) : WsAccount :=
  { id
    parsedTransport := transport
    wsHost := strNcpy 256 host
    wsPort := port % 2 ^ 16
    wsPinPath := strNcpy 256 path
    host_fits := length_strNcpy_lt (by decide) host
    port_fits := Nat.mod_lt port (by decide)
    path_fits := length_strNcpy_lt (by decide) path }

def origin (a : WsAccount) : CStr := wsOrigin a.parsedTransport a.wsHost a.wsPort

/-- The account has a server to connect to. -/
def hasServer (a : WsAccount) : Bool := decide (a.wsHost ≠ []) && decide (a.wsPort ≠ 0)

/-- What the account claims. -/
def key (a : WsAccount) : WsServer := { origin := a.origin, path := a.wsPinPath }

end WsAccount

/-- The live WebSocket accounts, and the registry. -/
structure WsSys where
  live : List WsAccount
  registry : WsRegistry

inductive WsAct where
  | create (id : Nat) (transport : Transport) (host : CStr) (port : Nat) (path : CStr)
  | destroy (id : Nat)

namespace WsSys

/-- An account is created once, and destroyed once. -/
def enabled (s : WsSys) : WsAct → Bool
  | .create id transport .. => transport.isWebSocket && s.live.all fun a => decide (a.id ≠ id)
  | .destroy id => s.live.any fun a => decide (a.id = id)

/-- `create_fn` and `account_destructor`. -/
def handle (s : WsSys) : WsAct → WsSys
  | .create id transport host port path =>
      let a := WsAccount.create id transport host port path
      { live := a :: s.live
        registry := s.registry.setServer a.parsedTransport a.wsHost a.wsPort a.wsPinPath }
  | .destroy id =>
      match s.live.find? fun a => decide (a.id = id) with
      | none => s
      | some a =>
          { live := s.live.eraseP fun a => decide (a.id = id)
            registry :=
              if a.wsPort = 0 then s.registry
              else s.registry.unsetServer a.parsedTransport a.wsHost a.wsPort a.wsPinPath }

end WsSys

/-- The runs of the registry, from the start of the process. -/
def wsSystem : Machine WsSys WsAct Unit where
  init s := s = { live := [], registry := .zero }
  step s act := if s.enabled act then some (s.handle act, []) else none

end VoxSdk
