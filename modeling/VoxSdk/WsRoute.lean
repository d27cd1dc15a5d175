import VoxSdk.Outbound
import VoxSdk.WsPath

/-!
# In-dialog routes

`vox_ws_route_override` of `ws_path.c`: the route a request inside a WebSocket dialog takes is replaced by
one that names the pinned server. The substitute is kept between calls. Decoding URIs and their parameters
is libre's.
-/

namespace VoxSdk

open Reactive Text

/-- `struct uri`, as far as the override reads it. -/
structure RouteUri where
  host : CStr
  port : Nat
  params : CStr
  deriving DecidableEq

/-- What libre reads: `uri_decode` of a text, and `msg_param_decode` of the parameter `transport`. -/
structure UriReader where
  decode : CStr → Option RouteUri
  transportParam : CStr → Option CStr

namespace UriReader

variable (reader : UriReader)

/-- `ws_route_is_websocket`. -/
def routeIsWebsocket : Option RouteUri → Bool
  | none => false
  | some route =>
      match reader.transportParam route.params with
      | none => false
      | some tp =>
          decide (tp.map Char.toLower = "ws".toList) || decide (tp.map Char.toLower = "wss".toList)

/-- The scheme of the pinned server, and the rest of it. -/
def routeScheme (server : CStr) : Option (CStr × CStr) :=
  if startsWith "wss://".toList server then some ("wss".toList, server.drop 6)
  else if startsWith "ws://".toList server then some ("ws".toList, server.drop 5)
  else none

/-- `sip:%s:%u;transport=%s;lr`. -/
def routeText (host : CStr) (port : Nat) (scheme : CStr) : CStr :=
  "sip:".toList ++ host ++ ':' :: (Nat.repr port).toList ++ ";transport=".toList ++ scheme
    ++ ";lr".toList

/-- `ws_route_rebuild`; `none` leaves `s_route_ok` false. -/
def routeRebuild (server : CStr) : Option RouteUri :=
  match routeScheme server with
  | none => none
  | some (scheme, rest) =>
      let host := upToLast ':' rest
      let port := strtoul (pastLast ':' rest) % 2 ^ 32
      if ':' ∉ rest ∨ host = [] then none
      else if 256 ≤ host.length then none
      else if port = 0 then none
      else if 352 ≤ (routeText host port scheme).length then none
      else reader.decode (routeText host port scheme)

end UriReader

/-- The accounts with the pins, and the substitute route, `none` while it is not `s_route_ok`. -/
structure WsRouteSys where
  ws : WsSys
  route : Option RouteUri

namespace WsRouteSys

/-- `g_vox_ws_server`. -/
def pin (s : WsRouteSys) : CStr := s.ws.registry.server

/-- The substitute is rebuilt unless its host is the pin. -/
def refresh (reader : UriReader) (s : WsRouteSys) : WsRouteSys :=
  if s.route.any fun u => decide (u.host = s.pin) then s
  else { s with route := reader.routeRebuild s.pin }

/-- `vox_ws_route_override`: the route to take, and what is left in the statics. -/
def override (reader : UriReader) (route : Option RouteUri) (s : WsRouteSys) :
    Option RouteUri × WsRouteSys :=
  match route with
  | none => (none, s)
  | some u =>
      if s.pin = [] ∨ reader.routeIsWebsocket (some u) = false then (some u, s)
      else
        let s := s.refresh reader
        match s.route with
        | none => (some u, s)
        | some flow =>
            -- already the flow, nothing to do
            if u.host = flow.host ∧ u.port = flow.port then (some u, s) else (some flow, s)

end WsRouteSys

/-- Accounts come and go, and requests ask for their route. -/
inductive WsRouteAct where
  | pins (act : WsAct)
  | route (route : Option RouteUri)

/-- The runs of accounts and requests. A request's output is the route it takes. -/
def wsRouteSystem (reader : UriReader) : Machine WsRouteSys WsRouteAct (Option RouteUri) where
  init s := wsSystem.init s.ws ∧ s.route = none
  step s
    | .pins act => (wsSystem.step s.ws act).map fun r => ({ s with ws := r.1 }, [])
    | .route route => some ((s.override reader route).2, [(s.override reader route).1])

end VoxSdk
