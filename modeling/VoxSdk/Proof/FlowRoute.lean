import VoxSdk.Proof.OutboundUri
import VoxSdk.Proof.WsPins
import VoxSdk.WsRoute

/-!
# The route of the flow

The substitute's host is compared with a whole origin, which it never equals, so the substitute is built anew
each time and is always that of the server pinned now. But the route that is asked for is only compared by
host and port: one that names the pinned server with the other WebSocket transport is taken for the flow and
goes out over a transport the server is not pinned with.
-/

namespace VoxSdk

open Reactive Text

/-! ### Flows -/

def isHexOrColon (c : Char) : Bool :=
  c.isDigit || (decide ('a' ≤ c) && decide (c ≤ 'f')) || (decide ('A' ≤ c) && decide (c ≤ 'F')) || c = ':'

def isNameChar (c : Char) : Bool := c.isAlphanum || c = '-' || c = '.' || c = '_'

/-- A host as a SIP URI can have it: a name, an IPv4 address, or an IPv6 address. -/
def isSipHost (host : CStr) : Bool :=
  decide (host ≠ []) && decide (host.length ≤ 253) &&
    if ':' ∈ host then host.all isHexOrColon else host.all isNameChar

/-- Where the connection of a WebSocket account goes. -/
structure WsFlow where
  transport : Transport
  host : CStr
  port : Nat
  transport_wf : transport.isWebSocket = true
  host_wf : isSipHost host = true
  port_wf : 0 < port ∧ port < 2 ^ 16

namespace WsFlow

variable (f : WsFlow)

def origin : CStr := wsOrigin f.transport f.host f.port

def params : CStr := ";transport=".toList ++ wsScheme f.transport ++ ";lr".toList

/-- The route that names the flow. -/
def route : RouteUri := { host := f.host, port := f.port, params := f.params }

/-- The route names the flow's host, port and transport. -/
structure IsNamedBy (reader : UriReader) (u : RouteUri) : Prop where
  host : u.host = f.host
  port : u.port = f.port
  transport : (reader.transportParam u.params).map (List.map Char.toLower) = some (wsScheme f.transport)

end WsFlow

/-- libre decodes the text of a flow's route as it is meant, an IPv6 address without its brackets. -/
structure UriReader.ReadsFlows (reader : UriReader) : Prop where
  decode : ∀ f : WsFlow,
    reader.decode (UriReader.routeText (wsHostText f.host) f.port (wsScheme f.transport)) = some f.route
  transportParam : ∀ f : WsFlow, reader.transportParam f.params = some (wsScheme f.transport)

namespace WsFlow

variable {f : WsFlow} {reader : UriReader}

theorem host_length : f.host.length ≤ 253 := by
  have hwf := f.host_wf
  simp only [isSipHost, Bool.and_eq_true, decide_eq_true_eq] at hwf
  exact hwf.1.2

theorem host_ne_nil : f.host ≠ [] := by
  have hwf := f.host_wf
  simp only [isSipHost, Bool.and_eq_true, decide_eq_true_eq] at hwf
  exact hwf.1.1

/-- No host has a character that is in neither kind of host. -/
theorem notMem_host {c : Char} (hname : isNameChar c = false) (haddr : isHexOrColon c = false) :
    c ∉ f.host := by
  intro hmem
  have hwf := f.host_wf
  simp only [isSipHost, Bool.and_eq_true] at hwf
  obtain ⟨-, hchars⟩ := hwf
  split at hchars
  · exact absurd (List.all_eq_true.mp hchars c hmem) (by simp [haddr])
  · exact absurd (List.all_eq_true.mp hchars c hmem) (by simp [hname])

theorem length_hostText_le : (wsHostText f.host).length ≤ 255 := by
  have hlen := f.host_length
  unfold wsHostText
  split
  · simp only [List.length_cons, List.length_append, List.length_nil]
    omega
  · omega

theorem hostText_ne_nil : wsHostText f.host ≠ [] := by
  unfold wsHostText
  split
  · exact List.cons_ne_nil _ _
  · exact f.host_ne_nil

theorem length_origin_lt : f.origin.length < 288 :=
  length_wsOrigin_lt (f.host_length.trans_lt (by decide)) f.port_wf.2

theorem length_wsScheme_le (transport : Transport) : (wsScheme transport).length ≤ 3 := by
  unfold wsScheme
  split <;> decide

/-- Of the two schemes, one is tried after the other. -/
theorem routeScheme_origin :
    UriReader.routeScheme f.origin =
      some (wsScheme f.transport, wsHostText f.host ++ ':' :: (Nat.repr f.port).toList) := by
  rw [origin, wsOrigin_eq]
  generalize wsHostText f.host ++ ':' :: (Nat.repr f.port).toList = rest
  unfold wsScheme
  split <;> rfl

theorem routeText_eq (host : CStr) (port : Nat) (scheme : CStr) : UriReader.routeText host port scheme =
    "sip:".toList ++ host ++ ':' :: (Nat.repr port).toList ++ ";transport=".toList ++ scheme ++ ";lr".toList := rfl

theorem length_routeText (host : CStr) (port : Nat) (scheme : CStr) :
    (UriReader.routeText host port scheme).length =
      host.length + (Nat.repr port).toList.length + scheme.length + 19 := by
  have hsip : "sip:".toList.length = 4 := by decide
  have htransport : ";transport=".toList.length = 11 := by decide
  have hlr : ";lr".toList.length = 3 := by decide
  rw [routeText_eq, List.length_append, List.length_append, List.length_append, List.length_append, List.length_append,
    List.length_cons, hsip, htransport, hlr]
  omega

theorem length_text_lt : (UriReader.routeText (wsHostText f.host) f.port (wsScheme f.transport)).length < 352 := by
  have hhost := f.length_hostText_le
  have hscheme := length_wsScheme_le f.transport
  have hport := f.port_wf.2
  have hdigits : (Nat.repr f.port).toList.length ≤ 5 := by
    rw [String.length_toList]
    exact (Nat.length_repr_le_iff (by decide)).mpr (by omega)
  rw [length_routeText]
  omega

/-- The origin the account built is taken apart again, and libre reads what is made of it. -/
theorem routeRebuild_origin (hreads : reader.ReadsFlows) : reader.routeRebuild f.origin = some f.route := by
  have hport : ':' ∉ (Nat.repr f.port).toList := notMem_repr (by decide) f.port
  have hnumber : strtoul (Nat.repr f.port).toList % 2 ^ 32 = f.port := by
    rw [strtoul_repr (f.port_wf.2.trans (by decide)), Nat.mod_eq_of_lt (f.port_wf.2.trans (by decide))]
  unfold UriReader.routeRebuild
  rw [routeScheme_origin]
  simp only [upToLast_append hport, pastLast_append hport, hnumber]
  rw [if_neg (by simp [f.hostText_ne_nil]), if_neg (by have := f.length_hostText_le; omega),
    if_neg f.port_wf.1.ne', if_neg (not_le.mpr f.length_text_lt)]
  exact hreads.decode f

theorem origin_ne_nil : f.origin ≠ [] := by
  rw [origin, wsOrigin_eq]
  unfold wsScheme
  split <;> exact List.cons_ne_nil _ _

theorem origin_ne_host (f f' : WsFlow) : f.host ≠ f'.origin := by
  intro heq
  have hslash : '/' ∈ f'.origin := by
    rw [origin, wsOrigin_eq]
    simp
  exact notMem_host (by decide) (by decide) (heq ▸ hslash)

theorem map_toLower_scheme : (wsScheme f.transport).map Char.toLower = wsScheme f.transport := by
  unfold wsScheme
  split <;> decide

theorem isNamedBy_route (hreads : reader.ReadsFlows) : f.IsNamedBy reader f.route where
  host := rfl
  port := rfl
  transport := by
    rw [show f.route.params = f.params from rfl, hreads.transportParam, Option.map_some, map_toLower_scheme]

end WsFlow

/-! ### The pins -/

/-- Every server in the table is that of a flow, and so is the pin. -/
structure WsRegistry.OfFlows (r : WsRegistry) : Prop where
  entries : ∀ e ∈ r.entries, ∃ f : WsFlow, f.origin = e.origin
  pin : r.server ≠ [] → ∃ f : WsFlow, f.origin = r.server

namespace WsRegistry

variable {r : WsRegistry} {k : WsServer}

theorem ofFlows_recompute (h : ∀ e ∈ r.entries, ∃ f : WsFlow, f.origin = e.origin) :
    r.recompute.OfFlows := by
  refine ⟨h, fun hpin => ?_⟩
  simp only [recompute] at hpin ⊢
  split at hpin
  · exact absurd rfl hpin
  · rename_i hoverflow
    rw [if_neg hoverflow]
    have hagreed : r.agreed WsServer.origin ≠ [] := fun hnone => hpin (by rw [hnone]; rfl)
    obtain ⟨e, he, heq⟩ := exists_agreed hagreed
    obtain ⟨f, hf⟩ := h e he
    refine ⟨f, ?_⟩
    rw [← heq, ← hf, strNcpy_of_length_lt f.length_origin_lt]

theorem OfFlows.claim (h : r.OfFlows) (hk : ∃ f : WsFlow, f.origin = k.origin) : (r.claim k).OfFlows := by
  obtain ⟨r', heq, -, hmem⟩ := r.exists_claim k
  rw [heq]
  refine ofFlows_recompute fun e he => ?_
  rcases hmem e he with hold | rfl
  · exact h.entries e hold
  · obtain ⟨f, hf⟩ := hk
    exact ⟨f, by rw [← hf, strNcpy_of_length_lt f.length_origin_lt]⟩

theorem OfFlows.unclaim (h : r.OfFlows) : (r.unclaim k).OfFlows := by
  obtain heq | ⟨r', heq, -, hmem⟩ := r.exists_unclaim k
  · rw [heq]
    exact h
  · rw [heq]
    exact ofFlows_recompute fun e he => h.entries e (hmem e he)

theorem ofFlows_zero : zero.OfFlows := by
  refine ⟨fun e he => ?_, fun hpin => absurd rfl hpin⟩
  have hnone : zero.entries = [] := by decide
  rw [hnone] at he
  cases he

end WsRegistry

/-! ### Runs -/

/-- An account that is created with a server has one a SIP URI can name. -/
def WsAct.namesSipHost : WsAct → Bool
  | .create id transport host port path =>
      let a := WsAccount.create id transport host port path
      !a.hasServer || isSipHost a.wsHost
  | .destroy _ => true

def WsRouteAct.namesSipHost : WsRouteAct → Bool
  | .pins act => act.namesSipHost
  | .route _ => true

theorem ofFlows_handle {s : WsSys} {act : WsAct} (h : s.registry.OfFlows) (hen : s.enabled act = true)
    (hhost : act.namesSipHost = true) : (s.handle act).registry.OfFlows := by
  have hturn := s.turn_handle act
  generalize s.handle act = s' at hturn ⊢
  cases hturn with
  | created ha hserver => exact h
  | @claimed id transport host port path a ha hserver =>
      have htransport : a.parsedTransport.isWebSocket = true := by
        rw [← ha]
        exact (Bool.and_eq_true_iff.mp hen).1
      simp only [WsAct.namesSipHost, ha, hserver, Bool.not_true, Bool.false_or] at hhost
      have hport : 0 < a.wsPort := Nat.pos_of_ne_zero fun hzero => a.hasServer_eq_true.mp hserver (.inr hzero)
      exact h.claim ⟨⟨a.parsedTransport, a.wsHost, a.wsPort, htransport, hhost, hport, a.port_fits⟩, rfl⟩
  | unknown => exact h
  | destroyed ha hserver => exact h
  | unclaimed ha hserver => exact h.unclaim

/-- The pins are of flows, and so is the substitute. -/
structure WsRouteSys.Flowing (s : WsRouteSys) : Prop where
  registry : s.ws.registry.OfFlows
  route : ∀ u, s.route = some u → ∃ f : WsFlow, u = f.route

namespace WsRouteSys

variable {reader : UriReader} {s s' : WsRouteSys} {act : WsRouteAct} {os : List (Option RouteUri)}

/-- What is left of an earlier substitute never has the pin for its host: it is built anew. -/
theorem Flowing.refresh (h : s.Flowing) (hreads : reader.ReadsFlows) {f : WsFlow} (hf : f.origin = s.pin) :
    s.refresh reader = { s with route := some f.route } := by
  have hnot : ¬s.route.any (fun u => decide (u.host = s.pin)) = true := by
    intro hkept
    obtain ⟨u, hu, hsame⟩ := (Option.any_eq_true _ _).mp hkept
    obtain ⟨f', rfl⟩ := h.route u hu
    exact WsFlow.origin_ne_host f' f ((of_decide_eq_true hsame).trans hf.symm)
  rw [WsRouteSys.refresh, if_neg hnot, ← hf, WsFlow.routeRebuild_origin hreads]

theorem override_unpinned {route : Option RouteUri}
    (h : s.pin = [] ∨ reader.routeIsWebsocket route = false) : s.override reader route = (route, s) := by
  cases route with
  | none => rfl
  | some u => exact if_pos h

/-- The flow, unless it is what the route has for host and port already. -/
theorem Flowing.override (h : s.Flowing) (hreads : reader.ReadsFlows) {f : WsFlow} (hf : f.origin = s.pin)
    {u : RouteUri} (hws : reader.routeIsWebsocket (some u) = true) :
    s.override reader (some u) =
      (some (if u.host = f.host ∧ u.port = f.port then u else f.route),
        { s with route := some f.route }) := by
  have hpinned : ¬(s.pin = [] ∨ reader.routeIsWebsocket (some u) = false) := by
    rw [← hf, hws]
    simp [WsFlow.origin_ne_nil]
  simp only [WsRouteSys.override, if_neg hpinned, h.refresh hreads hf]
  by_cases hsame : u.host = f.host ∧ u.port = f.port
  · rw [if_pos hsame]
    exact if_pos hsame
  · rw [if_neg hsame]
    exact if_neg hsame

theorem Flowing.step (h : s.Flowing) (hreads : reader.ReadsFlows) (hhost : act.namesSipHost = true)
    (hstep : (wsRouteSystem reader).step s act = some (s', os)) : s'.Flowing := by
  cases act with
  | pins act =>
      obtain ⟨⟨ws, us⟩, hws, heq⟩ := Option.map_eq_some_iff.mp hstep
      obtain ⟨hen, hws⟩ := Option.ite_none_right_eq_some.mp hws
      cases hws
      cases heq
      exact ⟨ofFlows_handle h.registry hen hhost, h.route⟩
  | route route =>
      cases hstep
      by_cases hplain : s.pin = [] ∨ reader.routeIsWebsocket route = false
      · rw [override_unpinned hplain]
        exact h
      · rw [not_or] at hplain
        obtain ⟨f, hf⟩ := h.registry.pin hplain.1
        cases route with
        | none => exact h
        | some u =>
            rw [h.override hreads hf (by simpa using hplain.2)]
            refine ⟨h.registry, fun v hv => ⟨f, (Option.some.inj hv).symm⟩⟩

end WsRouteSys

/-- **In-dialog routes follow the flow.** After every run in which the accounts' servers have hosts that a SIP
URI can name: without a pin, or with another transport, a route is returned unchanged; otherwise the pin is the
origin of a flow, and the route returned names that flow just when a route that has its host and port already
has its transport too. -/
theorem ws_route_names_pin_iff (reader : UriReader) (hreads : reader.ReadsFlows) {s : WsRouteSys}
    {t : Trace WsRouteAct (Option RouteUri)}
    (hrun : (wsRouteSystem reader).Run (fun _ act => act.namesSipHost = true) s t) :
    (∀ route, s.pin = [] ∨ reader.routeIsWebsocket route = false → (s.override reader route).1 = route) ∧
    (s.pin ≠ [] → ∃ f : WsFlow, f.origin = s.pin) ∧
    ∀ f : WsFlow, f.origin = s.pin → ∀ u, reader.routeIsWebsocket (some u) = true →
      ((∃ v, (s.override reader (some u)).1 = some v ∧ f.IsNamedBy reader v) ↔
        (u.host = f.host ∧ u.port = f.port → f.IsNamedBy reader u)) := by
  have hflowing : s.Flowing := by
    refine hrun.stateInvariant ?_ fun s act s' os h hhost hstep => h.step hreads hhost hstep
    rintro ⟨ws, route⟩ ⟨rfl, rfl⟩
    exact ⟨WsRegistry.ofFlows_zero, fun u hu => by cases hu⟩
  refine ⟨fun route hplain => by rw [WsRouteSys.override_unpinned hplain], hflowing.registry.pin, ?_⟩
  intro f hf u hws
  rw [hflowing.override hreads hf hws]
  by_cases hsame : u.host = f.host ∧ u.port = f.port
  · rw [if_pos hsame]
    constructor
    · rintro ⟨v, hv, hnamed⟩ -
      exact Option.some.inj hv ▸ hnamed
    · intro hnamed
      exact ⟨u, rfl, hnamed hsame⟩
  · rw [if_neg hsame]
    constructor
    · intro _ hsame'
      exact absurd hsame' hsame
    · intro _
      exact ⟨f.route, rfl, f.isNamedBy_route hreads⟩

/-! ### A reader -/

/-- What libre reads of a plain SIP URI: the host, an address out of its brackets, the port, and the parameters
from the first ';' on. -/
def plainDecode (s : CStr) : Option RouteUri :=
  if !startsWithCase "sip:".toList s then none
  else
    let hostport := upTo ';' (s.drop 4)
    let params := (s.drop 4).drop hostport.length
    match hostport with
    | '[' :: inner => some { host := upTo ']' inner, port := strtoul16 ((past ']' inner).drop 1), params }
    | _ => some { host := upTo ':' hostport, port := strtoul16 (past ':' hostport), params }

/-- A parameter's value ends at the next one. -/
def plainReader : UriReader where
  decode := plainDecode
  transportParam params := (strstr ";transport=".toList params).map (upTo ';')

theorem plainReader_reads : plainReader.ReadsFlows where
  decode f := by
    have htext : UriReader.routeText (wsHostText f.host) f.port (wsScheme f.transport) =
        "sip:".toList ++ ((wsHostText f.host ++ ':' :: (Nat.repr f.port).toList) ++
          ';' :: ("transport=".toList ++ wsScheme f.transport ++ ";lr".toList)) := by
      rw [WsFlow.routeText_eq]
      simp only [List.append_assoc]
      rfl
    have hparams : ';' :: ("transport=".toList ++ wsScheme f.transport ++ ";lr".toList) = f.params := rfl
    have hdrop (rest : CStr) : ("sip:".toList ++ rest).drop 4 = rest := rfl
    have hdigits : ';' ∉ (Nat.repr f.port).toList := notMem_repr (by decide) f.port
    have hnumber := strtoul16_repr f.port_wf.2
    have hsemi : ';' ∉ f.host := WsFlow.notMem_host (by decide) (by decide)
    simp only [plainReader, plainDecode]
    rw [htext, startsWithCase_append (by decide), hdrop]
    unfold wsHostText
    generalize (Nat.repr f.port).toList = digits at hdigits hnumber ⊢
    by_cases haddr : ':' ∈ f.host
    · have hclose : ']' ∉ f.host := WsFlow.notMem_host (by decide) (by decide)
      have hcut : ';' ∉ '[' :: f.host ++ [']'] ++ ':' :: digits := by simp [hsemi, hdigits]
      rw [if_pos haddr, upTo_append hcut, List.drop_left, hparams]
      have hinner : f.host ++ [']'] ++ ':' :: digits = f.host ++ ']' :: ':' :: digits :=
        List.append_assoc _ _ _
      simp only [Bool.not_true, Bool.false_eq_true, if_false, List.cons_append, hinner, upTo_append hclose,
        past_append hclose, List.drop_succ_cons, List.drop_zero, hnumber]
      rfl
    · have hopen : '[' ∉ f.host := WsFlow.notMem_host (by decide) (by decide)
      have hcut : ';' ∉ f.host ++ ':' :: digits := by simp [hsemi, hdigits]
      rw [if_neg haddr, upTo_append hcut, List.drop_left, hparams]
      simp only [Bool.not_true, Bool.false_eq_true, if_false]
      split
      · rename_i inner heq
        cases hhost : f.host with
        | nil => exact absurd hhost f.host_ne_nil
        | cons c cs =>
            rw [hhost, List.cons_append] at heq
            exact absurd ((List.cons.inj heq).1 ▸ hhost ▸ List.mem_cons_self) hopen
      · rw [upTo_append haddr, past_append haddr, hnumber]
        rfl
  transportParam f := by
    unfold WsFlow.params wsScheme
    split <;> rfl

/-! ### The other transport -/

/-- The server of the tests. -/
def pbxFlow : WsFlow where
  transport := .wss
  host := "pbx.example.com".toList
  port := 443
  transport_wf := rfl
  host_wf := by decide
  port_wf := by decide

def pinPbx : List WsRouteAct := [.pins (.create 1 .wss "pbx.example.com".toList 443 "/ws".toList)]

/-- The Contact of a PBX that names itself. -/
def echoRoute : RouteUri := { host := "echo".toList, port := 5060, params := ";transport=ws".toList }

theorem ws_route_names_pin_echo :
    ∃ s : WsRouteSys, pbxFlow.origin = s.pin ∧
      ∃ v, (s.override plainReader (some echoRoute)).1 = some v ∧ pbxFlow.IsNamedBy plainReader v := by
  obtain ⟨s, t, hrun, hpin⟩ := Machine.exists_run_of_exec (M := wsRouteSystem plainReader)
    (fun _ act => act.namesSipHost) (s := { ws := { live := [], registry := .zero }, route := none })
    ⟨rfl, rfl⟩ pinPbx (fun s _ => decide (s.pin = pbxFlow.origin)) (by decide +kernel)
  have hpin : pbxFlow.origin = s.pin := (of_decide_eq_true hpin).symm
  obtain ⟨-, -, hnames⟩ := ws_route_names_pin_iff plainReader plainReader_reads hrun
  refine ⟨s, hpin, (hnames pbxFlow hpin echoRoute (by decide)).mpr ?_⟩
  rintro ⟨hhost, -⟩
  exact absurd hhost (by decide)

/-- A route to the pinned host and port over plain `ws` is left as it is, though the pin is `wss`. -/
theorem ws_route_keeps_transport :
    ¬∀ (reader : UriReader), reader.ReadsFlows → ∀ (s : WsRouteSys) (t : Trace WsRouteAct (Option RouteUri)),
      (wsRouteSystem reader).Run (fun _ act => act.namesSipHost = true) s t →
      ∀ f : WsFlow, f.origin = s.pin → ∀ u, reader.routeIsWebsocket (some u) = true →
        ∃ v, (s.override reader (some u)).1 = some v ∧ f.IsNamedBy reader v := by
  intro hall
  let plain : RouteUri := { pbxFlow.route with params := ";transport=ws".toList }
  obtain ⟨s, t, hrun, hend⟩ := Machine.exists_run_of_exec (M := wsRouteSystem plainReader)
    (fun _ act => act.namesSipHost) (s := { ws := { live := [], registry := .zero }, route := none })
    ⟨rfl, rfl⟩ pinPbx
    (fun s _ => decide (s.pin = pbxFlow.origin) &&
      decide ((s.override plainReader (some plain)).1 = some plain)) (by decide +kernel)
  simp only [Bool.and_eq_true, decide_eq_true_eq] at hend
  obtain ⟨v, hv, hnamed⟩ := hall plainReader plainReader_reads s t hrun pbxFlow hend.1.symm plain (by decide)
  rw [hend.2] at hv
  obtain rfl := Option.some.inj hv
  have htransport := hnamed.transport
  revert htransport
  decide

end VoxSdk
