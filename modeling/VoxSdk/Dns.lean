import VoxSdk.Config
import VoxSdk.Lib.Machine
import VoxSdk.Lib.StableSort
import Mathlib.Data.Prod.Lex
import Mathlib.Order.OrderDual

/-!
# Locating a SIP server

`dns.c`: the NAPTR query, the SRV queries its answer leads to, and the list of targets handed to the
caller when the last of them has been answered. The DNS client answers a query it has accepted once, and
not from inside `dnsc_query`.
-/

namespace VoxSdk

open Reactive

/-- `MAX_TARGETS`. -/
def maxTargets : Nat := 16

/-- `MAX_SRV`. -/
def maxSrv : Nat := 8

/-- `struct vox_dns_target`. -/
structure DnsTarget where
  transport : Transport
  host : CStr
  port : Nat
  priority : Nat
  weight : Nat
  deriving DecidableEq

/-- What `sort_targets` compares: a lower priority value first, then a higher weight. -/
def DnsTarget.rank (t : DnsTarget) : Nat ×ₗ Natᵒᵈ := toLex (t.priority, OrderDual.toDual t.weight)

theorem DnsTarget.rank_le_iff {t t' : DnsTarget} :
    t.rank ≤ t'.rank ↔ t.priority < t'.priority ∨ t.priority = t'.priority ∧ t'.weight ≤ t.weight := by
  unfold DnsTarget.rank
  rw [Prod.Lex.toLex_le_toLex, OrderDual.toDual_le_toDual]

/-- `sort_targets`. -/
def sortTargets (targets : List DnsTarget) : List DnsTarget := stableSort DnsTarget.rank targets

/-- The loop test of `sort_targets`: the target `t` makes way for `tmp`. -/
def DnsTarget.movesFor (t tmp : DnsTarget) : Bool :=
  decide (t.priority > tmp.priority) || (decide (t.priority = tmp.priority) && decide (t.weight < tmp.weight))

/-- `sort_targets` in the array it works on: `slots` are the slots of `res->targets`, and the first `count`
are in use. -/
def sortTargetsInPlace (count : Nat) (slots : List DnsTarget) : Option (List DnsTarget) :=
  sortSlots DnsTarget.movesFor 1 (count - 1) slots

/-- `struct vox_dns_result`: `err` says whether it is ENOENT. -/
structure DnsResult where
  targets : List DnsTarget
  err : Bool
  deriving DecidableEq

/-- `struct srv_slot`. -/
structure SrvSlot where
  name : CStr
  transport : Transport

/-- `struct dns_lookup`, as long as it is not freed. The caller's handler is the same throughout. -/
structure DnsLookup where
  domain : CStr
  transportHint : Transport
  portHint : Nat
  pending : Int
  done : Bool
  result : DnsResult
  srv : List SrvSlot

/-- A record of an answer; `naptr` with the fields the handler reads, any of which may be missing. -/
inductive DnsRr where
  | naptr (flags services : Option CStr) (replace : CStr)
  | srv (target : CStr) (port pri weight : Nat)
  | other

/-- What a query is answered with: an error, or the answer section of the response. -/
structure DnsAnswer where
  err : Bool
  ansl : Option (List DnsRr)

/-- The records a handler looks at. -/
def DnsAnswer.records (ans : DnsAnswer) : List DnsRr := if ans.err then [] else ans.ansl.getD []

/-- A query the DNS client has accepted; the SRV queries are told apart by their slot, and carry
`struct srv_ctx`. -/
inductive DnsQuery where
  | naptr
  | srv (slot : Nat) (transport : Transport)
  deriving DecidableEq

/-- What becomes of an attempt to send a query. -/
inductive DnsLaunch where
  | noMemory
  | refused
  | launched
  deriving DecidableEq

inductive DnsOut where
  | query (q : DnsQuery) (name : CStr)
  | done (res : DnsResult)
  | returned (ok : Bool)
  | useAfterFree
  deriving DecidableEq

/-- `str_casecmp` says equal. -/
def strCaseEq (s : CStr) (t : String) : Bool := decide (s.map Char.toLower = t.toList.map Char.toLower)

/-- `transport_from_naptr_service`. -/
def transportFromNaptrService (svc : Option CStr) : Option Transport :=
  match svc with
  | none => none
  | some svc =>
      if strCaseEq svc "SIPS+D2T" then some .tls
      else if strCaseEq svc "SIP+D2T" then some .tcp
      else if strCaseEq svc "SIP+D2U" then some .udp
      else if strCaseEq svc "SIPS+D2W" then some .wss
      else if strCaseEq svc "SIP+D2W" then some .ws
      else none

/-- `default_port_for_transport`. -/
def defaultPortForTransport : Transport → Nat
  | .tls => 5061
  | .ws => 80
  | .wss => 443
  | _ => 5060

/-- `srv_prefix_for_transport`. -/
def srvPrefixForTransport : Transport → CStr
  | .tls => "_sips._tcp.".toList
  | .tcp => "_sip._tcp.".toList
  | .ws => "_sip._tcp.".toList
  | .wss => "_sips._tcp.".toList
  | .udp => "_sip._udp.".toList

namespace DnsLookup

/-- `add_result`. -/
def addResult (t : DnsTarget) (lk : DnsLookup) : DnsLookup :=
  if maxTargets ≤ lk.result.targets.length then lk
  else
    { lk with
      result := { lk.result with targets := lk.result.targets ++ [{ t with host := strNcpy 256 t.host }] } }

/-- `lookup_finish`: the lookup, unless it is freed, and the call of the caller's handler. -/
def finish (lk : DnsLookup) : Option DnsLookup × List DnsOut :=
  if lk.done then (some lk, [])
  else if lk.result.targets = [] then (none, [.done { lk.result with err := true }])
  else (none, [.done { lk.result with targets := sortTargets lk.result.targets }])

/-- The target of a domain that is used as it is. -/
def bareTarget (transport : Transport) (host : CStr) (port : Nat) : DnsTarget :=
  { transport, host, port, priority := 0, weight := 0 }

/-- The SRV records of an answer that name a server. -/
def srvTargets (transport : Transport) (ans : DnsAnswer) : List DnsTarget :=
  ans.records.filterMap fun rr =>
    match rr with
    | .srv target port pri weight =>
        if target = ".".toList then none
        else some { transport, host := target, port, priority := pri, weight }
    | _ => none

/-- What `srv_handler` adds: the servers found, or the domain itself. -/
def srvAdds (domain : CStr) (transport : Transport) (ans : DnsAnswer) : List DnsTarget :=
  match srvTargets transport ans with
  | [] => [bareTarget transport domain (defaultPortForTransport transport)]
  | targets => targets

/-- `srv_handler`. -/
def srvHandler (transport : Transport) (ans : DnsAnswer) (lk : DnsLookup) :
    Option DnsLookup × List DnsOut :=
  let lk := (srvAdds lk.domain transport ans).foldl (fun lk t => lk.addResult t) lk
  let lk := { lk with pending := lk.pending - 1 }
  if lk.pending = 0 then lk.finish else (some lk, [])

/-- The NAPTR records that point to an SRV name of a transport we know. -/
def naptrSlots (ans : DnsAnswer) : List SrvSlot :=
  ans.records.filterMap fun rr =>
    match rr with
    | .naptr (some flags) services replace =>
        if strCaseEq flags "S" then
          (transportFromNaptrService services).map fun transport =>
            { name := strNcpy 256 replace, transport }
        else none
    | _ => none

/-- The slot used when no record does: the well-known name of the transport wanted. -/
def fallbackSlot (lk : DnsLookup) : SrvSlot :=
  { name := strNcpy 256 (srvPrefixForTransport lk.transportHint ++ lk.domain)
    transport := lk.transportHint }

/-- The port of a domain that is used as it is. -/
def barePort (lk : DnsLookup) : Nat :=
  if lk.portHint = 0 then defaultPortForTransport lk.transportHint else lk.portHint

/-- The queries `start_srv_queries` gets accepted, from slot `i` on. -/
def launchedFrom (launch : Nat → DnsLaunch) : Nat → List SrvSlot → List (DnsQuery × CStr)
  | _, [] => []
  | i, slot :: slots =>
      match launch i with
      | .launched => (.srv i slot.transport, slot.name) :: launchedFrom launch (i + 1) slots
      | _ => launchedFrom launch (i + 1) slots

/-- `start_srv_queries`: every query accepted counts as pending; with none at all the domain itself is
the target. -/
def startSrvQueries (launch : Nat → DnsLaunch) (lk : DnsLookup) :
    Option DnsLookup × List DnsQuery × List DnsOut :=
  let launched := launchedFrom launch 0 lk.srv
  let lk := { lk with pending := lk.pending + launched.length }
  let queries := launched.map fun p => DnsOut.query p.1 p.2
  if launched = [] then
    let lk := lk.addResult (bareTarget lk.transportHint lk.domain lk.barePort)
    if lk.pending = 0 then
      let (rest, outs) := lk.finish
      (rest, [], outs)
    else (some lk, [], [])
  else (some lk, launched.map Prod.fst, queries)

/-- `naptr_handler`. -/
def naptrHandler (ans : DnsAnswer) (launch : Nat → DnsLaunch) (lk : DnsLookup) :
    Option DnsLookup × List DnsQuery × List DnsOut :=
  let room := maxSrv - lk.srv.length
  let found := (naptrSlots ans).take room
  let lk :=
    if found ≠ [] then { lk with srv := lk.srv ++ found }
    else if lk.srv.length < maxSrv then { lk with srv := lk.srv ++ [lk.fallbackSlot] }
    else lk
  let lk := { lk with pending := lk.pending - 1 }
  lk.startSrvQueries launch

end DnsLookup

/-- One call of `vox_dns_resolve` and what follows from it: the lookup as long as there is one, and the
queries that wait for an answer. -/
structure DnsSys where
  called : Bool
  lookup : Option DnsLookup
  inFlight : List DnsQuery

inductive DnsAct where
  | resolve (domain : Option CStr) (hasHandler dnsc mem : Bool) (transportHint : Transport)
      (portHint : Nat) (launch : DnsLaunch)
  | answer (q : DnsQuery) (ans : DnsAnswer) (launch : Nat → DnsLaunch)

namespace DnsSys

def idle : DnsSys := { called := false, lookup := none, inFlight := [] }

/-- `vox_dns_resolve`. -/
def resolve (domain : Option CStr) (hasHandler dnsc mem : Bool) (transportHint : Transport)
    (portHint : Nat) (launch : DnsLaunch) : DnsSys × List DnsOut :=
  let ended : DnsSys := { called := true, lookup := none, inFlight := [] }
  match domain with
  | none => (ended, [.returned false])
  | some domain =>
      if !hasHandler then (ended, [.returned false])
      else if !dnsc then (ended, [.returned false])
      else if !mem then (ended, [.returned false])
      else
        let lk : DnsLookup :=
          { domain := strNcpy 256 domain
            transportHint
            portHint
            pending := 0
            done := false
            result := { targets := [], err := false }
            srv := [] }
        if 0 < portHint then
          let lk := lk.addResult (DnsLookup.bareTarget transportHint domain portHint)
          (ended, [.done { lk.result with err := false }, .returned true])
        else
          let lk := { lk with pending := lk.pending + 1 }
          if launch = .launched then
            ({ called := true, lookup := some lk, inFlight := [.naptr] },
              [.query .naptr domain, .returned true])
          else (ended, [.returned false])

/-- The handler of a query that is answered. -/
def answer (q : DnsQuery) (ans : DnsAnswer) (launch : Nat → DnsLaunch) (s : DnsSys) :
    DnsSys × List DnsOut :=
  let waiting := s.inFlight.erase q
  match s.lookup with
  | none => ({ s with inFlight := waiting }, [.useAfterFree])
  | some lk =>
      match q with
      | .naptr =>
          let (lookup, queries, outs) := lk.naptrHandler ans launch
          ({ s with lookup, inFlight := waiting ++ queries }, outs)
      | .srv _ transport =>
          let (lookup, outs) := lk.srvHandler transport ans
          ({ s with lookup, inFlight := waiting }, outs)

end DnsSys

/-- The runs of one lookup: the call, and then the answers in any order. -/
def dnsSystem : Machine DnsSys DnsAct DnsOut where
  init s := s = DnsSys.idle
  step s act :=
    match act with
    | .resolve domain hasHandler dnsc mem transportHint portHint launch =>
        if s.called then none
        else some (DnsSys.resolve domain hasHandler dnsc mem transportHint portHint launch)
    | .answer q ans launch => if q ∈ s.inFlight then some (s.answer q ans launch) else none

end VoxSdk
