import VoxSdk.Lib.Machine
import VoxSdk.Lib.Timer
import VoxSdk.Netmon

/-!
# The ICE shim

`ice_shim.c`: what stands between baresip and the ice module for one call. The shim bounds the gathering,
tells the peer about an address ICE settled on, and restarts ICE under a live call. What the SDP, the
media encryption and baresip answer while a handler runs is an `IceEnv`.
-/

namespace VoxSdk

open Reactive

/-- `VOX_ICE_RESTART_DEADLINE_MS`. -/
def iceRestartDeadlineMs : Nat := 3000

/-- `VOX_ICE_REOFFER_SECURE_DEADLINE_MS`. -/
def iceReofferSecureDeadlineMs : Nat := 12000

/-- `VOX_ICE_REOFFER_POLL_MS`. -/
def iceReofferPollMs : Nat := 50

/-- `VOX_ICE_MAX_REMOTE_RESTARTS`. -/
def iceMaxRemoteRestarts : Nat := 2

/-- A `struct sa` with its port. -/
structure SaPort where
  addr : Sa
  port : Nat
  deriving DecidableEq, Repr

/-- `sa_isset(sa, SA_ALL)`. -/
def SaPort.isSet (sa : SaPort) : Bool := sa.addr.isSet && decide (sa.port ≠ 0)

/-- `sa_cmp(l, r, SA_ALL)`: an unset address is not even equal to itself. -/
def SaPort.cmp (l r : SaPort) : Bool := decide (l.addr ≠ .unset) && decide (l = r)

/-- What the SDP says about one stream: its own address, and the peer's address, ice-ufrag and
fingerprint. -/
structure MediaSdp where
  laddr : Sa
  raddr : SaPort
  ufrag : CStr
  fingerprint : Bool

structure IceEnv where
  /-- The stream with the number, as its SDP now stands. -/
  sdp : Nat → MediaSdp
  /-- `sdp_session_laddr`. -/
  sessionLaddr : Sa
  /-- `stream_is_secure` for the call's streams. -/
  secure : List Bool
  /-- The call is still ringing. -/
  incoming : Bool
  /-- baresip gets as far as `call_modify`, which runs the update handler before it returns. -/
  modify : Bool
  /-- What allocating a session answers. -/
  sessh : Option Errno

/-- What the shim does: a restart under way, its end, and the calls into baresip and the ice
module. -/
inductive IceOut where
  | restart (laddr : Sa)
  | gatherOver
  | estab (failure : Bool)
  | connected (media : Nat) (raddr1 : SaPort) (raddr2 : Option SaPort)
  | update
  deriving DecidableEq, Repr

/-- `struct vox_ice_media`. -/
structure IceMedia where
  signalled : Sa
  selected : SaPort
  selectedRtcp : Option SaPort
  rsig : SaPort
  rufrag : CStr
  selSet : Bool
  held : Bool
  reasserted : Bool

/-- `struct vox_ice_sess`; `gone` once the call has closed under it. -/
structure IceSess where
  now : Nat
  tmr : Timer
  tmrReoffer : Timer
  reofferDue : Nat
  released : Bool
  reoffered : Bool
  restarting : Bool
  inEstab : Bool
  awaitAnswer : Bool
  tmrRrestart : Timer
  rrestarts : Nat
  primed : Bool
  medial : List IceMedia
  gone : Bool
  out : List IceOut

namespace IceMedia

/-- `ice_mediah`: the address the stream is about to be advertised on. -/
def create (env : IceEnv) (i : Nat) : IceMedia :=
  { signalled := if (env.sdp i).laddr.isSet then (env.sdp i).laddr else env.sessionLaddr
    selected := { addr := .unset, port := 0 }
    selectedRtcp := none
    rsig := { addr := .unset, port := 0 }
    rufrag := []
    selSet := false
    held := false
    reasserted := false }

/-- `rebase_signalled`, one stream. -/
def rebase (sdp : MediaSdp) (m : IceMedia) : IceMedia :=
  if sdp.laddr.isSet then { m with signalled := sdp.laddr } else m

/-- `remote_ufrag_sync`, one stream: the peer's credentials noted. -/
def syncUfrag (sdp : MediaSdp) (m : IceMedia) : IceMedia :=
  if sdp.ufrag = [] then m else { m with rufrag := sdp.ufrag }

/-- And whether they have changed since. -/
def ufragChanged (sdp : MediaSdp) (m : IceMedia) : Bool :=
  decide (sdp.ufrag ≠ []) && decide (m.rufrag ≠ []) && decide (m.rufrag ≠ sdp.ufrag)

/-- The pair ICE nominated is forgotten. -/
def forget (m : IceMedia) : IceMedia := { m with selSet := false }

/-- `vox_ice_restart`, one stream. -/
def restart (m : IceMedia) : IceMedia := { m with selSet := false, held := false, reasserted := false }

/-- `reassert_selected`, one stream. -/
def reassert (i : Nat) (sdp : MediaSdp) (m : IceMedia) : IceMedia × List IceOut :=
  if !m.selSet then (m, [])
  else
    let pair : IceOut := .connected i m.selected (m.selectedRtcp.filter SaPort.isSet)
    if m.held then ({ m with held := false }, [pair])
    -- a peer that signals another address has moved its media
    else if !sdp.raddr.cmp m.rsig then (m.forget, [])
    else ({ m with reasserted := true }, [pair])

/-- `ice_connected` remembers the pair ICE nominated. -/
def select (raddr1 : SaPort) (raddr2 : Option SaPort) (sdp : MediaSdp) (m : IceMedia) : IceMedia :=
  if raddr1.isSet then
    { m with selected := raddr1, selectedRtcp := raddr2, rsig := sdp.raddr, selSet := true }
  else m

/-- The peer was never told about the stream's address. -/
def neverSignalled (sdp : MediaSdp) (m : IceMedia) : Bool :=
  m.signalled.isSet && sdp.laddr.isSet && decide (sdp.laddr ≠ m.signalled)

end IceMedia

namespace IceSess

variable (g : Cfg) (env : IceEnv)

def emit (o : IceOut) (s : IceSess) : IceSess := { s with out := s.out ++ [o] }

/-- `sess_awaiting_secure`. -/
def awaitingSecure (s : IceSess) : Bool :=
  ((List.range s.medial.length).any fun i => (env.sdp i).fingerprint) && env.secure.any (!·)

/-- `rebase_signalled`. -/
def rebaseSignalled (s : IceSess) : IceSess :=
  { s with medial := s.medial.mapIdx fun i m => m.rebase (env.sdp i) }

/-- `remote_ufrag_sync`: the session, and whether the peer has restarted ICE. -/
def remoteUfragSync (s : IceSess) : Bool × IceSess :=
  ((s.medial.mapIdx fun i m => m.ufragChanged (env.sdp i)).any id,
    { s with medial := s.medial.mapIdx fun i m => m.syncUfrag (env.sdp i) })

/-- `reassert_selected`. -/
def reassertSelected (s : IceSess) : IceSess :=
  let rs := s.medial.mapIdx fun i m => m.reassert i (env.sdp i)
  { s with medial := rs.map Prod.fst, out := s.out ++ rs.flatMap Prod.snd }

/-- Every nominated pair is forgotten. -/
def forgetSelected (s : IceSess) : IceSess := { s with medial := s.medial.map IceMedia.forget }

/-- `ice_updateh`, when the peer has restarted ICE before the encryption is up. -/
def peerRestarted (s : IceSess) : IceSess :=
  let s := s.forgetSelected
  if s.restarting || s.tmrRrestart.isRunning then s
  else if s.rrestarts < iceMaxRemoteRestarts then
    { s with rrestarts := s.rrestarts + 1, tmrRrestart := Timer.start s.now 0 }
  else s

/-- `ice_updateh`, once the ice module has seen the update. -/
def updated (s : IceSess) : IceSess :=
  let (changed, s) := s.remoteUfragSync env
  if s.awaitAnswer && changed then ({ s with awaitAnswer := false }).forgetSelected
  else
    let s := { s with awaitAnswer := false }
    if changed && s.awaitingSecure env then s.peerRestarted else s.reassertSelected env

/-- `ice_updateh`. -/
def updateh (s : IceSess) : IceSess :=
  if s.inEstab && s.awaitAnswer then s.reassertSelected env
  else (s.emit .update).updated env

/-- `estab_release` with an offer to make. -/
def estabRelease (s : IceSess) : IceSess :=
  let s := ({ s with inEstab := true }).emit (.estab false)
  let s := if env.modify then s.updateh env else s
  { s with inEstab := false }

/-- `estab_release` with a failure, which closes the call. -/
def estabFail (s : IceSess) : IceSess := { s.emit (.estab true) with gone := true }

/-- `prime_conncheck`. -/
def primeConncheck (s : IceSess) : IceSess :=
  if s.primed || !env.incoming then s
  else if (List.range s.medial.length).all fun i => decide ((env.sdp i).ufrag = []) then s
  else ((({ s with primed := true }).emit .update).remoteUfragSync env).2

/-- The end of `ice_estab`: the offer goes out. -/
def offer (s : IceSess) : IceSess :=
  let s := { s.rebaseSignalled env with restarting := false, released := true }
  (s.estabRelease env).primeConncheck env

/-- `ice_estab`. A failure matters only while the first offer is still owed. -/
def estab (failure : Bool) (s : IceSess) : IceSess :=
  let s := ({ s with tmr := none }).emit .gatherOver
  if !failure then s.offer env
  else if s.released then { s with restarting := false }
  else if s.restarting then s.offer env
  else ({ s with released := true }).estabFail

/-- `gather_deadline`. -/
def gatherDeadline (s : IceSess) : IceSess :=
  if s.released then s
  else
    let s := { s.emit .gatherOver with restarting := false, released := true }
    s.estabRelease env

/-- `reoffer_release`. -/
def reofferRelease (s : IceSess) : IceSess := ({ s with tmrReoffer := none }).estabRelease env

/-- `reoffer_deadline`. -/
def reofferDeadline (s : IceSess) : IceSess :=
  if s.awaitingSecure env then
    if s.now < s.reofferDue then { s with tmrReoffer := Timer.start s.now iceReofferPollMs }
    else s
  else s.reofferRelease env

/-- `ice_connected` for a stream whose address the peer was never told. -/
def reofferCandidate (s : IceSess) : IceSess :=
  if s.reoffered then s
  else
    let s := { s with reoffered := true }
    if s.awaitingSecure env then
      { s with
        reofferDue := s.now + iceReofferSecureDeadlineMs
        tmrReoffer := Timer.start s.now iceReofferPollMs }
    else s.reofferRelease env

/-- `ice_connected`. -/
def connected (i : Nat) (raddr1 : SaPort) (raddr2 : Option SaPort) (s : IceSess) : IceSess :=
  match s.medial[i]? with
  | none => s
  | some m =>
      let m := m.select raddr1 raddr2 (env.sdp i)
      if env.incoming then { s with medial := s.medial.set i { m with held := m.held || m.selSet } }
      else
        let s := ({ s with medial := s.medial.set i m }).emit (.connected i raddr1 raddr2)
        if m.neverSignalled (env.sdp i) then s.reofferCandidate env else s

/-- `vox_ice_restart`; `laddr` is what the session address is set to, if it is set. The reoffer timer
is left as it is. -/
def restart (laddr : Sa) (s : IceSess) : Option Errno × IceSess :=
  if s.medial.isEmpty then (some .noent, s)
  else if s.restarting then (some .already, s)
  else
    match env.sessh with
    | some err => (some err, s)
    | none =>
        let deadline :=
          if g.iceGatheringTimeoutMs = 0 then iceRestartDeadlineMs else g.iceGatheringTimeoutMs
        (none,
          { s with
            released := false
            restarting := true
            reoffered := false
            awaitAnswer := true
            medial := s.medial.map IceMedia.restart
            tmr := Timer.start s.now deadline
            out := s.out ++ [.restart laddr] })

/-- `ice_sessh`. -/
def create (now : Nat) : IceSess :=
  { now
    tmr := if g.iceGatheringTimeoutMs = 0 then none else Timer.start now g.iceGatheringTimeoutMs
    tmrReoffer := none
    reofferDue := 0
    released := false
    reoffered := false
    restarting := false
    inEstab := false
    awaitAnswer := false
    tmrRrestart := none
    rrestarts := 0
    primed := false
    medial := []
    gone := false
    out := [] }

end IceSess

/-- What can happen to the session of one call. -/
inductive IceAct where
  | mediah (env : IceEnv)
  | estab (failure : Bool) (env : IceEnv)
  | gatherDeadline (env : IceEnv)
  | reofferDeadline (env : IceEnv)
  | connected (media : Nat) (raddr1 : SaPort) (raddr2 : Option SaPort) (env : IceEnv)
  | updateh (env : IceEnv)
  | restart (laddr : Sa) (env : IceEnv)
  | rrestart (env : IceEnv)
  | elapse (ms : Nat)

namespace IceSess

variable (g : Cfg)

/-- Whether an event can happen now. -/
def enabled (s : IceSess) : IceAct → Bool
  | .gatherDeadline _ => !s.gone && s.tmr.isDue s.now
  | .reofferDeadline _ => !s.gone && s.tmrReoffer.isDue s.now
  | .rrestart _ => !s.gone && s.tmrRrestart.isDue s.now
  | _ => !s.gone

/-- The handler of an event. A timer that fires is idle when its handler runs. -/
def handle (s : IceSess) : IceAct → IceSess
  | .mediah env => { s with medial := s.medial ++ [IceMedia.create env s.medial.length] }
  | .estab failure env => s.estab env failure
  | .gatherDeadline env => ({ s with tmr := none }).gatherDeadline env
  | .reofferDeadline env => ({ s with tmrReoffer := none }).reofferDeadline env
  | .connected media raddr1 raddr2 env => s.connected env media raddr1 raddr2
  | .updateh env => s.updateh env
  | .restart laddr env => (s.restart g env laddr).2
  | .rrestart env => (({ s with tmrRrestart := none }).restart g env .unset).2
  | .elapse ms => { s with now := s.now + ms }

/-- Nothing done yet. -/
def idle (s : IceSess) : IceSess := { s with out := [] }

end IceSess

/-- The runs of a call's session, from `ice_sessh` on. -/
def iceSystem (g : Cfg) : Machine IceSess IceAct IceOut where
  init s := ∃ now, s = IceSess.create g now
  step s act :=
    if s.enabled act then some (s.idle.handle g act, (s.idle.handle g act).out) else none

end VoxSdk
