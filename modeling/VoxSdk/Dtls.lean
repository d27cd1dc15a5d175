import VoxSdk.Lib.Machine
import VoxSdk.Netmon

/-!
# The patched DTLS-SRTP media object

`cmake/patches/dtls_srtp-*.new`: the two components of one media, the role computed from the peer's
`setup` attribute, the deadline on a handshake, and the restart of the association when the deadline
passes or the role is reversed. What baresip's own `component_start` does is an outcome of each attempt;
it does nothing for a component that has its socket or is negotiated.
-/

namespace VoxSdk

open Reactive

/-- `VOXSDK_DTLS_HANDSHAKE_MS`. -/
def dtlsHandshakeMs : Nat := 1200

/-- `VOXSDK_DTLS_HANDSHAKE_LATER_MS`. -/
def dtlsHandshakeLaterMs : Nat := 2500

/-- `VOXSDK_DTLS_MAX_RESTARTS`. -/
def dtlsMaxRestarts : Nat := 4

/-- `enum setup`, of the peer's attribute. -/
inductive DtlsSetup where
  | active
  | passive
  | actpass
  | other
  deriving DecidableEq

/-- `struct comp`: `sock` says whether `dtls_sock` is there, and with it the association. -/
structure DtlsComp where
  sock : Bool
  negotiated : Bool
  deriving DecidableEq

/-- How an attempt of `component_start` ends: whether it fails, and whether a failed one leaves its socket
behind. -/
structure StartOutcome where
  err : Bool
  leavesSock : Bool
  deriving DecidableEq

/-- `component_start`: the component, and whether the attempt failed. -/
def DtlsComp.start (o : StartOutcome) (c : DtlsComp) : DtlsComp × Bool :=
  if c.negotiated || c.sock then (c, false)
  else if o.err then ({ c with sock := o.leavesSock }, true)
  else ({ c with sock := true }, false)

/-- `struct dtls_srtp`, with `offerer` of its session. -/
structure DtlsMedia where
  offerer : Bool
  rtp : DtlsComp
  rtcp : DtlsComp
  mux : Bool
  started : Bool
  active : Bool
  tmrHs : Timer
  raddrRtp : Option Sa
  raddrRtcp : Option Sa
  hsRestarts : Nat

/-- What an update finds: the peer's attribute, whether RTP and RTCP share a socket, whether the media is
active, where the peer is, and how the calls it makes end. -/
structure DtlsEnv where
  setup : Option DtlsSetup
  mux : Bool
  hasMedia : Bool
  raddrRtp : Option Sa
  raddrRtcp : Option Sa
  lattrOk : Bool
  rtpStart : StartOutcome
  rtcpStart : StartOutcome

inductive DtlsOut where
  | componentStart (rtp : Bool) (raddr : Option Sa) (client : Bool)
  | started
  | setLattr (active : Bool)
  | reset (negotiated : Bool)
  | restart (attempt : Nat)
  | gaveUp
  deriving DecidableEq

/-- Which component a handshake is on. -/
inductive DtlsCompId where
  | rtp
  | rtcp
  deriving DecidableEq

namespace DtlsMedia

/-- As `media_alloc` allocates it. -/
def alloc (offerer : Bool) : DtlsMedia :=
  { offerer
    rtp := { sock := false, negotiated := false }
    rtcp := { sock := false, negotiated := false }
    mux := false
    started := false
    active := false
    tmrHs := none
    raddrRtp := none
    raddrRtcp := none
    hsRestarts := 0 }

/-- `voxsdk_media_reset`, said with whether the association was negotiated. -/
def reset (st : DtlsMedia) : DtlsMedia × List DtlsOut :=
  ({ st with
      rtp := { sock := false, negotiated := false }
      rtcp := { sock := false, negotiated := false }
      started := false },
    [.reset st.rtp.negotiated])

/-- `voxsdk_handshake_ms`. -/
def handshakeMs (restarts : Nat) : Nat := if restarts = 0 then dtlsHandshakeMs else dtlsHandshakeLaterMs

/-- `media_start`: the media, and whether it failed. -/
def mediaStart (now : Nat) (env : DtlsEnv) (st : DtlsMedia) : DtlsMedia × List DtlsOut × Bool :=
  if st.started then (st, [], false)
  else if !env.hasMedia then (st, [], false)
  else
    let (rtp, err) := st.rtp.start env.rtpStart
    let (rtcp, err') := if st.mux then (st.rtcp, false) else st.rtcp.start env.rtcpStart
    let outs := .componentStart true env.raddrRtp st.active ::
      if st.mux then [] else [.componentStart false env.raddrRtcp st.active]
    if err || err' then ({ st with rtp, rtcp }, outs, true)
    else
      ({ st with
          rtp, rtcp
          started := true
          raddrRtp := if env.raddrRtp.isSome then env.raddrRtp else st.raddrRtp
          raddrRtcp := if env.raddrRtcp.isSome then env.raddrRtcp else st.raddrRtcp
          tmrHs := Timer.start now (handshakeMs st.hsRestarts) },
        outs ++ [.started], false)

/-- `voxsdk_handshake_deadline`. -/
def handshakeDeadline (now : Nat) (env : DtlsEnv) (st : DtlsMedia) : DtlsMedia × List DtlsOut :=
  if st.rtp.negotiated then (st, [])
  else if dtlsMaxRestarts ≤ st.hsRestarts then (st, [.gaveUp])
  else
    let st := { st with hsRestarts := st.hsRestarts + 1 }
    let st := if dtlsMaxRestarts ≤ st.hsRestarts ∧ !st.active then { st with active := true } else st
    let (st, outs) := st.reset
    let (st', outs', _) := st.mediaStart now
      { env with raddrRtp := st.raddrRtp, raddrRtcp := st.raddrRtcp }
    (st', .restart (st.hsRestarts + 1) :: outs ++ outs')

/-- The role the patched `media_alloc` takes for the peer's attribute. -/
def role (st : DtlsMedia) (rsetup : DtlsSetup) : Bool :=
  if st.offerer then decide (rsetup ≠ .active) else decide (rsetup = .passive)

/-- The `setup` part of `media_alloc`, which every offer and answer of the peer comes through. -/
def update (now : Nat) (env : DtlsEnv) (st : DtlsMedia) : DtlsMedia × List DtlsOut :=
  let st := { st with mux := env.mux }
  match env.setup with
  | none => (st, [])
  | some rsetup =>
      let active := st.role rsetup
      let said := if st.offerer then [] else [.setLattr active]
      if !st.offerer && !env.lattrOk then (st, said)
      else
        let (st, outs) := if st.started && active != st.active then st.reset else (st, [])
        let st := { st with active }
        let (st, outs', _) := st.mediaStart now env
        (st, said ++ outs ++ outs')

/-- The patched end of `dtls_estab_handler`. -/
def established (c : DtlsCompId) (st : DtlsMedia) : DtlsMedia :=
  match c with
  | .rtp => { st with rtp := { st.rtp with negotiated := true }, tmrHs := none }
  | .rtcp => { st with rtcp := { st.rtcp with negotiated := true }, tmrHs := none }

/-- A handshake on the component can end: it has an association, which is not negotiated yet. -/
def shakesHands (c : DtlsCompId) (st : DtlsMedia) : Bool :=
  match c with
  | .rtp => st.rtp.sock && !st.rtp.negotiated
  | .rtcp => st.rtcp.sock && !st.rtcp.negotiated

end DtlsMedia

/-- One media and the clock. -/
structure DtlsSys where
  now : Nat
  media : DtlsMedia

/-- What can happen to a media. `update` says which side made the offer the peer's description belongs
to: the peer, or we, and then this is its answer. -/
inductive DtlsAct where
  | update (peerOffers : Bool) (env : DtlsEnv)
  | deadline (env : DtlsEnv)
  | established (c : DtlsCompId)
  | elapse (ms : Nat)

/-- The runs of one media. -/
def dtlsSystem : Machine DtlsSys DtlsAct DtlsOut where
  init s := ∃ offerer, s.media = DtlsMedia.alloc offerer
  step s act :=
    match act with
    | .update _ env =>
        let (media, outs) := s.media.update s.now env
        some ({ s with media }, outs)
    | .deadline env =>
        if s.media.tmrHs.isDue s.now then
          let (media, outs) := ({ s.media with tmrHs := none }).handshakeDeadline s.now env
          some ({ s with media }, outs)
        else none
    | .established c =>
        if s.media.shakesHands c then some ({ s with media := s.media.established c }, []) else none
    | .elapse ms => some ({ s with now := s.now + ms }, [])

end VoxSdk
