import VoxSdk.Lib.Block
import VoxSdk.Outbound
import VoxSdk.Record
import VoxSdk.Stats
import VoxSdk.Transfer

/-!
# Queued events as memory

A queued event is one block: the event, whose strings are pointers, and 4096 bytes into which most producers
pack what these point to. In owned mode the application gets a copy of the block, in which `qev_clone` has
moved each pointer into the buffer from the old block to the new one (`event.c`; the producers are in
`log.c`, `account.c`, `event.c`, `trace.c`, `sdp.c`, `stats.c`, `message.c`, `presence.c`, `transfer.c` and
`netmon.c`).
-/

namespace VoxSdk

/-- `voxsdk_media_enc_t`. -/
inductive MediaEnc where
  | none
  | sdes
  | dtlsSrtp
  deriving DecidableEq, Repr

/-- `voxsdk_presence_status_t`. -/
inductive PresenceStatus where
  | unknown
  | open
  | closed
  | busy
  deriving DecidableEq, Repr

/-- What `parse_mwi_body` finds in a NOTIFY. -/
structure MwiCounts where
  messagesWaiting : Bool
  newVoice : UInt32
  oldVoice : UInt32
  newUrgent : UInt32
  oldUrgent : UInt32
  deriving DecidableEq

/-- `voxsdk_event_t`, where a string is a `σ`. That of a record of statistics is not in the record. -/
inductive Event (σ : Type) where
  | log (message : σ)
  | regState (account : Option Nat) (state : RegState) (error : VoxError) (retryAttempt retryDelayMs : Nat)
      (errorStr : σ)
  | incomingCall (account : Option Nat) (call : Nat) (fromUri displayName : σ)
  | callState (account call : Option Nat) (state : CallState) (error : VoxError) (reason : σ)
  | callDtmf (call : Option Nat) (digit : Char)
  | sdpNegotiation (call : Option Nat) (localSdp remoteSdp negotiatedCodec negotiatedCrypto : σ)
  | sipTrace (dir : MediaDir) (transport remoteAddr rawMessage : σ) (timestampUs : Nat)
  | mediaStats (call : Nat) (stats : MediaStats) (codecName : σ)
  | registrarWarning (message : σ)
  | transferRequest (account call : Option Nat) (referToUri : σ) (hasReplaces autoFollowed : Bool)
  | transferFailed (account call : Option Nat) (reason : σ)
  | mwi (account : Option Nat) (counts : MwiCounts) (rawBody : σ)
  | message (account : Option Nat) (fromUri body contentType : σ)
  | presenceState (account : Option Nat) (targetUri : σ) (status : PresenceStatus)
  | qualityAlert (call : Nat) (alert : QualityAlert)
  | network (event : NetEvent) (call account : Option Nat) (localAddr : σ) (attempt maxAttempts elapsedMs : Nat)
      (ice : Bool) (error : VoxError)

namespace Event

variable {σ τ : Type}

def map (f : σ → τ) : Event σ → Event τ
  | log text => log (f text)
  | regState account state error retryAttempt retryDelayMs errorStr =>
      regState account state error retryAttempt retryDelayMs (f errorStr)
  | incomingCall account call fromUri displayName => incomingCall account call (f fromUri) (f displayName)
  | callState account call state error reason => callState account call state error (f reason)
  | callDtmf call digit => callDtmf call digit
  | sdpNegotiation call localSdp remoteSdp negotiatedCodec negotiatedCrypto =>
      sdpNegotiation call (f localSdp) (f remoteSdp) (f negotiatedCodec) (f negotiatedCrypto)
  | sipTrace dir transport remoteAddr rawMessage timestampUs =>
      sipTrace dir (f transport) (f remoteAddr) (f rawMessage) timestampUs
  | mediaStats call stats codecName => mediaStats call stats (f codecName)
  | registrarWarning text => registrarWarning (f text)
  | transferRequest account call referToUri hasReplaces autoFollowed =>
      transferRequest account call (f referToUri) hasReplaces autoFollowed
  | transferFailed account call reason => transferFailed account call (f reason)
  | mwi account counts rawBody => mwi account counts (f rawBody)
  | message account fromUri body contentType => message account (f fromUri) (f body) (f contentType)
  | presenceState account targetUri status => presenceState account (f targetUri) status
  | qualityAlert call alert => qualityAlert call alert
  | network event call account localAddr attempt maxAttempts elapsedMs ice error =>
      network event call account (f localAddr) attempt maxAttempts elapsedMs ice error

def strings : Event σ → List σ
  | log text => [text]
  | regState _ _ _ _ _ errorStr => [errorStr]
  | incomingCall _ _ fromUri displayName => [fromUri, displayName]
  | callState _ _ _ _ reason => [reason]
  | callDtmf _ _ => []
  | sdpNegotiation _ localSdp remoteSdp negotiatedCodec negotiatedCrypto =>
      [localSdp, remoteSdp, negotiatedCodec, negotiatedCrypto]
  | sipTrace _ transport remoteAddr rawMessage _ => [transport, remoteAddr, rawMessage]
  | mediaStats _ _ codecName => [codecName]
  | registrarWarning text => [text]
  | transferRequest _ _ referToUri _ _ => [referToUri]
  | transferFailed _ _ reason => [reason]
  | mwi _ _ rawBody => [rawBody]
  | message _ fromUri body contentType => [fromUri, body, contentType]
  | presenceState _ targetUri _ => [targetUri]
  | qualityAlert _ _ => []
  | network _ _ _ localAddr _ _ _ _ _ => [localAddr]

/-- `ev->u.sdp.call` of an SDP event. -/
def sdpCall : Event σ → Option Nat
  | sdpNegotiation call _ _ _ _ => call
  | _ => none

end Event

/-! ### The block -/

/-- Where a `const char *` of an event leads: nowhere, into the buffer of a queued event, or to a text that is
kept in an account or a call wrapper. -/
inductive CharPtr where
  | null
  | buf (qev off : Nat)
  | regErrorStr (acct : Nat)
  | localSdp (call : Nat)
  | remoteSdp (call : Nat)
  deriving DecidableEq

/-- The byte that ends a text. -/
def nul : Char := Char.ofNat 0

/-- `sizeof(qev->buf)`. -/
def bufSize : Nat := 4096

/-- `struct voxsdk_queued_event`. -/
structure QueuedEvent where
  ev : Event CharPtr
  buf : List Char
  derefAfterDeliver : Option Nat

/-- A buffer as `mem_zalloc` leaves it. -/
def zeroed : List Char := List.replicate bufSize nul

/-- `str_ncpy(buf + off, text, sizeof(buf) - off)`, for an `off` that is not past the end: what does not fit is
cut, what is left over filled with NUL. -/
def strNcpyAt (off : Nat) (text : CStr) (buf : List Char) : List Char :=
  if bufSize - off = 0 then buf
  else Block.put off (text.takeD (bufSize - off - 1) nul ++ [nul]) buf

/-- `memcpy` of as much as fits, and a NUL behind it. -/
def memcpyAt (off : Nat) (data buf : List Char) : List Char :=
  Block.put off (data.take (bufSize - off - 1) ++ [nul]) buf

/-! ### Producers

Each makes the event that is in the block `o`. -/

namespace QueuedEvent

variable (o : Nat)

/-- An event whose one string, where there is one, is copied to the start of the buffer. -/
def withText (text : Option CStr) (ev : CharPtr → Event CharPtr) : QueuedEvent :=
  match text with
  | none => { ev := ev .null, buf := zeroed, derefAfterDeliver := none }
  | some text => { ev := ev (.buf o 0), buf := strNcpyAt 0 text zeroed, derefAfterDeliver := none }

/-- An event that is copied into the block as it is: `vox_event_post`. -/
def posted (ev : Event CharPtr) : QueuedEvent := { ev, buf := zeroed, derefAfterDeliver := none }

/-- `queue_log_event`. -/
def queueLogEvent (msg : CStr) (len : Nat) : QueuedEvent :=
  { ev := .log (.buf o 0)
    buf :=
      if 0 < len ∧ len < bufSize then Block.put 0 (msg.take len) zeroed
      else strNcpyAt 0 msg zeroed
    derefAfterDeliver := none }

/-- `post_registrar_warning`, of the formatted text. -/
def postRegistrarWarning (text : CStr) : QueuedEvent := withText o (some text) .registrarWarning

/-- A REG_STATE event, posted as it is or with a copy of its reason. -/
def regState (account : Option Nat) (ev : RegEvent) : QueuedEvent :=
  let stamped := Event.regState account ev.state ev.error ev.retryAttempt ev.retryDelayMs
  match ev.errorStr with
  | .null => posted (stamped .null)
  | .acct => posted (stamped ((account.map CharPtr.regErrorStr).getD .null))
  | .buf text => withText o (some text) stamped

/-- `bevent_handler`, BEVENT_CALL_INCOMING. -/
def incomingCall (account : Option Nat) (call : Nat) (peer : Option CStr) : QueuedEvent :=
  withText o peer fun fromUri => .incomingCall account call fromUri .null

/-- `bevent_handler`, the cases that report a state of the call. -/
def callState (account call : Option Nat) (state : CallState) : QueuedEvent :=
  posted (.callState account call state .ok .null)

def callDtmf (call : Option Nat) (digit : Char) : QueuedEvent := posted (.callDtmf call digit)

/-- `bevent_handler`, BEVENT_CALL_TRANSFER_FAILED. -/
def transferFailed (account call : Option Nat) (reason : Option CStr) : QueuedEvent :=
  withText o reason (.transferFailed account call)

/-- `vox_transfer_handle_event`. -/
def transferRequest (account call : Option Nat) (text : Option CStr) : QueuedEvent :=
  let tr := Transfers.report call text
  withText o text fun referToUri => .transferRequest account tr.call referToUri tr.hasReplaces tr.autoFollowed

/-- `vox_presence_handle_mwi`. -/
def handleMwi (account : Option Nat) (counts : MwiCounts) (body : Option CStr) : QueuedEvent :=
  withText o body (.mwi account counts)

/-- `contact_update_handler`. -/
def contactUpdate (uri : Option CStr) (status : PresenceStatus) : QueuedEvent :=
  withText o uri fun targetUri => .presenceState none targetUri status

/-- `collect_call_stats` and `vox_stats_collect_final`, of the record they have filled in. -/
def mediaStats (call : Nat) (s : MediaStats) : QueuedEvent :=
  withText o s.codecName (.mediaStats call { s with codecName := none })

/-- `vox_post_quality_alert`. -/
def qualityAlert (call : Nat) (a : QualityAlert) : QueuedEvent := posted (.qualityAlert call a)

/-- `netmon_emit`. -/
def netmonEmit (r : NetReport) : QueuedEvent :=
  withText o (some r.localAddr) fun localAddr =>
    .network r.event r.call r.account localAddr r.attempt r.maxAttempts r.elapsedMs r.ice r.error

end QueuedEvent

/-! ### BEVENT_CALL_CLOSED -/

/-- `codec_reason_is_really_menc`. -/
def codecReasonIsReallyMenc (reason : CStr) (acctMenc : Option MediaEnc) (globalMenc : MediaEnc) : Bool :=
  match acctMenc with
  | none => false
  | some enc =>
      if (strstr "common audio".toList reason).isNone && (strstr "common media".toList reason).isNone then false
      else decide ((if enc = .none then globalMenc else enc) = .none)

/-- Whether a reason without a SIP code ends in an errno, as in `Connection reset by peer [104]`. -/
def isTransportErr (reason : Option CStr) : Bool :=
  decide (sipReasonCode reason = 0) &&
    reason.any fun r => decide ('[' ∈ r) && decide (']' ∈ Text.pastLast '[' r)

/-- What is known of a call that closes: its account and the encryption that one asks for, the wrapper and
the state it is in, and what baresip says. -/
structure ClosedCall where
  account : Option (Nat × MediaEnc)
  call : Option (Nat × CallState)
  reason : Option CStr

namespace ClosedCall

variable (c : ClosedCall)

def peerHangup : Bool := isTransportErr c.reason && c.call.any fun lc => decide (lc.2 = .established)

def state : CallState :=
  let scode := sipReasonCode c.reason
  if scode = 487 then .cancelled
  else if c.peerHangup then .ended
  else if 400 ≤ scode || isTransportErr c.reason then .failed
  else .ended

def error : VoxError :=
  let scode := sipReasonCode c.reason
  if scode = 401 ∨ scode = 403 ∨ scode = 407 then .auth
  else if scode = 408 then .timeout
  else if 500 ≤ scode ∧ scode < 600 then .server5xx
  else if 400 ≤ scode then .inval
  else if isTransportErr c.reason && !c.peerHangup then .transport
  else .ok

/-- The reason the application is given. -/
def told (globalMenc : MediaEnc) : Option CStr :=
  if c.peerHangup then some "Remote hangup".toList
  else
    c.reason.map fun reason =>
      if codecReasonIsReallyMenc reason (c.account.map Prod.snd) globalMenc then
        ("No common media: this account offers unencrypted RTP and the peer requires " ++
          "encrypted media (set media_enc, e.g. DTLS-SRTP)").toList
      else reason

/-- `bevent_handler`, BEVENT_CALL_CLOSED: the event takes over the reference of the call list. -/
def qev (o : Nat) (globalMenc : MediaEnc) : QueuedEvent :=
  { QueuedEvent.withText o (c.told globalMenc)
      (.callState (c.account.map Prod.fst) (c.call.map Prod.fst) c.state c.error) with
    derefAfterDeliver := c.call.map Prod.fst }

end ClosedCall

/-! ### Events with several strings -/

namespace QueuedEvent

variable (o : Nat)

/-- `transp_name`, and `enum sip_transp` where it is none of these. -/
def transpName : Option Transport → CStr
  | none => "?".toList
  | some .udp => "UDP".toList
  | some .tcp => "TCP".toList
  | some .tls => "TLS".toList
  | some .ws => "WS".toList
  | some .wss => "WSS".toList

/-- `sip_trace_handler`, of a packet to or from the printed address. -/
def sipTrace (tx : Bool) (tp : Option Transport) (peer : Option CStr) (pkt : List Char) (now : Nat) :
    QueuedEvent :=
  let tn := transpName tp
  let remote := (peer.map (strNcpy 64)).getD []
  let remoteOff := tn.length + 1
  let rawOff := remoteOff + (remote.length + 1)
  { ev := .sipTrace (if tx then .tx else .rx) (.buf o 0) (.buf o remoteOff) (.buf o rawOff) (now * 1000)
    buf := memcpyAt rawOff pkt (strNcpyAt remoteOff remote (strNcpyAt 0 tn zeroed))
    derefAfterDeliver := none }

/-- One string of a MESSAGE: behind the last one, if there is any room left. What comes next goes behind it. -/
def packNext (data : Option (List Char)) (off : Nat) (buf : List Char) : CharPtr × Nat × List Char :=
  match data with
  | none => (.null, off, buf)
  | some data =>
      if off < bufSize then
        (.buf o off, off + (min data.length (bufSize - off - 1) + 1), memcpyAt off data buf)
      else (.null, off, buf)

/-- `message_recv_handler`. -/
def messageRecv (account : Option Nat) (peer ctype body : Option (List Char)) : QueuedEvent :=
  let (fromUri, off, buf) := packNext o peer 0 zeroed
  let (contentType, off, buf) := packNext o ctype off buf
  let (body, _, buf) := packNext o body off buf
  { ev := .message account fromUri body contentType, buf, derefAfterDeliver := none }

/-- The encryption as an SDP event names it. -/
def cryptoName : MediaEnc → CStr
  | .sdes => "SDES".toList
  | .dtlsSrtp => "DTLS-SRTP".toList
  | .none => "NONE".toList

/-- Where the name of the encryption goes: to the start, or behind the codec's name. -/
def cryptoOff (codec : Option CStr) : Nat := (codec.map fun name => name.length + 1).getD 0

/-- `vox_sdp_handle_event`, when both sides of the exchange are there, of the texts in the wrapper. A codec name
that does not fit takes `off` past the end; then `sizeof(qev->buf) - off` wraps, and `str_ncpy` writes behind the
block. -/
def sdpNegotiation (call : Nat) (codec : Option CStr) (menc : MediaEnc) (localSdp remoteSdp : CStr) :
    Option QueuedEvent :=
  let off := cryptoOff codec
  let buf := (codec.map fun name => strNcpyAt 0 name zeroed).getD zeroed
  if bufSize < off then none
  else
    some
      { ev := .sdpNegotiation (some call) (if localSdp = [] then .null else .localSdp call)
          (if remoteSdp = [] then .null else .remoteSdp call) (if codec.isSome then .buf o 0 else .null)
          (.buf o off)
        buf := strNcpyAt off (cryptoName menc) buf
        derefAfterDeliver := none }

end QueuedEvent

/-! ### What can be queued -/

/-- The producers, with what they are given. -/
inductive Producer where
  | log (msg : CStr) (len : Nat)
  | registrarWarning (text : CStr)
  | regState (account : Option Nat) (ev : RegEvent)
  | incomingCall (account : Option Nat) (call : Nat) (peer : Option CStr)
  | callState (account call : Option Nat) (state : CallState)
  | callClosed (c : ClosedCall) (globalMenc : MediaEnc)
  | callDtmf (call : Option Nat) (digit : Char)
  | sdpNegotiation (call : Nat) (codec : Option CStr) (menc : MediaEnc) (localSdp remoteSdp : CStr)
  | sipTrace (tx : Bool) (tp : Option Transport) (peer : Option CStr) (pkt : List Char) (now : Nat)
  | mediaStats (call : Nat) (s : MediaStats)
  | qualityAlert (call : Nat) (a : QualityAlert)
  | transferRequest (account call : Option Nat) (text : Option CStr)
  | transferFailed (account call : Option Nat) (reason : Option CStr)
  | mwi (account : Option Nat) (counts : MwiCounts) (body : Option CStr)
  | message (account : Option Nat) (peer ctype body : Option (List Char))
  | presenceState (uri : Option CStr) (status : PresenceStatus)
  | network (r : NetReport)

/-- The event that is queued in the block `o`. -/
def Producer.qev (o : Nat) : Producer → Option QueuedEvent
  | .log msg len => some (.queueLogEvent o msg len)
  | .registrarWarning text => some (.postRegistrarWarning o text)
  | .regState account ev => some (.regState o account ev)
  | .incomingCall account call peer => some (.incomingCall o account call peer)
  | .callState account call state => some (.callState account call state)
  | .callClosed c globalMenc => some (c.qev o globalMenc)
  | .callDtmf call digit => some (.callDtmf call digit)
  | .sdpNegotiation call codec menc localSdp remoteSdp =>
      QueuedEvent.sdpNegotiation o call codec menc localSdp remoteSdp
  | .sipTrace tx tp peer pkt now => some (.sipTrace o tx tp peer pkt now)
  | .mediaStats call s => some (.mediaStats o call s)
  | .qualityAlert call a => some (.qualityAlert call a)
  | .transferRequest account call text => some (.transferRequest o account call text)
  | .transferFailed account call reason => some (.transferFailed o account call reason)
  | .mwi account counts body => some (.handleMwi o account counts body)
  | .message account peer ctype body => some (.messageRecv o account peer ctype body)
  | .presenceState uri status => some (.contactUpdate o uri status)
  | .network r => some (.netmonEmit o r)

/-! ### Clones -/

/-- `rb`: a pointer into the buffer of `o` becomes one into that of `n`. -/
def rb (o n : Nat) : CharPtr → CharPtr
  | .buf qev off => if qev = o ∧ off < bufSize then .buf n off else .buf qev off
  | p => p

/-- The switch of `qev_clone`, type by type. -/
def Event.rebased (o n : Nat) : Event CharPtr → Event CharPtr
  | log text => log (rb o n text)
  | regState account state error retryAttempt retryDelayMs errorStr =>
      regState account state error retryAttempt retryDelayMs (rb o n errorStr)
  | incomingCall account call fromUri displayName =>
      incomingCall account call (rb o n fromUri) (rb o n displayName)
  | callState account call state error reason => callState account call state error (rb o n reason)
  | sdpNegotiation call localSdp remoteSdp negotiatedCodec negotiatedCrypto =>
      -- the SDP itself is in the wrapper
      sdpNegotiation call localSdp remoteSdp (rb o n negotiatedCodec) (rb o n negotiatedCrypto)
  | sipTrace dir transport remoteAddr rawMessage timestampUs =>
      sipTrace dir (rb o n transport) (rb o n remoteAddr) (rb o n rawMessage) timestampUs
  | mediaStats call stats codecName => mediaStats call stats (rb o n codecName)
  | registrarWarning text => registrarWarning (rb o n text)
  | transferRequest account call referToUri hasReplaces autoFollowed =>
      transferRequest account call (rb o n referToUri) hasReplaces autoFollowed
  | transferFailed account call reason => transferFailed account call (rb o n reason)
  | mwi account counts rawBody => mwi account counts (rb o n rawBody)
  | message account fromUri body contentType =>
      message account (rb o n fromUri) (rb o n body) (rb o n contentType)
  | presenceState account targetUri status => presenceState account (rb o n targetUri) status
  | qualityAlert call alert => qualityAlert call alert
  | callDtmf call digit => callDtmf call digit
  | network event call account localAddr attempt maxAttempts elapsedMs ice error =>
      network event call account (rb o n localAddr) attempt maxAttempts elapsedMs ice error

/-- What the strings of events lead to: the queued events, the `reg_error_str` of the accounts that are not
freed, and the call wrappers with their reference counts. -/
structure EventMem where
  qevs : Nat → Option QueuedEvent
  regErrorStr : Nat → Option CStr
  localSdp : Nat → CStr
  remoteSdp : Nat → CStr
  refs : Nat → Nat

namespace EventMem

/-- What a string reads as: NULL, or its text. Freed memory cannot be read, nor what is behind a buffer. -/
def read (m : EventMem) : CharPtr → Option (Option CStr)
  | .null => some none
  | .buf qev off => (m.qevs qev).bind fun q => (Block.textAt nul off q.buf).map some
  | .regErrorStr acct => (m.regErrorStr acct).map some
  | .localSdp call => if m.refs call = 0 then none else some (some (m.localSdp call))
  | .remoteSdp call => if m.refs call = 0 then none else some (some (m.remoteSdp call))

/-- `mem_ref` of a wrapper. -/
def memRef (call : Nat) (m : EventMem) : EventMem :=
  { m with refs := Function.update m.refs call (m.refs call + 1) }

/-- `qev_clone` of the event in `o`, for which `vox_qev_alloc` has given the block `n`. -/
def qevClone (o n : Nat) (old : QueuedEvent) (m : EventMem) : QueuedEvent × EventMem :=
  let own := { old with ev := old.ev.rebased o n }
  let (own, m) :=
    match own.ev.sdpCall, own.derefAfterDeliver with
    | some call, none => ({ own with derefAfterDeliver := some call }, m.memRef call)
    | _, _ => (own, m)
  (own, { m with
    qevs := Function.update (Function.update m.qevs o (some { old with derefAfterDeliver := none })) n (some own) })

end EventMem

end VoxSdk
