import VoxSdk.Account

/-!
# Calls and the network monitor

The data of `netmon.c`: addresses, what a NETWORK event says, the migration fields of a call, and
`struct vox_netmon`. What the network, the kernel and baresip answer while a handler runs is a
`NetEnv`.
-/

namespace VoxSdk

open Reactive

/-- The address part of a `struct sa`. -/
inductive Sa where
  | unset
  | v4 (addr : Nat)
  | v6 (addr : Nat)
  deriving DecidableEq, Repr

namespace Sa

/-- `sa_isset(sa, SA_ADDR)`. -/
def isSet : Sa → Bool
  | unset => false
  | v4 addr | v6 addr => decide (addr ≠ 0)

/-- Whether `sa_af` is the same. -/
def sameAf : Sa → Sa → Bool
  | unset, unset | v4 _, v4 _ | v6 _, v6 _ => true
  | _, _ => false

/-- `sa_is_loopback`. -/
def isLoopback : Sa → Bool
  | unset => false
  | v4 addr => decide (addr / 2 ^ 24 = 127)
  | v6 addr => decide (addr = 1)

/-- `sa_is_linklocal`. -/
def isLinklocal : Sa → Bool
  | unset => false
  | v4 addr => decide (addr / 2 ^ 16 = 0xa9fe)
  | v6 addr => decide (addr / 2 ^ 118 = 0x3fa)

end Sa

/-- The errno values `netmon.c` tells apart; `none` is success. -/
inductive Errno where
  | noent
  | nomem
  | inval
  | timedout
  | hostunreach
  | already
  | other
  deriving DecidableEq, Repr

/-- `map_err`. -/
def mapErr : Option Errno → VoxError
  | none => .ok
  | some .nomem => .nomem
  | some .inval => .inval
  | some .timedout => .timeout
  | some _ => .transport

/-- `voxsdk_net_event_t`. -/
inductive NetEvent where
  | changeDetected
  | down
  | up
  | transportReset
  | reregistering
  | callMigrating
  | callMigrateAccepted
  | callMigrated
  | callMigrationFailed
  | callDeferred
  | handoverFailed
  | callIceStale
  deriving DecidableEq, Repr

/-- `voxsdk_ev_network_t`, its call and account by their ids. -/
structure NetReport where
  event : NetEvent
  call : Option Nat
  account : Option Nat
  attempt : Nat
  maxAttempts : Nat
  error : VoxError
  ice : Bool
  elapsedMs : Nat
  localAddr : CStr
  deriving DecidableEq, Repr

/-- What a handler does that is visible outside the SDK's own state. -/
inductive SysOut where
  | acct (id : Nat) (o : AcctOut)
  | net (report : NetReport)
  | dnsRefresh
  | uagResetTransp
  | iceRestart (call : Nat) (laddr : Sa)
  | callResetTransp (call : Nat) (laddr : Sa)
  | uaHangup (call : Nat)
  | mediaStall (call : Nat) (elapsedMs : Nat) (recovered : Bool)
  deriving DecidableEq, Repr

/-- `voxsdk_call_state_t`. -/
inductive CallState where
  | calling
  | ringing
  | established
  | held
  | ended
  | cancelled
  | failed
  deriving DecidableEq, Repr

/-- `enum vox_mig_state`. -/
inductive MigState where
  | idle
  | stalled
  | waitAddr
  | deferred
  | sent
  | done
  | failed
  deriving DecidableEq, Repr

/-- The states in which a call is still owed a verdict. -/
def MigState.isPending : MigState → Bool
  | .stalled | .waitAddr | .deferred | .sent => true
  | _ => false

/-- What is read of `lc->acct`. -/
structure CallAcct where
  id : Nat
  ua : Bool
  parsedTransport : Transport
  iceEnabled : Bool

/-- `struct voxsdk_call`, as far as migration and stall detection go. `bc` says whether baresip's
call is there. `out` collects what the handler now running has done about the call. -/
structure Call where
  id : Nat
  bc : Bool
  acct : Option CallAcct
  state : CallState
  localHold : Bool
  netMigState : MigState
  netMigTries : Nat
  netMigGen : Nat
  netRxAtMig : Nat
  netMigStart : Nat
  netMigLaddr : Sa
  netMigDue : Nat
  netIceStaleSent : Bool
  netIceRestarted : Bool
  netMigPathMoved : Bool
  netMigStall : Bool
  netStallRepairAt : Nat
  netStallRounds : Nat
  netMigTried : List Sa
  stallRxPackets : Nat
  stallSince : Nat
  stallActive : Bool
  out : List SysOut

/-- `vox_call_wrap_new`. -/
def Call.wrapNew (id : Nat) (acct : Option CallAcct) (state : CallState) : Call :=
  { id, acct, state
    bc := true
    localHold := false
    netMigState := .idle
    netMigTries := 0
    netMigGen := 0
    netRxAtMig := 0
    netMigStart := 0
    netMigLaddr := .unset
    netMigDue := 0
    netIceStaleSent := false
    netIceRestarted := false
    netMigPathMoved := false
    netMigStall := false
    netStallRepairAt := 0
    netStallRounds := 0
    netMigTried := []
    stallRxPackets := 0
    stallSince := 0
    stallActive := false
    out := [] }

/-- `struct vox_netmon`. -/
structure Netmon where
  tmrPoll : Timer
  tmrSettle : Timer
  tmrVerify : Timer
  started : Bool
  resetPending : Bool
  force : Bool
  announced : Bool
  down : Bool
  gen : Nat
  attempt : Nat
  waitTicks : Nat
  handoverStart : Nat
  pollS : Nat
  settleMs : Nat
  verifyMs : Nat
  maxAttempts : Nat
  reinviteCalls : Bool
  hangupOnFail : Bool
  iceHandover : IceHandover
  curLaddr : CStr

/-- What baresip and the routing table answer about one call. -/
structure CallEnv where
  /-- `call_refresh_allowed` -/
  refreshAllowed : Bool
  /-- `call_is_onhold` -/
  onhold : Bool
  /-- `vox_ice_call_active` -/
  iceActive : Bool
  /-- whether the call has an audio stream -/
  stream : Bool
  /-- `stream_metric_get_rx_n_packets` -/
  rxPackets : Nat
  /-- `stream_raddr` -/
  raddr : Sa
  /-- `sdp_media_raddr` -/
  sdpRaddr : Sa
  /-- `net_dst_source_addr_get`, `none` when it fails -/
  sourceAddr : Option Sa
  /-- `call_laddr` -/
  laddr : Option Sa
  /-- `vox_ice_restart` -/
  iceRestart : Option Errno
  /-- `call_reset_transp` -/
  resetTransp : Option Errno

/-- What the network, the kernel and baresip answer while one handler runs. -/
structure NetEnv where
  /-- how many addresses `scan_addresses` added or removed -/
  scanned : Nat
  /-- `scan_usable` -/
  routable : Bool
  linklocal : Bool
  /-- what `update_cur_laddr` finds -/
  curLaddr : CStr
  /-- baresip's local addresses, in its order -/
  localAddrs : List Sa
  /-- `uag_reset_transp` -/
  resetTransp : Option Errno
  call : Nat → CallEnv
  /-- whether `ua_register` reports BEVENT_REGISTERING, by account -/
  reporting : Nat → Bool
  /-- what `rand_u32` draws, by account -/
  rand : Nat → Nat

/-! ### Constants -/

/-- `VOX_NET_MAX_SNAP`. -/
def netMaxSnap : Nat := 64

/-- `VOX_NET_MAX_CAND`. -/
def netMaxCand : Nat := 4

/-- `VOX_NET_SETTLE_MS`. -/
def netSettleMs : Nat := 1500

/-- `VOX_NET_MAX_ATTEMPT`. -/
def netMaxAttempt : Nat := 6

/-- `VOX_NET_STALL_VERIFY_MS`. -/
def netStallVerifyMs : Nat := 1500

/-- `VOX_NET_STALL_COOLDOWN_MS`. -/
def netStallCooldownMs : Nat := 10000

/-- `VOX_NET_STALL_ATTEMPTS`. -/
def netStallAttempts : Nat := 3

/-- `VOX_NET_STALL_ROUNDS`. -/
def netStallRounds : Nat := 3

/-- `VOX_MEDIA_SETUP_GRACE_MS`. -/
def mediaSetupGraceMs : Nat := 12000

/-- `g_nm.max_attempts`. -/
def Cfg.maxAttempts (g : Cfg) : Nat :=
  if g.netMaxAttempts = 0 then netMaxAttempt else g.netMaxAttempts

theorem Cfg.maxAttempts_pos (g : Cfg) : 0 < g.maxAttempts := by
  unfold Cfg.maxAttempts
  split
  · decide
  · exact Nat.pos_of_ne_zero ‹_›

/-- `vox_netmon_init`; `up` is `have_routable_addr`. -/
def netmonInit (g : Cfg) (now : Nat) (up : Bool) (curLaddr : CStr) : Netmon :=
  { tmrPoll :=
      if g.netMonitorIntervalS = 0 then none
      else Timer.start now (u32 (g.netMonitorIntervalS * 1000))
    tmrSettle := none
    tmrVerify := none
    started := true
    resetPending := false
    force := false
    announced := false
    down := !up
    gen := 0
    attempt := 0
    waitTicks := 0
    handoverStart := 0
    pollS := g.netMonitorIntervalS
    settleMs := if g.netSettleMs = 0 then netSettleMs else g.netSettleMs
    verifyMs := g.netVerifyMs
    maxAttempts := g.maxAttempts
    reinviteCalls := g.netReinviteCalls
    hangupOnFail := g.netHangupOnMigrationFailure
    iceHandover := g.netIceHandover
    curLaddr := strNcpy 64 curLaddr }

end VoxSdk
