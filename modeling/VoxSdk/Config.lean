import VoxSdk.Lib.Timer
import Mathlib.Data.Rat.Floor

/-!
# Shared vocabulary

The enumerations of `voxsdk.h` that the modelled functions read or return, C strings, the fixed-width
arithmetic, and the part of `g_vox.cfg` the registration and handover code consults.
-/

namespace VoxSdk

open Reactive

/-- A C string, up to its NUL. -/
abbrev CStr := List Char

/-- `str_ncpy` into an array of `size` bytes: what does not fit is cut. -/
def strNcpy (size : Nat) (s : CStr) : CStr := s.take (size - 1)

/-- A `uint32_t` result. -/
def u32 (n : Nat) : Nat := n % 2 ^ 32

/-- A `uint32_t` read as `int32_t`. -/
def i32 (n : Nat) : Int := Int.bmod n (2 ^ 32)

/-- `(uint32_t)` of a floating-point value: the fraction is dropped. -/
def castU32 (q : ℚ) : Nat := u32 ⌊q⌋.toNat

/-- `voxsdk_error_t`. -/
inductive VoxError where
  | ok
  | inval
  | nomem
  | state
  | dns
  | transport
  | auth
  | server5xx
  | wsProtocolRejected
  | timeout
  | already
  deriving DecidableEq, Repr

/-- The number of a `voxsdk_error_t`. -/
def VoxError.code : VoxError → Int
  | .ok => 0
  | .inval => -1
  | .nomem => -2
  | .state => -3
  | .dns => -4
  | .transport => -5
  | .auth => -6
  | .server5xx => -7
  | .wsProtocolRejected => -8
  | .timeout => -9
  | .already => -10

/-- `voxsdk_reg_state_t`. -/
inductive RegState where
  | unregistered
  | registering
  | registered
  | failed
  | unregistering
  | reconnecting
  deriving DecidableEq, Repr

/-- `voxsdk_transport_t`. -/
inductive Transport where
  | udp
  | tcp
  | tls
  | ws
  | wss
  deriving DecidableEq, Repr

/-- `call_signals_over_ws`, of the account's transport. -/
def Transport.isWebSocket : Transport → Bool
  | .ws | .wss => true
  | _ => false

/-- `voxsdk_push_provider_t`. -/
inductive PushProvider where
  | none
  | apns
  | apnsSandbox
  | fcm
  deriving DecidableEq, Repr

/-- `voxsdk_ice_handover_t`. -/
inductive IceHandover where
  | bestEffort
  | failFast
  deriving DecidableEq, Repr

/-- What the registration and handover code reads of `g_vox.cfg`. The fields are set by
`voxsdk_init` and not written again. `saSetStr` is libre's test for an address literal. -/
structure Cfg where
  outboundProxy : Option CStr
  regRetryInitialMs : Nat
  regRetryMaxMs : Nat
  regRetryBackoff : ℚ
  regRetryJitter : ℚ
  regRetryMaxAttempts : Nat
  sipTimerFMs : Nat
  keepaliveInterval : Nat
  keepaliveReregister : Bool
  dnsSrvFailover : Bool
  iceEnabled : Bool
  iceGatheringTimeoutMs : Nat
  mediaStallMs : Nat
  netMonitorIntervalS : Nat
  netSettleMs : Nat
  netReinviteCalls : Bool
  netVerifyMs : Nat
  netMaxAttempts : Nat
  netHangupOnMigrationFailure : Bool
  netIceHandover : IceHandover
  netPinnedResolvers : Bool
  saSetStr : CStr → Bool

/-- What `voxsdk_config_init` puts there. -/
def configInit : Cfg :=
  { outboundProxy := none
    regRetryInitialMs := 2000
    regRetryMaxMs := 300000
    regRetryBackoff := 2
    regRetryJitter := 1 / 5
    regRetryMaxAttempts := 0
    sipTimerFMs := 32000
    keepaliveInterval := 30000
    keepaliveReregister := true
    dnsSrvFailover := true
    iceEnabled := false
    iceGatheringTimeoutMs := 2000
    mediaStallMs := 4000
    netMonitorIntervalS := 10
    netSettleMs := 1500
    netReinviteCalls := true
    netVerifyMs := 4000
    netMaxAttempts := 6
    netHangupOnMigrationFailure := false
    netIceHandover := .bestEffort
    netPinnedResolvers := false
    saSetStr := fun _ => false }

end VoxSdk
