import VoxSdk.Netmon

/-!
# The interfaces a call gathers candidates on

The patched `if_handler` of baresip's ICE module (`cmake/patches/ice-ifsel.new`). baresip calls it for one
local address after the other; an address it turns down is no candidate of the component's.
-/

namespace VoxSdk

/-- `sa_cmp(l, r, SA_ADDR)`. -/
def Sa.cmp (l r : Sa) : Bool := decide (l ≠ .unset) && decide (l = r)

/-- `struct network`, as far as the handler asks it: the local addresses `net_laddr_apply` goes through, and
the families `net_af_enabled` says yes to. -/
structure BaresipNet where
  laddrs : List Sa
  inetEnabled : Bool
  inet6Enabled : Bool

namespace BaresipNet

/-- `net_af_enabled(net, sa_af(sa))`. -/
def afEnabled (net : BaresipNet) : Sa → Bool
  | .unset => false
  | .v4 _ => net.inetEnabled
  | .v6 _ => net.inet6Enabled

/-- `net_laddr_apply`: whether some local address makes the handler say yes. -/
def laddrApply (net : BaresipNet) (handler : Sa → Bool) : Bool := net.laddrs.any handler

end BaresipNet

/-- `struct mnat_sess`: its SDP session, of which `sdp_session_laddr` is the address. -/
structure MnatSess where
  sdp : Option (Option Sa)

/-- `struct mnat_media`. -/
structure MnatMedia where
  sess : Option MnatSess

/-- `voxsdk_sig_handler`; `sig` is what the call signals from. -/
def voxsdkSigHandler (sig sa : Sa) : Bool := sig.cmp sa

/-- `voxsdk_if_signalling`. -/
def voxsdkIfSignalling (net : BaresipNet) (m : MnatMedia) (sa : Sa) : Bool :=
  match m.sess.bind MnatSess.sdp with
  | none => true
  | some laddr =>
      match laddr.filter Sa.isSet with
      | none => true
      | some sig => if !net.laddrApply (voxsdkSigHandler sig) then true else sig.cmp sa

/-- `if_handler`, down to where it adds the candidate. -/
def ifHandler (net : BaresipNet) (m : MnatMedia) (sa : Sa) : Bool :=
  if sa.isLoopback || sa.isLinklocal then false
  else if !net.afEnabled sa then false
  else if !voxsdkIfSignalling net m sa then false
  else true

end VoxSdk
