import VoxSdk.IceIfsel

/-!
# Following the addresses of the box

netmon keeps baresip's list of local addresses in step with the kernel's (`scan_addresses`, netmon.c), and asks what
kind of address there is to bind (`scan_usable`).
-/

namespace VoxSdk

/-- `VOX_NET_SCAN_MAX`. -/
def netScanMax : Nat := 32

/-- The box: its addresses as `net_if_apply` goes through them, each with its interface, and what baresip says to
them. -/
structure Box where
  ifs : List (CStr × Sa)
  set : ∀ i ∈ ifs, i.2 ≠ .unset
  /-- `net_ifaddr_filter` -/
  filter : CStr → Sa → Bool
  /-- whether `net_add_address` fails -/
  refusesAdd : Sa → Bool
  /-- whether `net_rm_address` fails -/
  refusesRm : Sa → Bool

/-- `struct usable_ctx`. -/
structure UsableCtx where
  routable : Bool
  linklocal : Bool
  deriving DecidableEq

/-- `laddr_eq_h`; `arg` is what is looked for. -/
def laddrEqH (arg sa : Sa) : Bool := arg.cmp sa

namespace Box

variable (b : Box)

/-- `if_missing_h`, of the interface address `i`. -/
def ifMissingH (laddrs : List Sa) (i : CStr × Sa) : Bool := b.filter i.1 i.2 && !laddrs.any (laddrEqH i.2)

/-- `laddr_gone_h`: `net_if_getname` answers `ENODEV`. -/
def laddrGoneH (sa : Sa) : Bool := !b.ifs.any fun i => laddrEqH i.2 sa

/-- The first loop of `scan_addresses`. `net_add_address` puts an address behind the others. -/
def addMissing : Nat → List Sa → List Sa × Nat
  | 0, laddrs => (laddrs, 0)
  | left + 1, laddrs =>
      match b.ifs.find? (b.ifMissingH laddrs) with
      | none => (laddrs, 0)
      | some i =>
          if b.refusesAdd i.2 then (laddrs, 0)
          else
            let (laddrs, changed) := addMissing left (laddrs ++ [i.2])
            (laddrs, changed + 1)

/-- The second. `net_rm_address` takes one entry out. -/
def rmGone : Nat → List Sa → List Sa × Nat
  | 0, laddrs => (laddrs, 0)
  | left + 1, laddrs =>
      match laddrs.find? b.laddrGoneH with
      | none => (laddrs, 0)
      | some sa =>
          if b.refusesRm sa then (laddrs, 0)
          else
            let (laddrs, changed) := rmGone left (laddrs.erase sa)
            (laddrs, changed + 1)

/-- `scan_addresses`: baresip's list afterwards, and how many addresses were added or removed. -/
def scanAddresses (laddrs : List Sa) : List Sa × Nat :=
  let (laddrs, added) := b.addMissing netScanMax laddrs
  let (laddrs, removed) := b.rmGone netScanMax laddrs
  (laddrs, added + removed)

/-- `if_usable_h`: the context afterwards, and whether the walk stops. -/
def ifUsableH (i : CStr × Sa) (c : UsableCtx) : UsableCtx × Bool :=
  if !b.filter i.1 i.2 then (c, false)
  else if i.2.isLinklocal then ({ c with linklocal := true }, c.routable)
  else ({ c with routable := true }, true)

/-- `net_if_apply` with `if_usable_h`. -/
def applyUsable : List (CStr × Sa) → UsableCtx → UsableCtx
  | [], c => c
  | i :: ifs, c =>
      let (c, stops) := b.ifUsableH i c
      if stops then c else applyUsable ifs c

/-- `scan_usable`. -/
def scanUsable : UsableCtx := b.applyUsable b.ifs { routable := false, linklocal := false }

end Box

end VoxSdk
