import VoxSdk.AddrScan
import VoxSdk.Lib.Worklist
import VoxSdk.Proof.MigrationEnds

/-!
# The addresses baresip knows are those the box has

Each of the two loops of `scan_addresses` looks the whole list over again after every address. It catches up with a
list of work all the same: the addresses baresip has not been told about, and those that are gone.
-/

namespace VoxSdk

open Reactive

namespace Box

variable {b : Box} {laddrs : List Sa} {sa : Sa}

/-- The addresses baresip has not been told about, in the kernel's order and each of them once. -/
def missing (b : Box) (laddrs : List Sa) : List Sa :=
  ((b.ifs.filter (b.ifMissingH laddrs)).map Prod.snd).eraseDups

/-- The addresses that are gone, in baresip's order. -/
def gone (b : Box) (laddrs : List Sa) : List Sa := laddrs.filter b.laddrGoneH

/-- The box has the address, on an interface baresip wants. -/
def offers (b : Box) (sa : Sa) : Prop := ∃ ifname, (ifname, sa) ∈ b.ifs ∧ b.filter ifname sa = true

/-- The box has the address. -/
def carries (b : Box) (sa : Sa) : Prop := ∃ ifname, (ifname, sa) ∈ b.ifs

theorem offers.carries (h : b.offers sa) : b.carries sa := ⟨h.choose, h.choose_spec.1⟩

theorem laddrEqH_iff {arg : Sa} (hset : arg ≠ .unset) : laddrEqH arg sa = true ↔ sa = arg := by
  simp [laddrEqH, Sa.cmp, hset, eq_comm]

theorem laddrGoneH_iff : b.laddrGoneH sa = true ↔ ¬b.carries sa := by
  simp only [laddrGoneH, Bool.not_eq_true', List.any_eq_false, carries, not_exists]
  constructor
  · intro h ifname hi
    exact h (ifname, sa) hi ((laddrEqH_iff (b.set _ hi)).mpr rfl)
  · rintro h ⟨ifname, arg⟩ hi heq
    obtain rfl := (laddrEqH_iff (b.set _ hi)).mp heq
    exact h ifname hi

theorem ifMissingH_iff {i : CStr × Sa} (hi : i ∈ b.ifs) :
    b.ifMissingH laddrs i = true ↔ b.filter i.1 i.2 = true ∧ i.2 ∉ laddrs := by
  simp only [ifMissingH, Bool.and_eq_true, Bool.not_eq_true', List.any_eq_false]
  refine and_congr_right fun _ => ?_
  constructor
  · exact fun h hmem => h i.2 hmem ((laddrEqH_iff (b.set i hi)).mpr rfl)
  · intro h sa hsa heq
    obtain rfl := (laddrEqH_iff (b.set i hi)).mp heq
    exact h hsa

theorem mem_missing : sa ∈ b.missing laddrs ↔ b.offers sa ∧ sa ∉ laddrs := by
  simp only [missing, List.mem_eraseDups, List.mem_map, List.mem_filter]
  constructor
  · rintro ⟨⟨ifname, sa⟩, ⟨hi, hmissing⟩, rfl⟩
    obtain ⟨hfilter, hnew⟩ := (ifMissingH_iff hi).mp hmissing
    exact ⟨⟨ifname, hi, hfilter⟩, hnew⟩
  · rintro ⟨⟨ifname, hi, hfilter⟩, hnew⟩
    exact ⟨(ifname, sa), ⟨hi, (ifMissingH_iff hi).mpr ⟨hfilter, hnew⟩⟩, rfl⟩

theorem mem_gone : sa ∈ b.gone laddrs ↔ sa ∈ laddrs ∧ ¬b.carries sa := by
  rw [gone, List.mem_filter, laddrGoneH_iff]

/-! ### The loops catch up -/

theorem tackles_missing : Tackles b.missing fun laddrs sa => laddrs ++ [sa] := by
  intro laddrs sa rest htodo
  have hfilter : b.ifs.filter (b.ifMissingH (laddrs ++ [sa])) =
      (b.ifs.filter (b.ifMissingH laddrs)).filter ((fun other => !other == sa) ∘ Prod.snd) := by
    rw [List.filter_filter]
    refine List.filter_congr fun i hi => ?_
    rw [Bool.eq_iff_iff, Bool.and_eq_true, ifMissingH_iff hi, ifMissingH_iff hi]
    simp only [List.mem_append, List.mem_singleton, not_or, Function.comp_apply, Bool.not_eq_true',
      beq_eq_false_iff_ne]
    tauto
  unfold missing at htodo ⊢
  rw [hfilter, ← List.filter_map]
  generalize (b.ifs.filter (b.ifMissingH laddrs)).map Prod.snd = found at htodo ⊢
  cases found with
  | nil => cases htodo
  | cons first others =>
      rw [List.eraseDups_cons] at htodo
      obtain ⟨rfl, rfl⟩ := List.cons.inj htodo
      rw [List.filter_cons_of_neg (by simp)]

theorem tackles_gone : Tackles b.gone List.erase := by
  intro laddrs sa rest htodo
  unfold gone at htodo ⊢
  rw [← List.erase_filter, htodo, List.erase_cons_head]

/-- The first of what is missing is on the first interface address that is. -/
theorem addMissing_eq (left : Nat) (laddrs : List Sa) :
    b.addMissing left laddrs = catchUp b.missing (fun laddrs sa => laddrs ++ [sa]) b.refusesAdd left laddrs := by
  induction left generalizing laddrs with
  | zero => rfl
  | succ left ih =>
      rw [addMissing, catchUp, missing, ← List.head?_filter]
      cases b.ifs.filter (b.ifMissingH laddrs) with
      | nil => rfl
      | cons i others =>
          rw [List.map_cons, List.eraseDups_cons]
          simp only [List.head?_cons, ih]

theorem rmGone_eq (left : Nat) (laddrs : List Sa) :
    b.rmGone left laddrs = catchUp b.gone List.erase b.refusesRm left laddrs := by
  induction left generalizing laddrs with
  | zero => rfl
  | succ left ih =>
      rw [rmGone, catchUp, gone, ← List.head?_filter]
      cases laddrs.filter b.laddrGoneH with
      | nil => rfl
      | cons sa others => simp only [List.head?_cons, ih]

/-! ### One scan -/

/-- The addresses of the box that baresip knows, and it knows no other. -/
structure Agrees (b : Box) (laddrs : List Sa) : Prop where
  known : ∀ sa, b.offers sa → sa ∈ laddrs
  current : ∀ sa ∈ laddrs, b.carries sa

theorem missing_eq_nil : b.missing laddrs = [] ↔ ∀ sa, b.offers sa → sa ∈ laddrs := by
  rw [List.eq_nil_iff_forall_not_mem]
  refine forall_congr' fun sa => ?_
  rw [mem_missing]
  tauto

theorem gone_eq_nil : b.gone laddrs = [] ↔ ∀ sa ∈ laddrs, b.carries sa := by
  rw [List.eq_nil_iff_forall_not_mem]
  refine forall_congr' fun sa => ?_
  rw [mem_gone]
  tauto

theorem agrees_iff : b.Agrees laddrs ↔ b.missing laddrs = [] ∧ b.gone laddrs = [] := by
  rw [missing_eq_nil, gone_eq_nil]
  exact ⟨fun h => ⟨h.known, h.current⟩, fun h => ⟨h.1, h.2⟩⟩

theorem scanAddresses_eq (b : Box) (laddrs : List Sa) :
    b.scanAddresses laddrs =
      ((b.rmGone netScanMax (b.addMissing netScanMax laddrs).1).1,
        (b.addMissing netScanMax laddrs).2 + (b.rmGone netScanMax (b.addMissing netScanMax laddrs).1).2) := by
  simp only [scanAddresses]

/-- The loops keep what adding a missing address and taking out one that is gone keep. -/
theorem scanAddresses_keeps {I : List Sa → Prop} (hadd : ∀ l sa, b.offers sa → sa ∉ l → I l → I (l ++ [sa]))
    (hrm : ∀ l sa, ¬b.carries sa → I l → I (l.erase sa)) (hI : I laddrs) : I (b.scanAddresses laddrs).1 := by
  rw [scanAddresses_eq]
  simp only
  rw [addMissing_eq, rmGone_eq]
  refine catchUp_keeps (fun l sa rest htodo hl => ?_) _ (catchUp_keeps (fun l sa rest htodo hl => ?_) _ hI)
  · have hgone : sa ∈ b.gone l := htodo ▸ List.mem_cons_self
    exact hrm l sa (mem_gone.mp hgone).2 hl
  · have hmissing : sa ∈ b.missing l := htodo ▸ List.mem_cons_self
    exact hadd l sa (mem_missing.mp hmissing).1 (mem_missing.mp hmissing).2 hl

theorem nodup_scanAddresses (h : laddrs.Nodup) : (b.scanAddresses laddrs).1.Nodup := by
  refine scanAddresses_keeps (fun l sa _ hnew hl => ?_) (fun l sa _ hl => hl.erase sa) h
  rw [List.nodup_append]
  refine ⟨hl, List.nodup_singleton sa, fun a ha other hother => ?_⟩
  rw [List.mem_singleton.mp hother]
  exact fun heq => hnew (heq ▸ ha)

/-- Nothing comes to the list that the box does not offer. -/
theorem mem_of_mem_scanAddresses (h : sa ∈ (b.scanAddresses laddrs).1) : sa ∈ laddrs ∨ b.offers sa := by
  refine scanAddresses_keeps (I := fun l => sa ∈ l → sa ∈ laddrs ∨ b.offers sa) (fun l new hoffers _ hl hmem => ?_)
    (fun l old _ hl hmem => hl (List.mem_of_mem_erase hmem)) Or.inl h
  rcases List.mem_append.mp hmem with hmem | hmem
  · exact hl hmem
  · rw [List.mem_singleton.mp hmem]
    exact .inr hoffers

/-- And nothing leaves it that the box still has. -/
theorem mem_scanAddresses (h : sa ∈ laddrs) (hcarries : b.carries sa) : sa ∈ (b.scanAddresses laddrs).1 := by
  refine scanAddresses_keeps (I := fun l => sa ∈ l) (fun l new _ _ hl => List.mem_append_left _ hl)
    (fun l old hgone hl => ?_) h
  refine (List.mem_erase_of_ne ?_).mpr hl
  rintro rfl
  exact hgone hcarries

theorem gone_append (hcarries : b.carries sa) : b.gone (laddrs ++ [sa]) = b.gone laddrs := by
  have hkept : b.laddrGoneH sa = false := by
    rw [← Bool.not_eq_true, laddrGoneH_iff, not_not]
    exact hcarries
  rw [gone, List.filter_append, List.filter_cons_of_neg (by simp [hkept]), List.filter_nil, List.append_nil, gone]

theorem missing_erase (hgone : ¬b.carries sa) : b.missing (laddrs.erase sa) = b.missing laddrs := by
  unfold missing
  congr 2
  refine List.filter_congr fun i hi => ?_
  have hne : i.2 ≠ sa := by
    rintro rfl
    exact hgone ⟨i.1, hi⟩
  rw [Bool.eq_iff_iff, ifMissingH_iff hi, ifMissingH_iff hi, List.mem_erase_of_ne hne]

theorem gone_addMissing (left : Nat) : b.gone (b.addMissing left laddrs).1 = b.gone laddrs := by
  rw [addMissing_eq]
  refine catchUp_keeps (I := fun l => b.gone l = b.gone laddrs) (fun l sa rest htodo hl => ?_) left rfl
  have hmissing : sa ∈ b.missing l := htodo ▸ List.mem_cons_self
  rw [gone_append (mem_missing.mp hmissing).1.carries, hl]

theorem missing_rmGone (left : Nat) : b.missing (b.rmGone left laddrs).1 = b.missing laddrs := by
  rw [rmGone_eq]
  refine catchUp_keeps (I := fun l => b.missing l = b.missing laddrs) (fun l sa rest htodo hl => ?_) left rfl
  have hgone : sa ∈ b.gone l := htodo ▸ List.mem_cons_self
  rw [missing_erase (mem_gone.mp hgone).2, hl]

/-- baresip takes every address it is told. -/
structure Willing (b : Box) : Prop where
  adds : ∀ sa, b.refusesAdd sa = false
  removes : ∀ sa, b.refusesRm sa = false

theorem scan_spec (hwilling : b.Willing) (laddrs : List Sa) :
    b.missing (b.scanAddresses laddrs).1 = (b.missing laddrs).drop netScanMax ∧
      b.gone (b.scanAddresses laddrs).1 = (b.gone laddrs).drop netScanMax ∧
        (b.scanAddresses laddrs).2 =
          min netScanMax (b.missing laddrs).length + min netScanMax (b.gone laddrs).length := by
  obtain ⟨hadded, hmissing⟩ := catchUp_of_willing tackles_missing (fun sa (_ : sa ∈ b.missing laddrs) =>
    hwilling.adds sa) netScanMax
  rw [← addMissing_eq] at hadded hmissing
  obtain ⟨hremoved, hgone⟩ := catchUp_of_willing tackles_gone
    (fun sa (_ : sa ∈ b.gone (b.addMissing netScanMax laddrs).1) => hwilling.removes sa) netScanMax
  rw [← rmGone_eq, gone_addMissing] at hremoved hgone
  rw [scanAddresses_eq]
  refine ⟨?_, hgone, ?_⟩
  · simp only
    rw [missing_rmGone, hmissing]
  · simp only
    rw [hadded, hremoved]

/-- A scan that changes nothing finds nothing to change, or is refused the first change of each kind. -/
theorem scan_eq_zero : (b.scanAddresses laddrs).2 = 0 ↔
    (∀ sa ∈ (b.missing laddrs).head?, b.refusesAdd sa = true) ∧
      ∀ sa ∈ (b.gone laddrs).head?, b.refusesRm sa = true := by
  rw [scanAddresses_eq, ← @gone_addMissing b laddrs netScanMax]
  simp only [Nat.add_eq_zero_iff]
  rw [addMissing_eq, rmGone_eq]
  exact and_congr catchUp_eq_zero catchUp_eq_zero

theorem scan_of_zero (h : (b.scanAddresses laddrs).2 = 0) : (b.scanAddresses laddrs).1 = laddrs := by
  rw [scanAddresses_eq] at h ⊢
  obtain ⟨hadded, hremoved⟩ := Nat.add_eq_zero_iff.mp h
  have hkept : (b.addMissing netScanMax laddrs).1 = laddrs := by
    rw [addMissing_eq] at hadded ⊢
    exact catchUp_of_rest hadded
  simp only
  rw [hkept, rmGone_eq] at hremoved ⊢
  exact catchUp_of_rest hremoved

theorem agrees_of_zero (hwilling : b.Willing) (h : (b.scanAddresses laddrs).2 = 0) : b.Agrees laddrs := by
  obtain ⟨hadded, hremoved⟩ := scan_eq_zero.mp h
  refine agrees_iff.mpr ⟨?_, ?_⟩
  · refine List.head?_eq_none_iff.mp (Option.eq_none_iff_forall_ne_some.mpr fun sa hsa => ?_)
    exact absurd (hadded sa hsa) (by simp [hwilling.adds])
  · refine List.head?_eq_none_iff.mp (Option.eq_none_iff_forall_ne_some.mpr fun sa hsa => ?_)
    exact absurd (hremoved sa hsa) (by simp [hwilling.removes])

/-! ### Scans in a row -/

/-- baresip's list after so many scans of a box that stays as it is. -/
def rescan (b : Box) (n : Nat) (laddrs : List Sa) : List Sa := (fun l => (b.scanAddresses l).1)^[n] laddrs

theorem rescan_succ (b : Box) (n : Nat) (laddrs : List Sa) :
    b.rescan (n + 1) laddrs = (b.scanAddresses (b.rescan n laddrs)).1 :=
  Function.iterate_succ_apply' _ n laddrs

theorem rescan_spec (hwilling : b.Willing) (n : Nat) (laddrs : List Sa) :
    b.missing (b.rescan n laddrs) = (b.missing laddrs).drop (netScanMax * n) ∧
      b.gone (b.rescan n laddrs) = (b.gone laddrs).drop (netScanMax * n) := by
  induction n with
  | zero => exact ⟨rfl, rfl⟩
  | succ n ih =>
      obtain ⟨hmissing, hgone, -⟩ := scan_spec hwilling (b.rescan n laddrs)
      rw [rescan_succ, hmissing, hgone, ih.1, ih.2, List.drop_drop, List.drop_drop, Nat.mul_succ]
      exact ⟨rfl, rfl⟩

end Box

/-- **Scanning settles.** A box that stays as it is has been followed after so many scans, and no sooner, as there are
blocks of `VOX_NET_SCAN_MAX` addresses to add, or to remove. Then the scan finds nothing more to change, and baresip
knows the addresses the box offers and those it knew that the box still has. -/
theorem rescans_settle {b : Box} (hwilling : b.Willing) (n : Nat) (laddrs : List Sa) :
    ((b.scanAddresses (b.rescan n laddrs)).2 = 0 ↔
        (b.missing laddrs).length ≤ netScanMax * n ∧ (b.gone laddrs).length ≤ netScanMax * n) ∧
      ((b.scanAddresses (b.rescan n laddrs)).2 = 0 →
        ∀ sa, sa ∈ b.rescan n laddrs ↔ b.offers sa ∨ sa ∈ laddrs ∧ b.carries sa) := by
  obtain ⟨hmissing, hgone⟩ := Box.rescan_spec hwilling n laddrs
  constructor
  · obtain ⟨-, -, hcount⟩ := Box.scan_spec hwilling (b.rescan n laddrs)
    rw [hcount, hmissing, hgone, List.length_drop, List.length_drop, netScanMax]
    omega
  · intro hzero sa
    have hagrees := Box.agrees_of_zero hwilling hzero
    constructor
    · intro hsa
      have hfrom (n : Nat) (hsa : sa ∈ b.rescan n laddrs) : sa ∈ laddrs ∨ b.offers sa := by
        induction n with
        | zero => exact .inl hsa
        | succ n ih =>
            rw [Box.rescan_succ] at hsa
            exact (Box.mem_of_mem_scanAddresses hsa).elim ih .inr
      rcases hfrom n hsa with hknown | hoffers
      · exact .inr ⟨hknown, hagrees.current sa hsa⟩
      · exact .inl hoffers
    · rintro (hoffers | ⟨hknown, hcarries⟩)
      · exact hagrees.known sa hoffers
      · clear hmissing hgone hzero hagrees
        induction n with
        | zero => exact hknown
        | succ n ih =>
            rw [Box.rescan_succ]
            exact Box.mem_scanAddresses ih hcarries

/-- A box with so many addresses, all of them wanted. -/
def Box.ofCount (n : Nat) : Box where
  ifs := (List.range n).map fun k => ("wlan0".toList, .v4 (0xc0000201 + k))
  set i hi := by
    obtain ⟨k, -, rfl⟩ := List.mem_map.mp hi
    exact Sa.noConfusion
  filter _ _ := true
  refusesAdd _ := false
  refusesRm _ := false

/-- One address more than a scan has room for. -/
theorem rescans_settle_twice :
    ((Box.ofCount 33).scanAddresses ((Box.ofCount 33).rescan 1 [.v4 0x0a000001])).2 ≠ 0 ∧
      ((Box.ofCount 33).scanAddresses ((Box.ofCount 33).rescan 2 [.v4 0x0a000001])).2 = 0 := by
  have hwilling : (Box.ofCount 33).Willing := ⟨fun _ => rfl, fun _ => rfl⟩
  have hmissing : ((Box.ofCount 33).missing [.v4 0x0a000001]).length = 33 := by decide +kernel
  have hgone : ((Box.ofCount 33).gone [.v4 0x0a000001]).length = 1 := by decide +kernel
  constructor
  · rw [Ne, (rescans_settle hwilling 1 [.v4 0x0a000001]).1, hmissing, hgone]
    decide
  · rw [(rescans_settle hwilling 2 [.v4 0x0a000001]).1, hmissing, hgone]
    decide

/-! ### What a handover finds -/

namespace Box

variable {b : Box} {c : UsableCtx}

/-- The walk stops early, but only when it cannot find anything better. -/
theorem applyUsable_spec (ifs : List (CStr × Sa)) (hnone : c.routable = false) :
    ((b.applyUsable ifs c).routable = true ↔
        ∃ i ∈ ifs, b.filter i.1 i.2 = true ∧ i.2.isLinklocal = false) ∧
      ((b.applyUsable ifs c).routable = true ∨ (b.applyUsable ifs c).linklocal = true ↔
        c.linklocal = true ∨ ∃ i ∈ ifs, b.filter i.1 i.2 = true) := by
  induction ifs generalizing c with
  | nil => simp [applyUsable, hnone]
  | cons i ifs ih =>
      rw [applyUsable, ifUsableH]
      cases hfilter : b.filter i.1 i.2 with
      | false => simpa [hfilter] using ih hnone
      | true =>
          cases hlocal : i.2.isLinklocal with
          | false => simp [hfilter, hlocal]
          | true => simpa [hfilter, hlocal, hnone] using @ih { c with linklocal := true } hnone

/-- There is an address to bind just when the box offers one, and one that routes just when it offers one beyond the
link. -/
theorem scanUsable_spec (b : Box) :
    (b.scanUsable.routable = true ↔ ∃ sa, b.offers sa ∧ sa.isLinklocal = false) ∧
      (b.scanUsable.routable = true ∨ b.scanUsable.linklocal = true ↔ ∃ sa, b.offers sa) := by
  obtain ⟨hroutable, husable⟩ := applyUsable_spec (b := b) (c := ⟨false, false⟩) b.ifs rfl
  constructor
  · refine hroutable.trans ⟨?_, ?_⟩
    · rintro ⟨⟨ifname, sa⟩, hi, hfilter, hlocal⟩
      exact ⟨sa, ⟨ifname, hi, hfilter⟩, hlocal⟩
    · rintro ⟨sa, ⟨ifname, hi, hfilter⟩, hlocal⟩
      exact ⟨(ifname, sa), hi, hfilter, hlocal⟩
  · refine husable.trans ⟨?_, ?_⟩
    · rintro (hfound | ⟨⟨ifname, sa⟩, hi, hfilter⟩)
      · cases hfound
      · exact ⟨sa, ifname, hi, hfilter⟩
    · rintro ⟨sa, ifname, hi, hfilter⟩
      exact .inr ⟨(ifname, sa), hi, hfilter⟩

end Box

/-- The handlers that scan the addresses before anything else. -/
def SysAct.scans : SysAct → Bool
  | .networkChanged _ | .pollFires _ | .settleFires _ => true
  | _ => false

/-- The handler runs with what the box and baresip's list have to say. -/
def Box.answers (b : Box) (laddrs : List Sa) (act : SysAct) : Bool :=
  act.env.all fun env =>
    if act.scans then
      decide (env.scanned = (b.scanAddresses laddrs).2) &&
        decide (env.localAddrs = (b.scanAddresses laddrs).1) &&
          decide (env.routable = b.scanUsable.routable) && decide (env.linklocal = b.scanUsable.linklocal)
    else decide (env.localAddrs = laddrs)

/-- The SDK on a box that may change between any two events, with baresip's list of addresses. -/
def roaming (g : Cfg) : Machine (Sys × List Sa) (SysAct × Box) SysOut where
  init p := (system g).init p.1 ∧ p.2.Nodup
  step p a :=
    if a.2.answers p.2 a.1 then
      ((system g).step p.1 a.1).map fun r =>
        ((r.1, if a.1.scans then (a.2.scanAddresses p.2).1 else p.2), r.2)
    else none

variable {g : Cfg} {p p' : Sys × List Sa} {t : Trace (SysAct × Box) SysOut} {act : SysAct} {b : Box}
  {os : List SysOut}

theorem roaming_step (h : (roaming g).step p (act, b) = some (p', os)) :
    b.answers p.2 act = true ∧ (system g).step p.1 act = some (p'.1, os) ∧
      p'.2 = if act.scans then (b.scanAddresses p.2).1 else p.2 := by
  simp only [roaming] at h
  split at h
  · rename_i hanswers
    obtain ⟨⟨s', os'⟩, hstep, heq⟩ := Option.map_eq_some_iff.mp h
    obtain ⟨rfl, rfl⟩ := Prod.mk.inj heq
    exact ⟨hanswers, hstep, rfl⟩
  · cases h

theorem roaming_run (hrun : (roaming g).Run Machine.Always p t) : p.1.Tidy ∧ p.2.Nodup := by
  refine hrun.stateInvariant (I := fun p => p.1.Tidy ∧ p.2.Nodup) ?_ ?_
  · rintro ⟨s, laddrs⟩ ⟨⟨now, up, curLaddr, rfl⟩, hnodup⟩
    exact ⟨⟨rfl, List.nodup_nil, by simp⟩, hnodup⟩
  · rintro ⟨s, laddrs⟩ ⟨act, b⟩ ⟨s', laddrs'⟩ os ⟨htidy, hnodup⟩ - hstep
    obtain ⟨-, hsys, hafter⟩ := roaming_step hstep
    obtain ⟨hen, rfl, -⟩ := system_step hsys
    have hidle : s.idle.Tidy := ⟨htidy.started, htidy.nodup, htidy.live⟩
    refine ⟨hidle.handle hen, ?_⟩
    rw [hafter]
    split
    · exact Box.nodup_scanAddresses hnodup
    · exact hnodup

/-- A step that moves the generation on settles the addresses. -/
theorem startsGeneration_of_gen_ne {s : Sys} (htidy : s.Tidy) (hgen : (s.idle.handle g act).nm.gen ≠ s.nm.gen) :
    ∃ env, act = .settleFires env ∧ s.startsGeneration env = true := by
  by_contra hnot
  by_cases hfires : ∃ env, act = .verifyFires env
  · obtain ⟨env, rfl⟩ := hfires
    have hstarted : ({ s.idle with nm.tmrVerify := none } : Sys).nm.started = true := htidy.started
    refine hgen ?_
    simp only [Sys.handle]
    rw [Sys.verifyHandler_of_started hstarted]
    rfl
  by_cases hclock : ∃ ms, act = .elapse ms
  · obtain ⟨ms, rfl⟩ := hclock
    exact hgen rfl
  refine hgen (Sys.spares_handle (s := s.idle) htidy.started htidy.live (fun ms heq => hclock ⟨ms, heq⟩)
    (fun env heq => hfires ⟨env, heq⟩) fun env heq => ?_).gen
  cases hstarts : s.startsGeneration env with
  | false => exact hstarts
  | true => exact absurd ⟨env, heq, hstarts⟩ hnot

/-- **A handover finds the list in step with the box.** Whatever the box did in the run before, when a new generation
begins, and the transports are bound again, baresip knows each address the box offers, none the box has lost, none
twice, and at least one. -/
theorem handover_on_known_addresses (hrun : (roaming g).Run Machine.Always p t) (hwilling : b.Willing)
    (hstep : (roaming g).step p (act, b) = some (p', os)) (hgen : p'.1.nm.gen ≠ p.1.nm.gen) :
    b.Agrees p'.2 ∧ p'.2.Nodup ∧ p'.2 ≠ [] := by
  obtain ⟨htidy, hnodup⟩ := roaming_run hrun
  obtain ⟨hanswers, hsys, hafter⟩ := roaming_step hstep
  obtain ⟨-, hs, -⟩ := system_step hsys
  rw [hs] at hgen
  obtain ⟨env, rfl, hstarts⟩ := startsGeneration_of_gen_ne htidy hgen
  simp only [Box.answers, SysAct.env, SysAct.scans, Option.all_some, if_true, Bool.and_eq_true,
    decide_eq_true_eq] at hanswers
  obtain ⟨⟨⟨hscanned, -⟩, hroutable⟩, hlinklocal⟩ := hanswers
  simp only [Sys.startsGeneration, Bool.and_eq_true, decide_eq_true_eq, Bool.or_eq_true] at hstarts
  obtain ⟨⟨⟨hzero, -⟩, hbind⟩, -⟩ := hstarts
  have hquiet : (b.scanAddresses p.2).2 = 0 := hscanned.symm.trans hzero
  have hlist : p'.2 = p.2 := by
    rw [hafter]
    exact Box.scan_of_zero hquiet
  have hagrees := Box.agrees_of_zero hwilling hquiet
  rw [hroutable, hlinklocal, (Box.scanUsable_spec b).2] at hbind
  obtain ⟨sa, hoffers⟩ := hbind
  rw [hlist]
  exact ⟨hagrees, hnodup, List.ne_nil_of_mem (hagrees.known sa hoffers)⟩

/-- The network of `calm` on a box with one address, which the scan has found new or not. -/
def NetEnv.onOne (scanned : Nat) : NetEnv :=
  { NetEnv.calm with scanned, localAddrs := [.v4 0xc0000201] }

/-- A new address is found, and after the debounce it is the one the transports are bound to. -/
theorem handover_on_known_addresses_new :
    ∃ p p' t os, (roaming configInit).Run Machine.Always p t ∧
      (roaming configInit).step p (.settleFires (.onOne 0), .ofCount 1) = some (p', os) ∧
        (Box.ofCount 1).Agrees p'.2 ∧ p'.2.Nodup ∧ p'.2 ≠ [] := by
  obtain ⟨p, t, hrun, hend⟩ := Machine.exists_run_of_exec (M := roaming configInit)
    (s := (Sys.justStarted configInit, [])) (fun _ _ => true) ⟨justStarted_init configInit, List.nodup_nil⟩
    [(.networkChanged (.onOne 1), .ofCount 1), (.elapse 1500, .ofCount 1)]
    (fun p _ => ((roaming configInit).step p (.settleFires (.onOne 0), .ofCount 1)).any
      fun r : (Sys × List Sa) × List SysOut => decide (r.1.1.nm.gen ≠ p.1.nm.gen))
    (by decide +kernel)
  obtain ⟨⟨p', os⟩, hstep, hgen⟩ := (Option.any_eq_true _ _).mp hend
  exact ⟨p, p', t, os, hrun.always, hstep,
    handover_on_known_addresses hrun.always ⟨fun _ => rfl, fun _ => rfl⟩ hstep (of_decide_eq_true hgen)⟩

end VoxSdk
