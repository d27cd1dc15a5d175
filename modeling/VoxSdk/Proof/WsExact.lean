import Mathlib.Data.List.Dedup
import VoxSdk.Proof.WsPins

/-!
# A table that is large enough

While the live accounts use no more servers than the table has slots, an account that is new to the table
finds a free slot, since the slots in use hold different servers and each of them has a live account. The
overflow is then never reached, and the pins are what the accounts have in common, whatever was created
and destroyed on the way.
-/

namespace VoxSdk

open Reactive

/-- What all of the strings are; the empty string when they differ, or there is none. -/
structure CommonOf (vs : List CStr) (pin : CStr) : Prop where
  agree : ∀ v ∈ vs, (∀ w ∈ vs, w = v) → pin = v
  differ : (¬∃ v ∈ vs, ∀ w ∈ vs, w = v) → pin = []

theorem CommonOf.congr {vs ws : List CStr} {pin : CStr} (h : CommonOf vs pin)
    (hmem : ∀ v, v ∈ vs ↔ v ∈ ws) : CommonOf ws pin := by
  constructor
  · intro v hv hall
    exact h.agree v ((hmem v).mpr hv) fun w hw => hall w ((hmem w).mp hw)
  · intro hnone
    apply h.differ
    rintro ⟨v, hv, hall⟩
    exact hnone ⟨v, (hmem v).mp hv, fun w hw => hall w ((hmem w).mpr hw)⟩

namespace WsRegistry

variable {r : WsRegistry} {k : WsServer}

theorem commonOf_agreed (get : WsServer → CStr) : CommonOf (r.entries.map get) (r.agreed get) := by
  unfold agreed
  cases r.entries with
  | nil => exact ⟨by simp, fun _ => rfl⟩
  | cons e es =>
      have hiff : (es.all fun e' => decide (get e' = get e)) = true ↔
          ∀ w ∈ (e :: es).map get, w = get e := by
        simp
      split
      · rename_i heq
        cases heq
      · rename_i e₀ es₀ heq
        obtain ⟨rfl, rfl⟩ := List.cons_eq_cons.mp heq
        split
        · rename_i hall
          have hsame := hiff.mp hall
          constructor
          · intro v hv _
            exact (hsame v hv).symm
          · intro hnone
            exact absurd ⟨get e, by simp, hsame⟩ hnone
        · rename_i hnot
          constructor
          · intro v hv hall
            refine absurd (hiff.mpr fun w hw => ?_) hnot
            exact (hall w hw).trans (hall (get e) (by simp)).symm
          · exact fun _ => rfl

/-- A table nobody was turned away from: one slot for each server in use, and the pins derived from
them. -/
structure Clean (r : WsRegistry) : Prop where
  slots : r.srvv.length = wsMaxServers
  distinct : r.entries.Nodup
  trusted : r.srvOverflow = false
  server : r.server = strNcpy 288 (r.agreed WsServer.origin)
  path : r.path = strNcpy 256 (r.agreed WsServer.path)

theorem clean_recompute (hslots : r.srvv.length = wsMaxServers) (hdistinct : r.entries.Nodup)
    (htrusted : r.srvOverflow = false) : r.recompute.Clean := by
  refine ⟨hslots, hdistinct, ?_, ?_, rfl⟩
  · simp [recompute, htrusted]
  · simp only [recompute, htrusted, Bool.false_eq_true, if_false]
    rfl

theorem clean_zero : zero.Clean := by
  refine ⟨rfl, ?_, rfl, ?_, ?_⟩
  · decide
  · decide
  · decide

theorem Clean.claim (h : r.Clean) (hslot : (r.found k || r.hasFreeSlot) = true)
    (horigin : k.origin.length < 288) (hpath : k.path.length < 256) : (r.claim k).Clean := by
  unfold WsRegistry.claim
  split
  · refine clean_recompute ?_ ?_ h.trusted
    · exact length_updateFirst.trans h.slots
    · change (keysOf (updateFirst (Slot.isFor k) Slot.retain r.srvv)).Nodup
      rw [keysOf_retain]
      exact h.distinct
  · rename_i hnew
    have hfree : r.hasFreeSlot = true := (Bool.or_eq_true_iff.mp hslot).resolve_left hnew
    have hkey : { origin := strNcpy 288 k.origin, path := strNcpy 256 k.path } = k :=
      congrArg₂ WsServer.mk (strNcpy_of_length_lt horigin) (strNcpy_of_length_lt hpath)
    rw [if_neg (by simp [hfree]), hkey]
    refine clean_recompute ?_ ?_ h.trusted
    · exact length_updateFirst.trans h.slots
    · have hperm := keysOf_take (k := k) hfree (r.srvSeq + 1)
      apply hperm.nodup_iff.mpr
      apply List.nodup_cons.mpr
      refine ⟨fun hmem => hnew ?_, h.distinct⟩
      exact any_isFor.trans (decide_eq_true (mem_keysOf.mp hmem))

theorem Clean.unclaim (h : r.Clean) : (r.unclaim k).Clean := by
  unfold WsRegistry.unclaim
  split
  · refine clean_recompute ?_ ?_ h.trusted
    · exact length_updateFirst.trans h.slots
    · exact List.Nodup.sublist (keysOf_release rfl) h.distinct
  · exact h

end WsRegistry

namespace WsSys

variable {s : WsSys}

/-- The claims of the live accounts, one for each. -/
def claimed (s : WsSys) : List WsServer := (s.live.filter WsAccount.hasServer).map WsAccount.key

/-- The table counts exactly the live accounts, one slot a server, and the pins are what they have in
common. -/
structure Exact (s : WsSys) : Prop where
  counts : ∀ k, refsOf k s.registry.srvv = s.claimed.count k
  distinct : s.registry.entries.Nodup
  server : CommonOf (s.claimed.map WsServer.origin) s.registry.server
  path : CommonOf (s.claimed.map WsServer.path) s.registry.path

theorem count_claimed (k : WsServer) : s.claimed.count k = s.live.countP (WsAccount.claims k) := by
  unfold claimed List.count
  rw [List.countP_map, List.countP_filter]
  apply List.countP_congr
  intro a _
  simp [WsAccount.claims, and_comm]

theorem mem_claimed {k : WsServer} (hrecorded : s.Recorded) :
    k ∈ s.registry.entries ↔ k ∈ s.claimed := by
  rw [← List.count_pos_iff (l := s.claimed), count_claimed, ← hrecorded.counts]
  exact mem_keysOf

theorem Recorded.exact (hrecorded : s.Recorded) (hclean : s.registry.Clean) : s.Exact := by
  have hmem (get : WsServer → CStr) (v : CStr) :
      v ∈ s.registry.entries.map get ↔ v ∈ s.claimed.map get := by
    simp only [List.mem_map, mem_claimed hrecorded]
  have hagreed (get : WsServer → CStr) : CommonOf (s.claimed.map get) (s.registry.agreed get) :=
    (WsRegistry.commonOf_agreed get).congr (hmem get)
  -- what the entries agree on is a field of an account, and fits where it is copied to
  have hfits (get : WsServer → CStr) (size : Nat) (hpos : 0 < size)
      (hsize : ∀ a : WsAccount, (get a.key).length < size) :
      strNcpy size (s.registry.agreed get) = s.registry.agreed get := by
    apply strNcpy_of_length_lt
    by_cases hsome : ∃ v ∈ s.claimed.map get, ∀ w ∈ s.claimed.map get, w = v
    · obtain ⟨v, hv, hall⟩ := hsome
      rw [(hagreed get).agree v hv hall]
      obtain ⟨k, hk, rfl⟩ := List.mem_map.mp hv
      obtain ⟨a, -, rfl⟩ := List.mem_map.mp hk
      exact hsize a
    · rw [(hagreed get).differ hsome]
      exact hpos
  refine ⟨fun k => ?_, hclean.distinct, ?_, ?_⟩
  · rw [hrecorded.counts, count_claimed]
  · rw [hclean.server, hfits _ _ (by decide) WsAccount.length_origin_lt]
    exact hagreed _
  · rw [hclean.path, hfits _ _ (by decide) fun a => a.path_fits]
    exact hagreed _

/-- The steps after which the live accounts use no more servers than the table has slots. -/
def withinTable (s : WsSys) (act : WsAct) : Bool :=
  decide ((s.handle act).claimed.dedup.length ≤ wsMaxServers)

/-- With room for all of them, a new server finds a slot. -/
theorem keepsRecorded_of_withinTable (hrecorded : s.Recorded) (hclean : s.registry.Clean)
    {act : WsAct} (hwithin : s.withinTable act = true) : s.keepsRecorded act = true := by
  cases act with
  | destroy id => rfl
  | create id transport host port path =>
      have hlen := of_decide_eq_true hwithin
      simp only [handle] at hlen
      simp only [keepsRecorded]
      generalize WsAccount.create id transport host port path = a at hlen ⊢
      by_contra hfull
      simp only [Bool.not_eq_true, Bool.or_eq_false_iff, Bool.not_eq_false'] at hfull
      obtain ⟨⟨hserver, hnew⟩, hnofree⟩ := hfull
      -- the new server and those in the slots are all different, and there is one too many of them
      have hnotin : a.key ∉ s.registry.entries := by
        intro hmem
        have hfound : s.registry.found a.key = true :=
          any_isFor.trans (decide_eq_true (mem_keysOf.mp hmem))
        exact absurd (hnew.symm.trans hfound) (by decide)
      have hnodup : (a.key :: s.registry.entries).Nodup :=
        List.nodup_cons.mpr ⟨hnotin, hclean.distinct⟩
      have hsub : a.key :: s.registry.entries ⊆ (a.key :: s.claimed).dedup := by
        intro k hk
        rw [List.mem_dedup]
        rcases List.mem_cons.mp hk with rfl | hk
        · exact List.mem_cons_self
        · exact List.mem_cons_of_mem _ ((mem_claimed hrecorded).mp hk)
      have hcount : s.registry.entries.length = wsMaxServers :=
        (length_keysOf hnofree).trans hclean.slots
      have hle := (List.subperm_of_subset hnodup hsub).length_le
      have hclaimed (registry : WsRegistry) :
          WsSys.claimed { live := a :: s.live, registry } = a.key :: s.claimed := by
        simp [claimed, hserver]
      rw [hclaimed] at hlen
      rw [List.length_cons, hcount] at hle
      omega

theorem clean_step {s' : WsSys} {act : WsAct} {os : List Unit} (h : s.registry.Clean)
    (hkeeps : s.keepsRecorded act = true) (hstep : wsSystem.step s act = some (s', os)) :
    s'.registry.Clean := by
  cases (turn_of_step hstep).2 with
  | created ha hserver => exact h
  | claimed ha hserver =>
      subst ha
      simp only [keepsRecorded, hserver, Bool.not_true, Bool.false_or] at hkeeps
      exact h.claim hkeeps (WsAccount.length_origin_lt _) (WsAccount.path_fits _)
  | unknown => exact h
  | destroyed ha hserver => exact h
  | unclaimed ha hserver => exact h.unclaim

/-- **The registry is exact.** While the live accounts use at most `VOX_WS_MAX_SERVERS` servers, the
reference counts are the live accounts', and the pinned origin and path are those the accounts have in
common, or none. -/
theorem registry_exact {s : WsSys} {t : Trace WsAct Unit}
    (hrun : wsSystem.Run (fun s act => s.withinTable act) s t) : s.Exact := by
  have hboth : s.Recorded ∧ s.registry.Clean := by
    refine hrun.stateInvariant (I := fun s => s.Recorded ∧ s.registry.Clean) ?_ ?_
    · rintro _ rfl
      exact ⟨⟨fun k => by simp [WsRegistry.zero, refsOf, Slot.refsFor, WsServer.none], by simp⟩,
        WsRegistry.clean_zero⟩
    · rintro s act s' os ⟨hrecorded, hclean⟩ hwithin hstep
      have hkeeps := keepsRecorded_of_withinTable hrecorded hclean hwithin
      exact ⟨recorded_step hrecorded hkeeps hstep, clean_step hclean hkeeps hstep⟩
  exact hboth.1.exact hboth.2

theorem registry_exact_returns :
    ∃ s : WsSys, s.Exact ∧ s.live.length = 1 ∧
      s.registry.server = "wss://b.example.org:443".toList := by
  obtain ⟨s, t, hrun, hend⟩ := Machine.exists_run_of_exec (M := wsSystem) withinTable rfl
    [.create 1 .wss "a.example.org".toList 443 "/ws".toList,
      .create 2 .wss "b.example.org".toList 443 "/ws".toList, .destroy 1]
    (fun s _ => decide (s.live.length = 1) &&
      decide (s.registry.server = "wss://b.example.org:443".toList))
    (by decide +kernel)
  simp only [Bool.and_eq_true, decide_eq_true_eq] at hend
  exact ⟨s, registry_exact hrun, hend⟩

end WsSys

end VoxSdk
