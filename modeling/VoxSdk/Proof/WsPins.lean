import VoxSdk.WsPath

/-!
# The pins and the accounts

As long as the table has a slot for every server, its counts are the accounts' claims, and a pin holds for
every account there is. An account that finds the table full is recorded nowhere: the overflow flag
remembers it only until the table is empty, and the path is pinned without it all along.
-/

namespace VoxSdk

open Reactive

theorem strNcpy_of_length_lt {size : Nat} {s : CStr} (h : s.length < size) : strNcpy size s = s :=
  List.take_of_length_le (by omega)

/-! ### The parts of an origin -/

def wsScheme (transport : Transport) : CStr := if transport = .wss then "wss".toList else "ws".toList

/-- The host as it is written before a port. -/
def wsHostText (host : CStr) : CStr := if ':' ∈ host then '[' :: host ++ [']'] else host

theorem wsOrigin_eq (transport : Transport) (host : CStr) (port : Nat) :
    wsOrigin transport host port =
      wsScheme transport ++ "://".toList ++ (wsHostText host ++ ':' :: (Nat.repr port).toList) :=
  List.append_assoc _ _ _

/-- The buffer for the origin is large enough. -/
theorem length_wsOrigin_lt {transport : Transport} {host : CStr} {port : Nat}
    (hhost : host.length < 256) (hport : port < 2 ^ 16) :
    (wsOrigin transport host port).length < 288 := by
  have hdigits : (Nat.repr port).toList.length ≤ 5 := by
    rw [String.length_toList]
    exact (Nat.length_repr_le_iff (by decide)).mpr (by omega)
  simp only [wsOrigin]
  generalize (Nat.repr port).toList = digits at hdigits ⊢
  split <;> split <;> simp <;> omega

namespace WsAccount

theorem hasServer_eq_true (a : WsAccount) :
    a.hasServer = true ↔ ¬(a.wsHost = [] ∨ a.wsPort = 0) := by
  simp [hasServer]

theorem hasServer_eq_false (a : WsAccount) :
    a.hasServer = false ↔ a.wsHost = [] ∨ a.wsPort = 0 := by
  rw [← Bool.not_eq_true, hasServer_eq_true, not_not]

/-- The account is a holder of the server. -/
def claims (k : WsServer) (a : WsAccount) : Bool := a.hasServer && decide (a.key = k)

theorem claims_key (a : WsAccount) (h : a.hasServer = true) : a.claims a.key = true := by
  simp [claims, h]

theorem length_origin_lt (a : WsAccount) : a.origin.length < 288 :=
  length_wsOrigin_lt a.host_fits a.port_fits

theorem copied_key (a : WsAccount) :
    ({ origin := strNcpy 288 a.key.origin, path := strNcpy 256 a.key.path } : WsServer) = a.key :=
  congrArg₂ WsServer.mk (strNcpy_of_length_lt a.length_origin_lt) (strNcpy_of_length_lt a.path_fits)

end WsAccount

/-! ### Steps -/

namespace WsSys

/-- Everything a step can do: only an account with a server claims it, or gives it up. -/
inductive Turn (s : WsSys) : WsAct → WsSys → Prop where
  | created {id : Nat} {transport : Transport} {host : CStr} {port : Nat} {path : CStr} {a : WsAccount} :
      WsAccount.create id transport host port path = a → a.hasServer = false →
      Turn s (.create id transport host port path) { live := a :: s.live, registry := s.registry }
  | claimed {id : Nat} {transport : Transport} {host : CStr} {port : Nat} {path : CStr} {a : WsAccount} :
      WsAccount.create id transport host port path = a → a.hasServer = true →
      Turn s (.create id transport host port path) { live := a :: s.live, registry := s.registry.claim a.key }
  | unknown {id : Nat} : s.live.find? (fun a => decide (a.id = id)) = none → Turn s (.destroy id) s
  | destroyed {id : Nat} {a : WsAccount} :
      s.live.find? (fun a => decide (a.id = id)) = some a → a.hasServer = false →
      Turn s (.destroy id) { live := s.live.eraseP fun a => decide (a.id = id), registry := s.registry }
  | unclaimed {id : Nat} {a : WsAccount} :
      s.live.find? (fun a => decide (a.id = id)) = some a → a.hasServer = true →
      Turn s (.destroy id)
        { live := s.live.eraseP fun a => decide (a.id = id), registry := s.registry.unclaim a.key }

theorem turn_handle (s : WsSys) (act : WsAct) : s.Turn act (s.handle act) := by
  cases act with
  | create id transport host port path =>
      simp only [handle]
      generalize ha : WsAccount.create id transport host port path = a
      unfold WsRegistry.setServer
      cases hserver : a.hasServer with
      | false =>
          rw [if_pos (a.hasServer_eq_false.mp hserver)]
          exact .created ha hserver
      | true =>
          rw [if_neg (a.hasServer_eq_true.mp hserver)]
          exact .claimed ha hserver
  | destroy id =>
      simp only [handle]
      split
      · rename_i hnone
        exact .unknown hnone
      · rename_i a ha
        unfold WsRegistry.unsetServer
        cases hserver : a.hasServer with
        | false =>
            rw [if_pos (a.hasServer_eq_false.mp hserver), ite_self]
            exact .destroyed ha hserver
        | true =>
            have hnot := a.hasServer_eq_true.mp hserver
            rw [if_neg hnot, if_neg fun hport => hnot (.inr hport)]
            exact .unclaimed ha hserver

theorem turn_of_step {s s' : WsSys} {act : WsAct} {os : List Unit}
    (hstep : wsSystem.step s act = some (s', os)) : s.enabled act = true ∧ s.Turn act s' := by
  obtain ⟨hen, heq⟩ := Option.ite_none_right_eq_some.mp hstep
  cases heq
  exact ⟨hen, s.turn_handle act⟩

end WsSys

namespace WsRegistry

variable {r : WsRegistry} {get : WsServer → CStr} {e : WsServer}

theorem eq_agreed (h : r.agreed get ≠ []) (he : e ∈ r.entries) : get e = r.agreed get := by
  unfold agreed at h ⊢
  split at h
  · rename_i hnone
    rw [hnone] at he
    cases he
  · rename_i first rest hentries
    rw [hentries] at he
    split at h
    · rename_i hall
      rw [if_pos hall]
      rcases List.mem_cons.mp he with rfl | hrest
      · rfl
      · exact of_decide_eq_true (List.all_eq_true.mp hall e hrest)
    · exact absurd rfl h

theorem exists_agreed (h : r.agreed get ≠ []) : ∃ e ∈ r.entries, get e = r.agreed get := by
  have hsome : r.entries ≠ [] := fun hnone => h (by rw [agreed, hnone])
  obtain ⟨e, he⟩ := List.exists_mem_of_ne_nil _ hsome
  exact ⟨e, he, eq_agreed h he⟩

/-- A claim leaves a table of the servers that were in it, and the claimed one. -/
theorem exists_claim (r : WsRegistry) (k : WsServer) :
    ∃ r' : WsRegistry, r.claim k = r'.recompute ∧ r'.srvv.length = r.srvv.length ∧ ∀ e ∈ r'.entries,
      e ∈ r.entries ∨ e = { origin := strNcpy 288 k.origin, path := strNcpy 256 k.path } := by
  unfold claim
  split
  · refine ⟨_, rfl, length_updateFirst, fun e he => .inl ?_⟩
    exact (congrArg (e ∈ ·) keysOf_retain).mp he
  · split
    · exact ⟨_, rfl, rfl, fun e he => .inl he⟩
    · rename_i hfree
      have hfree : r.hasFreeSlot = true := by simpa using hfree
      refine ⟨_, rfl, length_updateFirst, fun e he => ?_⟩
      exact (List.mem_cons.mp ((keysOf_take hfree (r.srvSeq + 1)).mem_iff.mp he)).symm

theorem exists_unclaim (r : WsRegistry) (k : WsServer) :
    r.unclaim k = r ∨
      ∃ r' : WsRegistry, r.unclaim k = r'.recompute ∧ r'.srvv.length = r.srvv.length ∧
        ∀ e ∈ r'.entries, e ∈ r.entries := by
  unfold unclaim
  split
  · exact .inr ⟨_, rfl, length_updateFirst, fun e he => (keysOf_release (k := k) rfl).subset he⟩
  · exact .inl rfl

theorem mem_entries {k : WsServer} (h : 0 < refsOf k r.srvv) : k ∈ r.entries := by
  obtain ⟨e, he, hused, rfl⟩ := exists_of_refsOf_pos h
  exact List.mem_map.mpr ⟨e, List.mem_filter.mpr ⟨he, by simp [hused]⟩, rfl⟩

/-- The pins say what the entry says. -/
theorem recompute_pins (he : e ∈ r.entries) (horigin : e.origin.length < 288)
    (hpath : e.path.length < 256) :
    (r.recompute.server ≠ [] → e.origin = r.recompute.server) ∧
      (r.recompute.path ≠ [] → e.path = r.recompute.path) := by
  simp only [recompute]
  constructor
  · intro hpin
    split at hpin
    · exact absurd rfl hpin
    · rename_i hoverflow
      have hagreed : r.agreed WsServer.origin ≠ [] := fun h => hpin (by rw [h]; rfl)
      rw [if_neg hoverflow, ← eq_agreed hagreed he, strNcpy_of_length_lt horigin]
  · intro hpin
    have hagreed : r.agreed WsServer.path ≠ [] := fun h => hpin (by rw [h]; rfl)
    rw [← eq_agreed hagreed he, strNcpy_of_length_lt hpath]

end WsRegistry

namespace WsSys

/-- The pins hold for the account. -/
def PinnedTo (r : WsRegistry) (a : WsAccount) : Prop :=
  (r.server ≠ [] → a.origin = r.server) ∧ (r.path ≠ [] → a.wsPinPath = r.path)

/-- The table counts the claims of the live accounts. -/
structure Recorded (s : WsSys) : Prop where
  counts : ∀ k, refsOf k s.registry.srvv = s.live.countP (WsAccount.claims k)
  pins : ∀ a ∈ s.live, a.hasServer = true → PinnedTo s.registry a

variable {s : WsSys}

/-- Pins derived from the right counts are right. -/
theorem recorded_recompute {live : List WsAccount} {r : WsRegistry}
    (hcounts : ∀ k, refsOf k r.srvv = live.countP (WsAccount.claims k)) :
    Recorded { live, registry := r.recompute } := by
  refine ⟨hcounts, fun a ha hserver => ?_⟩
  have hpos : 0 < refsOf a.key r.srvv := by
    rw [hcounts]
    exact List.countP_pos_iff.mpr ⟨a, ha, a.claims_key hserver⟩
  exact WsRegistry.recompute_pins (WsRegistry.mem_entries hpos) a.length_origin_lt a.path_fits

/-- The steps that find a slot. -/
def keepsRecorded (s : WsSys) : WsAct → Bool
  | .create id transport host port path =>
      let a := WsAccount.create id transport host port path
      !a.hasServer || s.registry.found a.key || s.registry.hasFreeSlot
  | .destroy _ => true

theorem Recorded.created (h : s.Recorded) {a : WsAccount} (hserver : a.hasServer = false) :
    Recorded { live := a :: s.live, registry := s.registry } := by
  refine ⟨fun k => ?_, fun b hb hb' => ?_⟩
  · rw [List.countP_cons, h.counts]
    simp [WsAccount.claims, hserver]
  · rcases List.mem_cons.mp hb with rfl | hb
    · exact absurd (hserver.symm.trans hb') (by decide)
    · exact h.pins b hb hb'

theorem Recorded.claimed (h : s.Recorded) {a : WsAccount} (hserver : a.hasServer = true)
    (hslot : (s.registry.found a.key || s.registry.hasFreeSlot) = true) :
    Recorded { live := a :: s.live, registry := s.registry.claim a.key } := by
  have hcons (k : WsServer) : (a :: s.live).countP (WsAccount.claims k) =
      refsOf k s.registry.srvv + if a.key = k then 1 else 0 := by
    rw [List.countP_cons, h.counts]
    simp [WsAccount.claims, hserver]
  unfold WsRegistry.claim
  split
  · rename_i hfound
    refine recorded_recompute fun k => ?_
    rw [hcons]
    exact refsOf_retain hfound k
  · rename_i hnew
    have hfree := (Bool.or_eq_true_iff.mp hslot).resolve_left hnew
    rw [if_neg (by simp [hfree]), a.copied_key]
    refine recorded_recompute fun k => ?_
    rw [hcons]
    exact refsOf_take hfree _ k

theorem Recorded.destroyed (h : s.Recorded) {test : WsAccount → Bool} {a : WsAccount}
    (ha : s.live.find? test = some a) (hserver : a.hasServer = false) :
    Recorded { live := s.live.eraseP test, registry := s.registry } := by
  refine ⟨fun k => ?_, fun b hb hb' => h.pins b (List.mem_of_mem_eraseP hb) hb'⟩
  have herase := countP_eraseP_add (p := WsAccount.claims k) ha
  rw [h.counts]
  simpa [WsAccount.claims, hserver] using herase.symm

/-- An account that goes takes its claim with it. -/
theorem Recorded.unclaimed (h : s.Recorded) {test : WsAccount → Bool} {a : WsAccount}
    (ha : s.live.find? test = some a) (hserver : a.hasServer = true) :
    Recorded { live := s.live.eraseP test, registry := s.registry.unclaim a.key } := by
  have hfound : s.registry.found a.key = true := by
    refine any_isFor.trans (decide_eq_true ?_)
    rw [h.counts]
    exact List.countP_pos_iff.mpr ⟨a, List.mem_of_find?_eq_some ha, a.claims_key hserver⟩
  rw [WsRegistry.unclaim, if_pos hfound]
  refine recorded_recompute fun k => ?_
  have hnone : WsServer.none.isFree = true := rfl
  have hrelease := refsOf_release hnone hfound k
  have herase := countP_eraseP_add (p := WsAccount.claims k) ha
  simp only [WsAccount.claims, hserver, Bool.true_and, decide_eq_true_eq] at herase
  rw [h.counts] at hrelease
  exact Nat.add_right_cancel (hrelease.trans herase.symm)

/-- Whom `websock_connect` dials, for an account: the URI it is given, or the account's own server and
path, or its path on the server of the URI; or, with nothing pinned, somebody's server in place of a dead
one. -/
def Dialled (isLocal : CStr → Bool) (r : WsRegistry) (a : WsAccount) (uri : CStr) : Prop :=
  r.useUri isLocal uri = uri ∨
    r.useUri isLocal uri = a.origin ++ ['/'] ∨
    r.useUri isLocal uri = a.origin ++ a.wsPinPath ∨
    r.useUri isLocal uri = uri.dropLast ++ a.wsPinPath ∨
    (r.server = [] ∧ r.uriIsDead isLocal uri = true)

theorem PinnedTo.dialled {isLocal : CStr → Bool} {r : WsRegistry} {a : WsAccount}
    (h : PinnedTo r a) (uri : CStr) : Dialled isLocal r a uri := by
  have hpatched (text : CStr) : WsRegistry.patched uri text = uri ∨
      WsRegistry.patched uri text = text := by
    unfold WsRegistry.patched
    split
    · exact .inr rfl
    · exact .inl rfl
  by_cases hpin : r.server ≠ []
  · have huse : r.useUri isLocal uri =
        WsRegistry.patched uri (r.server ++ WsRegistry.pathOrRoot r.path) := if_pos hpin
    rcases hpatched (r.server ++ WsRegistry.pathOrRoot r.path) with hsame | htext
    · exact .inl (huse.trans hsame)
    · rw [Dialled, huse, htext, h.1 hpin]
      by_cases hpath : r.path = []
      · exact .inr (.inl (by rw [hpath]; rfl))
      · rw [h.2 hpath]
        exact .inr (.inr (.inl (by rw [WsRegistry.pathOrRoot, if_neg hpath])))
  · by_cases hdead : r.uriIsDead isLocal uri = true
    · exact .inr (.inr (.inr (.inr ⟨not_not.mp hpin, hdead⟩)))
    · have huse : r.useUri isLocal uri =
          if r.path ≠ [] ∧ uri.getLast? = some '/' then WsRegistry.patched uri (uri.dropLast ++ r.path)
          else uri := by
        rw [WsRegistry.useUri, if_neg hpin, if_neg hdead]
      by_cases hswap : r.path ≠ [] ∧ uri.getLast? = some '/'
      · rw [Dialled, huse, if_pos hswap, ← h.2 hswap.1]
        rcases hpatched (uri.dropLast ++ a.wsPinPath) with hsame | htext
        · exact .inl hsame
        · exact .inr (.inr (.inr (.inl htext)))
      · exact .inl (huse.trans (if_neg hswap))

theorem recorded_step {s' : WsSys} {act : WsAct} {os : List Unit} (h : s.Recorded)
    (hkeeps : s.keepsRecorded act = true) (hstep : wsSystem.step s act = some (s', os)) :
    s'.Recorded := by
  cases (turn_of_step hstep).2 with
  | created ha hserver => exact h.created hserver
  | claimed ha hserver =>
      subst ha
      simp only [keepsRecorded, hserver, Bool.not_true, Bool.false_or] at hkeeps
      exact h.claimed hserver hkeeps
  | unknown => exact h
  | destroyed ha hserver => exact h.destroyed ha hserver
  | unclaimed ha hserver => exact h.unclaimed ha hserver

/-- **The pins are sound.** In a run in which every account finds its server in the table or a slot free
for it, a pinned origin or path is that of every live account with a server, and no connect is sent to
another account's server or path, except in place of a server nobody could reach. -/
theorem ws_pins_sound (isLocal : CStr → Bool) {s : WsSys} {t : Trace WsAct Unit}
    (hrun : wsSystem.Run (fun s act => s.keepsRecorded act) s t) :
    ∀ a ∈ s.live, a.hasServer = true →
      (s.registry.server ≠ [] → a.origin = s.registry.server) ∧
      (s.registry.path ≠ [] → a.wsPinPath = s.registry.path) ∧
      ∀ uri, Dialled isLocal s.registry a uri := by
  have hrecorded : s.Recorded := by
    refine hrun.stateInvariant ?_ fun s act s' os hs hkeeps hstep => recorded_step hs hkeeps hstep
    rintro _ rfl
    exact ⟨fun k => by simp [WsRegistry.zero, refsOf, Slot.refsFor, WsServer.none], by simp⟩
  intro a ha hserver
  have hpinned := hrecorded.pins a ha hserver
  exact ⟨hpinned.1, hpinned.2, hpinned.dialled⟩

/-- Once the second of two accounts is gone, the first is pinned to its server and path. -/
theorem ws_pins_sound_single :
    ∃ (s : WsSys) (a : WsAccount), a ∈ s.live ∧ s.registry.server ≠ [] ∧
      a.origin = s.registry.server ∧ a.wsPinPath = s.registry.path ∧
      Dialled (fun host => decide (host = "127.0.0.1".toList)) s.registry a
        "wss://127.0.0.1:8088/".toList := by
  obtain ⟨s, t, hrun, hend⟩ := Machine.exists_run_of_exec (M := wsSystem) keepsRecorded rfl
    [.create 1 .wss "a.example.org".toList 443 "/ws".toList,
      .create 2 .wss "b.example.org".toList 443 "/ws".toList, .destroy 2]
    (fun s _ => decide (s.registry.server ≠ []) && decide (s.registry.path ≠ []) &&
      s.live.any WsAccount.hasServer)
    (by decide +kernel)
  simp only [Bool.and_eq_true, decide_eq_true_eq, List.any_eq_true] at hend
  obtain ⟨⟨hserver, hpath⟩, a, ha, hhas⟩ := hend
  obtain ⟨horigin, hsame, hdialled⟩ := ws_pins_sound _ hrun a ha hhas
  exact ⟨s, a, ha, hserver, horigin hserver, hsame hpath, hdialled _⟩

/-- Five servers, of which the first four go: the table is empty and the overflow forgotten, and the next
account is pinned with the fifth still there. -/
theorem ws_pins_unrecorded :
    ¬ ∀ (s : WsSys) (t : Trace WsAct Unit), wsSystem.Run Machine.Always s t →
      ∀ a ∈ s.live, a.hasServer = true →
        (s.registry.server ≠ [] → a.origin = s.registry.server) ∧
        (s.registry.path ≠ [] → a.wsPinPath = s.registry.path) := by
  intro h
  obtain ⟨s, t, hrun, hend⟩ := Machine.exists_run_of_exec (M := wsSystem) (fun _ _ => true) rfl
    [.create 1 .wss "a.example.org".toList 443 [], .create 2 .wss "b.example.org".toList 443 [],
      .create 3 .wss "c.example.org".toList 443 [], .create 4 .wss "d.example.org".toList 443 [],
      .create 5 .wss "e.example.org".toList 443 [], .destroy 1, .destroy 2, .destroy 3, .destroy 4,
      .create 6 .wss "a.example.org".toList 443 []]
    (fun s _ => decide (s.registry.server ≠ []) && s.live.any fun a =>
      a.hasServer && decide (a.origin ≠ s.registry.server))
    (by decide +kernel)
  simp only [Bool.and_eq_true, decide_eq_true_eq, List.any_eq_true] at hend
  obtain ⟨hserver, a, ha, hhas, hother⟩ := hend
  exact hother ((h s t hrun.always a ha hhas).1 hserver)

end WsSys

end VoxSdk
