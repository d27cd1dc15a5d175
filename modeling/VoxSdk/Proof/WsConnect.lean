import VoxSdk.Proof.OutboundUri
import VoxSdk.Proof.WsExact

/-!
# Which server a connect reaches

The pins are printed into 512 bytes, with a host of up to 255 characters and a path of as many; what does not
fit is silently not used, and the connect goes where libre would have sent it. And an overflow is forgotten as
soon as the table is empty, whoever is left outside it.
-/

namespace VoxSdk

open Reactive Text

/-! ### What libre passes -/

/-- `scheme://host:port/`, the host an address as libre prints it, an IPv6 address in brackets. -/
structure ConnectUri where
  transport : Transport
  host : CStr
  port : Nat
  host_ne : host ≠ []
  host_fits : host.length < 256
  host_wf : ∀ c ∈ host, c ≠ '/' ∧ c ≠ '?' ∧ c ≠ '[' ∧ c ≠ ']'
  port_fits : port < 2 ^ 16

namespace ConnectUri

variable (u : ConnectUri)

def origin : CStr := wsOrigin u.transport u.host u.port

def text : CStr := u.origin ++ ['/']

/-- A loopback or unspecified address that is the server of no live account. -/
def IsDead (isLocal : CStr → Bool) (s : WsSys) : Prop :=
  (u.host.map Char.toLower = "localhost".toList ∨ isLocal u.host = true) ∧
    ∀ a ∈ s.live, a.hasServer = true → a.origin ≠ u.origin

def authority : CStr := wsHostText u.host ++ ':' :: (Nat.repr u.port).toList

variable {u}

theorem origin_eq : u.origin = wsScheme u.transport ++ "://".toList ++ u.authority :=
  wsOrigin_eq u.transport u.host u.port

theorem length_origin_lt : u.origin.length < 288 := length_wsOrigin_lt u.host_fits u.port_fits

theorem length_text_lt : u.text.length < 512 := by
  have horigin := u.length_origin_lt
  rw [text, List.length_append, List.length_singleton]
  omega

theorem dropLast_text : u.text.dropLast = u.origin := List.dropLast_concat

theorem notMem_host {c : Char} (hc : c = '/' ∨ c = '?' ∨ c = '[' ∨ c = ']') : c ∉ u.host := by
  intro hmem
  obtain ⟨h₁, h₂, h₃, h₄⟩ := u.host_wf c hmem
  rcases hc with rfl | rfl | rfl | rfl
  · exact h₁ rfl
  · exact h₂ rfl
  · exact h₃ rfl
  · exact h₄ rfl

theorem takeWhile_authority :
    (u.authority ++ ['/']).takeWhile (fun c => decide (c ≠ '/') && decide (c ≠ '?')) = u.authority := by
  rw [takeWhile_append_stop (by decide)]
  refine List.takeWhile_eq_self_iff.mpr fun c hc => ?_
  have hne (d : Char) (hd : d = '/' ∨ d = '?') : d ∉ u.authority := by
    have hhost : d ∉ u.host := notMem_host (hd.imp_right Or.inl)
    have hdigits : d ∉ (Nat.repr u.port).toList := by
      rcases hd with rfl | rfl <;> exact notMem_repr (by decide) _
    have hcolon : d ≠ ':' := by
      rcases hd with rfl | rfl <;> decide
    have hbracket : d ≠ '[' ∧ d ≠ ']' := by
      rcases hd with rfl | rfl <;> decide
    unfold authority wsHostText
    generalize (Nat.repr u.port).toList = digits at hdigits
    split <;> simp [hhost, hdigits, hcolon, hbracket]
  have hslash : c ≠ '/' := fun h => hne '/' (Or.inl rfl) (h ▸ hc)
  have hquery : c ≠ '?' := fun h => hne '?' (Or.inr rfl) (h ▸ hc)
  simp [hslash, hquery]

theorem splitScheme_text : WsRegistry.splitScheme u.text = some (wsScheme u.transport, u.authority ++ ['/']) := by
  rw [text, origin_eq, List.append_assoc]
  generalize u.authority ++ ['/'] = rest
  unfold wsScheme
  split <;> rfl

theorem uriOrigin_text : WsRegistry.uriOrigin u.text = some (wsScheme u.transport, u.authority) := by
  have hlen := u.length_origin_lt
  have hsep : "://".toList.length = 3 := by decide
  rw [origin_eq, List.length_append, List.length_append, hsep] at hlen
  unfold WsRegistry.uriOrigin
  rw [splitScheme_text]
  simp only [takeWhile_authority]
  exact if_pos hlen

theorem authorityHost_authority : WsRegistry.authorityHost u.authority = u.host := by
  have hdigits : ':' ∉ (Nat.repr u.port).toList := notMem_repr (by decide) u.port
  unfold authority wsHostText
  generalize (Nat.repr u.port).toList = digits at hdigits
  by_cases haddr : ':' ∈ u.host
  · have htext : '[' :: u.host ++ [']'] ++ ':' :: digits = '[' :: (u.host ++ ']' :: ':' :: digits) :=
      List.append_assoc _ _ _
    rw [if_pos haddr, htext]
    exact upTo_append (notMem_host (by simp))
  · rw [if_neg haddr]
    unfold WsRegistry.authorityHost
    split
    · rename_i rest heq
      cases hhost : u.host with
      | nil => exact absurd hhost u.host_ne
      | cons c cs =>
          rw [hhost, List.cons_append] at heq
          have hopen : '[' ∉ u.host := notMem_host (by simp)
          exact absurd ((List.cons.inj heq).1 ▸ hhost ▸ List.mem_cons_self) hopen
    · rw [if_pos (List.mem_append_right _ List.mem_cons_self)]
      exact upToLast_append hdigits

/-- What is judged dead: an address nobody can reach, unless it is in the table. -/
theorem uriIsDead_text (isLocal : CStr → Bool) (r : WsRegistry) :
    r.uriIsDead isLocal u.text = true ↔
      (u.host.map Char.toLower = "localhost".toList ∨ isLocal u.host = true) ∧
        ∀ e ∈ r.entries, e.origin ≠ u.origin := by
  have hshort : ¬(u.host = [] ∨ 256 ≤ u.host.length) := by
    rw [not_or]
    exact ⟨u.host_ne, not_le.mpr u.host_fits⟩
  unfold WsRegistry.uriIsDead
  rw [uriOrigin_text]
  simp only [← origin_eq, authorityHost_authority, if_neg hshort]
  by_cases hours : r.entries.any (fun e => decide (e.origin = u.origin)) = true
  · rw [if_pos hours]
    obtain ⟨e, he, hsame⟩ := List.any_eq_true.mp hours
    constructor
    · intro h
      cases h
    · rintro ⟨-, hother⟩
      exact absurd (of_decide_eq_true hsame) (hother e he)
  · rw [if_neg hours]
    have hother : ∀ e ∈ r.entries, e.origin ≠ u.origin := fun e he hsame =>
      hours (List.any_eq_true.mpr ⟨e, he, decide_eq_true hsame⟩)
    rw [Bool.or_eq_true, decide_eq_true_eq]
    exact (and_iff_left hother).symm

end ConnectUri

/-! ### What the accounts say -/

/-- The live servers, the one that came last first. -/
def WsSys.note (s : WsSys) (act : WsAct) (_ : List Unit) (log : List WsServer) : List WsServer :=
  match act with
  | .create id transport host port path =>
      let a := WsAccount.create id transport host port path
      if a.hasServer && !decide (a.key ∈ log) then a.key :: log else log
  | .destroy _ => log.filter fun k => (s.handle act).live.any (WsAccount.claims k)

/-- The registry, with the live servers. -/
def wsLogSystem : Machine (WsSys × List WsServer) WsAct Unit := wsSystem.withHistory [] WsSys.note

theorem wsLogSystem_init : wsLogSystem.init ({ live := [], registry := .zero }, []) := ⟨rfl, rfl⟩

/-- A path as `vox_parse_server_url` gives it. -/
def Rooted (path : CStr) : Prop := path = [] ∨ path.head? = some '/'

instance (path : CStr) : Decidable (Rooted path) := inferInstanceAs (Decidable (_ ∨ _))

theorem Rooted.strNcpy {path : CStr} (h : Rooted path) (size : Nat) : Rooted (strNcpy size path) := by
  rcases h with rfl | hhead
  · exact .inl List.take_nil
  · unfold VoxSdk.strNcpy
    cases path with
    | nil => cases hhead
    | cons c path =>
        cases hsize : size - 1 with
        | zero => exact .inl rfl
        | succ n => exact .inr hhead

theorem rooted_parseServerUrl (hostSz pathSz : Nat) (url : CStr) :
    Rooted (parseServerUrl hostSz pathSz url).path := by
  unfold parseServerUrl
  simp only
  repeat' split
  all_goals first | exact .inl rfl | exact Rooted.strNcpy (.inr rfl) pathSz

/-- The newest live server is to be dialled in place of the URI. -/
structure Rescues (isLocal : CStr → Bool) (s : WsSys) (log : List WsServer) (u : ConnectUri) (k : WsServer) :
    Prop where
  unpinned : s.registry.server = []
  dead : u.IsDead isLocal s
  trusted : s.registry.srvOverflow = false
  newest : log.head? = some k

/-- The pin and its path are dialled, or the newest live server in place of a dead one, or else the authority
stays what it was. -/
structure DialsRight (isLocal : CStr → Bool) (s : WsSys) (log : List WsServer) (u : ConnectUri) : Prop where
  pinned : s.registry.server ≠ [] →
    s.registry.useUri isLocal u.text = s.registry.server ++ WsRegistry.pathOrRoot s.registry.path
  rescued : ∀ k, Rescues isLocal s log u k →
    s.registry.useUri isLocal u.text = k.origin ++ WsRegistry.pathOrRoot k.path
  kept : s.registry.server = [] → (∀ k, ¬Rescues isLocal s log u k) →
    ∃ rest, s.registry.useUri isLocal u.text = u.origin ++ '/' :: rest

/-- What is to be dialled fits the buffer it is printed into. -/
structure FitsBuffer (isLocal : CStr → Bool) (s : WsSys) (log : List WsServer) (u : ConnectUri) : Prop where
  pinned : s.registry.server ≠ [] →
    (s.registry.server ++ WsRegistry.pathOrRoot s.registry.path).length < 512
  rescued : ∀ k, Rescues isLocal s log u k → (k.origin ++ WsRegistry.pathOrRoot k.path).length < 512

/-- The path is one the parser gives, and no account with a server is left when the table runs empty. -/
def keepsEveryone (p : WsSys × List WsServer) (act : WsAct) : Bool :=
  (match act with
    | .create _ _ _ _ path => decide (Rooted path)
    | .destroy _ => true) &&
  (!(p.1.handle act).registry.entries.isEmpty || (p.1.handle act).live.all fun a => !a.hasServer)

/-! ### The registry -/

namespace WsRegistry

variable {r : WsRegistry} {k : WsServer}

/-- What holds of the registry even when servers are missing in it. -/
structure Sound (r : WsRegistry) : Prop where
  slots : r.srvv.length = wsMaxServers
  silent : r.srvOverflow = true → r.server = []
  bare : r.entries = [] → r.server = [] ∧ r.path = []
  rooted : ∀ e ∈ r.entries, Rooted e.path
  path : Rooted r.path

theorem agreed_of_bare (get : WsServer → CStr) (h : r.entries = []) : r.agreed get = [] := by
  unfold agreed
  rw [h]

theorem sound_recompute (hslots : r.srvv.length = wsMaxServers) (hrooted : ∀ e ∈ r.entries, Rooted e.path) :
    r.recompute.Sound := by
  refine ⟨hslots, fun hover => ?_, fun hbare => ?_, hrooted, ?_⟩
  · simp only [recompute, Bool.and_eq_true] at hover ⊢
    rw [if_pos hover.1]
    rfl
  · have hbare : r.entries = [] := hbare
    simp only [recompute, agreed_of_bare _ hbare, ite_self]
    exact ⟨rfl, rfl⟩
  · refine Rooted.strNcpy ?_ 256
    by_cases hnone : r.agreed WsServer.path = []
    · exact .inl hnone
    · obtain ⟨e, he, hagreed⟩ := exists_agreed hnone
      rw [← hagreed]
      exact hrooted e he

theorem sound_zero : zero.Sound := by
  have hnone : zero.entries = [] := by decide
  refine ⟨rfl, fun _ => rfl, fun _ => ⟨rfl, rfl⟩, fun e he => ?_, .inl rfl⟩
  rw [hnone] at he
  cases he

theorem Sound.claim (h : r.Sound) (hk : Rooted k.path) : (r.claim k).Sound := by
  obtain ⟨r', heq, hslots, hmem⟩ := r.exists_claim k
  rw [heq]
  refine sound_recompute (hslots.trans h.slots) fun e he => ?_
  rcases hmem e he with hold | rfl
  · exact h.rooted e hold
  · exact hk.strNcpy 256

theorem Sound.unclaim (h : r.Sound) : (r.unclaim k).Sound := by
  obtain heq | ⟨r', heq, hslots, hmem⟩ := r.exists_unclaim k
  · rw [heq]
    exact h
  · rw [heq]
    exact sound_recompute (hslots.trans h.slots) fun e he => h.rooted e (hmem e he)

/-- An overflow is forgotten over an empty table only. -/
theorem bare_of_recompute (h : r.recompute.srvOverflow = false) : r.srvOverflow = false ∨ r.entries = [] := by
  simp only [recompute, Bool.and_eq_false_iff, Bool.not_eq_false', List.isEmpty_iff] at h
  exact h

theorem claim_trusted (h : (r.claim k).srvOverflow = false) :
    r.srvOverflow = false ∧ (r.found k || r.hasFreeSlot) = true ∨ (r.claim k).entries = [] := by
  unfold WsRegistry.claim at h ⊢
  split at h
  · rename_i hfound
    rw [if_pos hfound]
    exact (bare_of_recompute h).imp_left fun h => ⟨h, by simp [hfound]⟩
  · rename_i hnew
    rw [if_neg hnew]
    split at h
    · rename_i hfull
      rw [if_pos hfull]
      exact (bare_of_recompute h).imp_left fun h => by cases h
    · rename_i hfree
      rw [if_neg hfree]
      exact (bare_of_recompute h).imp_left fun h => ⟨h, by simpa using Or.inr hfree⟩

theorem unclaim_trusted (h : (r.unclaim k).srvOverflow = false) :
    r.srvOverflow = false ∨ (r.unclaim k).entries = [] := by
  unfold WsRegistry.unclaim at h ⊢
  split at h
  · rename_i hfound
    rw [if_pos hfound]
    exact bare_of_recompute h
  · exact .inl h

end WsRegistry

/-! ### Runs -/

/-- The log names the servers of the live accounts; and a table that is trusted counts them, in the order of
the log. -/
structure Known (p : WsSys × List WsServer) : Prop where
  sound : p.1.registry.Sound
  mem_log : ∀ k, k ∈ p.2 ↔ 0 < p.1.live.countP (WsAccount.claims k)
  trusted : p.1.registry.srvOverflow = false →
    p.1.Recorded ∧ p.1.registry.Clean ∧ Ranked p.2 p.1.registry.srvSeq p.1.registry.srvv

section Step

variable {s : WsSys} {r : WsRegistry} {live : List WsAccount} {log : List WsServer}

theorem known_of_bare (hsound : r.Sound) (hmem : ∀ k, k ∈ log ↔ 0 < live.countP (WsAccount.claims k))
    (hbare : r.entries = []) (hnone : ∀ a ∈ live, a.hasServer = false) :
    Known ({ live, registry := r }, log) := by
  have hclaims (k : WsServer) : live.countP (WsAccount.claims k) = 0 := by
    refine List.countP_eq_zero.mpr fun a ha => ?_
    simp [WsAccount.claims, hnone a ha]
  have hrefs (k : WsServer) : refsOf k r.srvv = 0 := by
    have hnot : ¬0 < refsOf k r.srvv := fun hpos => by
      have hk := WsRegistry.mem_entries hpos
      rw [hbare] at hk
      cases hk
    exact Nat.eq_zero_of_not_pos hnot
  have hlog : log = [] := by
    refine List.eq_nil_iff_forall_not_mem.mpr fun k hk => ?_
    have hpos := (hmem k).mp hk
    rw [hclaims] at hpos
    cases hpos
  refine ⟨hsound, hmem, fun htrusted => ⟨⟨fun k => ?_, fun a ha hserver => ?_⟩, ?_, ?_⟩⟩
  · exact (hrefs k).trans (hclaims k).symm
  · exact absurd ((hnone a ha).symm.trans hserver) (by decide)
  · refine ⟨hsound.slots, ?_, htrusted, ?_, ?_⟩
    · rw [hbare]
      exact List.nodup_nil
    · rw [(hsound.bare hbare).1, WsRegistry.agreed_of_bare _ hbare]
      rfl
    · rw [(hsound.bare hbare).2, WsRegistry.agreed_of_bare _ hbare]
      rfl
  · rw [hlog]
    refine ⟨.nil, fun e he hused => ?_⟩
    have hkey : e.key ∈ r.entries := List.mem_map.mpr ⟨e, List.mem_filter.mpr ⟨he, by simp [hused]⟩, rfl⟩
    rw [hbare] at hkey
    cases hkey

theorem mem_log_create {a : WsAccount} (hmem : ∀ k, k ∈ log ↔ 0 < live.countP (WsAccount.claims k))
    (k : WsServer) :
    (k ∈ if a.hasServer && !decide (a.key ∈ log) then a.key :: log else log) ↔
      0 < (a :: live).countP (WsAccount.claims k) := by
  have hold := hmem k
  rw [List.countP_cons]
  by_cases hclaims : a.claims k = true
  · obtain ⟨hserver, hkey⟩ : a.hasServer = true ∧ a.key = k := by
      simpa only [WsAccount.claims, Bool.and_eq_true, decide_eq_true_eq] using hclaims
    rw [if_pos hclaims, hserver, hkey]
    by_cases hk : k ∈ log <;> simp [hk]
  · have hkey : a.hasServer = true → a.key ≠ k := by
      simpa only [WsAccount.claims, Bool.and_eq_true, decide_eq_true_eq, not_and] using hclaims
    rw [if_neg hclaims, Nat.add_zero, ← hold]
    split
    · rename_i hnew
      have hserver : a.hasServer = true := (Bool.and_eq_true_iff.mp hnew).1
      rw [List.mem_cons, or_iff_right (hkey hserver).symm]
    · exact Iff.rfl

theorem mem_log_destroy {live' : List WsAccount}
    (hmem : ∀ k, k ∈ log ↔ 0 < live.countP (WsAccount.claims k)) (hsub : live'.Sublist live) (k : WsServer) :
    k ∈ log.filter (fun k => live'.any (WsAccount.claims k)) ↔ 0 < live'.countP (WsAccount.claims k) := by
  rw [List.mem_filter, hmem, List.any_eq_true, ← List.countP_pos_iff]
  exact and_iff_right_of_imp fun hpos => hpos.trans_le (List.Sublist.countP_le hsub)

/-- The account's server is in the log already, or goes to its front. -/
theorem ranked_claim {a : WsAccount} (hslot : (s.registry.found a.key || s.registry.hasFreeSlot) = true)
    (hmem : ∀ k, k ∈ log ↔ 0 < refsOf k s.registry.srvv)
    (hranked : Ranked log s.registry.srvSeq s.registry.srvv) :
    Ranked (if a.key ∈ log then log else a.key :: log)
      (s.registry.claim a.key).srvSeq (s.registry.claim a.key).srvv := by
  have hfound : s.registry.found a.key = true ↔ a.key ∈ log := by
    rw [hmem a.key, WsRegistry.found, any_isFor, decide_eq_true_eq]
  unfold WsRegistry.claim
  by_cases hold : a.key ∈ log
  · rw [if_pos (hfound.mpr hold), if_pos hold]
    exact hranked.retain
  · have hnew : ¬s.registry.found a.key = true := fun h => hold (hfound.mp h)
    have hfree := (Bool.or_eq_true_iff.mp hslot).resolve_left hnew
    rw [if_neg hold, if_neg hnew, if_neg (by simp [hfree]), a.copied_key]
    exact hranked.take hmem hold

theorem Known.claimed (h : Known (s, log)) {a : WsAccount} (hserver : a.hasServer = true)
    (hrooted : Rooted a.wsPinPath) (hnonempty : (s.registry.claim a.key).entries ≠ []) :
    Known ({ live := a :: s.live, registry := s.registry.claim a.key },
      if a.hasServer && !decide (a.key ∈ log) then a.key :: log else log) := by
  refine ⟨h.sound.claim hrooted, mem_log_create h.mem_log, fun htrusted => ?_⟩
  obtain ⟨hbefore, hslot⟩ := (WsRegistry.claim_trusted htrusted).resolve_right hnonempty
  obtain ⟨hrecorded, hclean, hranked⟩ := h.trusted hbefore
  have hlog : (if a.hasServer && !decide (a.key ∈ log) then a.key :: log else log) =
      if a.key ∈ log then log else a.key :: log := by
    by_cases hold : a.key ∈ log <;> simp [hold, hserver]
  refine ⟨hrecorded.claimed hserver hslot, hclean.claim hslot a.length_origin_lt a.path_fits, ?_⟩
  rw [hlog]
  refine ranked_claim hslot (fun k => ?_) hranked
  rw [h.mem_log, hrecorded.counts]

theorem Known.unclaimed (h : Known (s, log)) {test : WsAccount → Bool} {a : WsAccount}
    (ha : s.live.find? test = some a) (hserver : a.hasServer = true)
    (hleft : (s.registry.unclaim a.key).entries = [] → ∀ b ∈ s.live.eraseP test, b.hasServer = false) :
    Known ({ live := s.live.eraseP test, registry := s.registry.unclaim a.key },
      log.filter fun k => (s.live.eraseP test).any (WsAccount.claims k)) := by
  have hmem := mem_log_destroy h.mem_log (List.eraseP_sublist (p := test))
  by_cases hbare : (s.registry.unclaim a.key).entries = []
  · exact known_of_bare h.sound.unclaim hmem hbare (hleft hbare)
  · refine ⟨h.sound.unclaim, hmem, fun htrusted => ?_⟩
    have hbefore := (WsRegistry.unclaim_trusted htrusted).resolve_right hbare
    obtain ⟨hrecorded, hclean, hranked⟩ := h.trusted hbefore
    refine ⟨hrecorded.unclaimed ha hserver, hclean.unclaim, ?_⟩
    unfold WsRegistry.unclaim
    split
    · exact (hranked.release rfl).sublist List.filter_sublist
    · exact hranked.sublist List.filter_sublist

theorem known_step {p p' : WsSys × List WsServer} {act : WsAct} {os : List Unit} (h : Known p)
    (hkeeps : keepsEveryone p act = true) (hstep : wsLogSystem.step p act = some (p', os)) : Known p' := by
  obtain ⟨s, log⟩ := p
  obtain ⟨s', log'⟩ := p'
  obtain ⟨hsys, hlog⟩ := Machine.withHistory_step.mp hstep
  obtain ⟨-, hsys⟩ := Option.ite_none_right_eq_some.mp hsys
  have hs' : s.handle act = s' := congrArg Prod.fst (Option.some.inj hsys)
  have hturn : s.Turn act s' := hs' ▸ s.turn_handle act
  obtain ⟨hrooted, hleft⟩ := Bool.and_eq_true_iff.mp hkeeps
  simp only [hs', Bool.or_eq_true, Bool.not_eq_true', List.isEmpty_eq_false_iff, List.all_eq_true] at hleft
  subst hlog
  cases hturn with
  | @created id transport host port path a ha hserver =>
      have hnote : s.note (.create id transport host port path) os log =
          if a.hasServer && !decide (a.key ∈ log) then a.key :: log else log := ha ▸ rfl
      refine ⟨h.sound, fun k => hnote ▸ mem_log_create h.mem_log k, fun htrusted => ?_⟩
      obtain ⟨hrecorded, hclean, hranked⟩ := h.trusted htrusted
      rw [hserver] at hnote
      exact ⟨hrecorded.created hserver, hclean, hnote ▸ hranked⟩
  | @claimed id transport host port path a ha hserver =>
      have hpath : Rooted a.wsPinPath := ha ▸ (of_decide_eq_true hrooted).strNcpy 256
      have hnonempty : (s.registry.claim a.key).entries ≠ [] := by
        refine hleft.resolve_right fun hnone => ?_
        exact absurd (hserver.symm.trans (hnone a List.mem_cons_self)) (by decide)
      have hknown := h.claimed hserver hpath hnonempty
      rw [← ha] at hknown ⊢
      exact hknown
  | unknown hnone =>
      have hmem := mem_log_destroy h.mem_log (List.Sublist.refl s.live)
      rw [WsSys.note, hs']
      refine ⟨h.sound, hmem, fun htrusted => ?_⟩
      obtain ⟨hrecorded, hclean, hranked⟩ := h.trusted htrusted
      exact ⟨hrecorded, hclean, hranked.sublist List.filter_sublist⟩
  | @destroyed id a ha hserver =>
      have hmem := mem_log_destroy h.mem_log (List.eraseP_sublist (p := fun a => decide (a.id = id)))
      rw [WsSys.note, hs']
      refine ⟨h.sound, hmem, fun htrusted => ?_⟩
      obtain ⟨hrecorded, hclean, hranked⟩ := h.trusted htrusted
      exact ⟨hrecorded.destroyed ha hserver, hclean, hranked.sublist List.filter_sublist⟩
  | unclaimed ha hserver =>
      rw [WsSys.note, hs']
      exact h.unclaimed ha hserver fun hbare => hleft.resolve_left fun hne => hne hbare

theorem known_run {p : WsSys × List WsServer} {t : Trace WsAct Unit}
    (hrun : wsLogSystem.Run (fun p act => keepsEveryone p act = true) p t) : Known p := by
  refine hrun.stateInvariant ?_ fun p act p' os h hkeeps hstep => known_step h hkeeps hstep
  rintro ⟨s, log⟩ ⟨rfl, rfl⟩
  refine known_of_bare WsRegistry.sound_zero (fun k => ?_) (by decide) fun a ha => by cases ha
  rw [List.countP_nil]
  exact iff_of_false List.not_mem_nil (lt_irrefl 0)

end Step

/-! ### Connects -/

section Connect

variable {isLocal : CStr → Bool} {s : WsSys} {log : List WsServer} {u : ConnectUri}

theorem patched_eq_iff (u : ConnectUri) (text : CStr) :
    WsRegistry.patched u.text text = text ↔ text.length < 512 := by
  unfold WsRegistry.patched
  constructor
  · intro heq
    by_contra hlong
    rw [if_neg hlong] at heq
    exact hlong (heq ▸ u.length_text_lt)
  · exact fun hfits => if_pos hfits

/-- In a table that is trusted the dead are those the accounts know nothing of, and the newest server is the
accounts' newest. -/
theorem Known.trusted_iff (h : Known (s, log)) (htrusted : s.registry.srvOverflow = false) :
    (s.registry.uriIsDead isLocal u.text = true ↔ u.IsDead isLocal s) ∧ s.registry.newest = log.head? := by
  obtain ⟨hrecorded, -, hranked⟩ := h.trusted htrusted
  constructor
  · rw [ConnectUri.uriIsDead_text]
    refine and_congr_right fun _ => ?_
    constructor
    · intro hentries a ha hserver
      exact hentries a.key ((WsSys.mem_claimed hrecorded).mpr
        (List.mem_map_of_mem (List.mem_filter.mpr ⟨ha, hserver⟩)))
    · intro hlive e he
      obtain ⟨a, ha, rfl⟩ := List.mem_map.mp ((WsSys.mem_claimed hrecorded).mp he)
      obtain ⟨hmem, hserver⟩ := List.mem_filter.mp ha
      exact hlive a hmem hserver
  · have hnewest : s.registry.newest = (newestSlot s.registry.srvv).map Slot.key :=
      if_neg (by simp [htrusted])
    rw [hnewest, hranked.newestSlot fun k => ?_]
    rw [h.mem_log, hrecorded.counts]

theorem Known.useUri_rescued (h : Known (s, log)) {k : WsServer} (hk : Rescues isLocal s log u k) :
    s.registry.useUri isLocal u.text =
      WsRegistry.patched u.text (k.origin ++ WsRegistry.pathOrRoot k.path) := by
  obtain ⟨hdead, hnewest⟩ := h.trusted_iff hk.trusted
  unfold WsRegistry.useUri
  rw [if_neg (not_not.mpr hk.unpinned), if_pos (hdead.mpr hk.dead), hnewest, hk.newest]

theorem Known.useUri_kept (h : Known (s, log)) (hpin : s.registry.server = [])
    (hnone : ∀ k, ¬Rescues isLocal s log u k) :
    ∃ rest, s.registry.useUri isLocal u.text = u.origin ++ '/' :: rest := by
  have hrescue : (if s.registry.uriIsDead isLocal u.text then s.registry.newest else none) = none := by
    by_cases hdead : s.registry.uriIsDead isLocal u.text = true
    · rw [if_pos hdead]
      cases hover : s.registry.srvOverflow with
      | true => exact if_pos hover
      | false =>
          obtain ⟨hdead', hnewest⟩ := h.trusted_iff hover
          rw [hnewest]
          cases hhead : log.head? with
          | none => rfl
          | some k => exact absurd ⟨hpin, hdead'.mp hdead, hover, hhead⟩ (hnone k)
    · exact if_neg hdead
  unfold WsRegistry.useUri
  rw [if_neg (not_not.mpr hpin), hrescue]
  simp only
  split
  · rename_i hswap
    rw [ConnectUri.dropLast_text]
    unfold WsRegistry.patched
    split
    · rcases h.sound.path with hnil | hroot
      · exact absurd hnil hswap.1
      · cases hpath : s.registry.path with
        | nil => exact absurd hpath hswap.1
        | cons c rest =>
            rw [hpath] at hroot
            obtain rfl : c = '/' := Option.some.inj hroot
            exact ⟨rest, rfl⟩
    · exact ⟨[], rfl⟩
  · exact ⟨[], rfl⟩

/-- **Which server a connect reaches.** After every run with paths as the parser gives them, in which no account
with a server is left when the table runs empty: a connect goes to the pinned server and path, or else to the
newest live server in place of a dead address, or else where libre sends it, if and only if what is to be
dialled is shorter than the buffer of 512 bytes. -/
theorem ws_connect_reaches_iff (isLocal : CStr → Bool) {p : WsSys × List WsServer} {t : Trace WsAct Unit}
    (hrun : wsLogSystem.Run (fun p act => keepsEveryone p act = true) p t) (u : ConnectUri) :
    DialsRight isLocal p.1 p.2 u ↔ FitsBuffer isLocal p.1 p.2 u := by
  have h : Known (p.1, p.2) := known_run hrun
  have hpinned (hpin : p.1.registry.server ≠ []) : p.1.registry.useUri isLocal u.text =
      WsRegistry.patched u.text (p.1.registry.server ++ WsRegistry.pathOrRoot p.1.registry.path) := if_pos hpin
  constructor
  · intro hright
    refine ⟨fun hpin => ?_, fun k hk => ?_⟩
    · exact (patched_eq_iff u _).mp ((hpinned hpin).symm.trans (hright.pinned hpin))
    · exact (patched_eq_iff u _).mp ((h.useUri_rescued hk).symm.trans (hright.rescued k hk))
  · intro hfits
    refine ⟨fun hpin => ?_, fun k hk => ?_, h.useUri_kept⟩
    · exact (hpinned hpin).trans ((patched_eq_iff u _).mpr (hfits.pinned hpin))
    · exact (h.useUri_rescued hk).trans ((patched_eq_iff u _).mpr (hfits.rescued k hk))

end Connect

/-- The Contact of a PBX that names its own side. -/
def localContact : ConnectUri where
  transport := .ws
  host := "127.0.0.1".toList
  port := 60828
  host_ne := by decide
  host_fits := by decide
  host_wf := by simp
  port_fits := by decide

/-- Two servers, and a Contact that names neither: the second is dialled. -/
theorem ws_connect_reaches_newest :
    ∃ p : WsSys × List WsServer, p.1.registry.server = [] ∧
      p.1.registry.useUri (fun host => decide (host = "127.0.0.1".toList)) localContact.text =
        "wss://b.example.org:443".toList ++ "/ws".toList := by
  obtain ⟨p, t, hrun, hend⟩ := Machine.exists_run_of_exec keepsEveryone wsLogSystem_init
    [.create 1 .wss "a.example.org".toList 443 "/ws".toList,
      .create 2 .wss "b.example.org".toList 443 "/ws".toList]
    (fun p _ => decide (p.1.registry.server = []) && !p.1.registry.srvOverflow &&
      decide (p.2.head? = some ⟨"wss://b.example.org:443".toList, "/ws".toList⟩) &&
      p.1.live.all fun a => decide (a.origin ≠ localContact.origin))
    (by decide +kernel)
  simp only [Bool.and_eq_true, Bool.not_eq_true', decide_eq_true_eq, List.all_eq_true] at hend
  obtain ⟨⟨⟨hpin, htrusted⟩, hnewest⟩, hothers⟩ := hend
  have hrescues : Rescues (fun host => decide (host = "127.0.0.1".toList)) p.1 p.2 localContact
      ⟨"wss://b.example.org:443".toList, "/ws".toList⟩ :=
    ⟨hpin, ⟨.inr (by decide), fun a ha _ => hothers a ha⟩, htrusted, hnewest⟩
  have hfits : FitsBuffer (fun host => decide (host = "127.0.0.1".toList)) p.1 p.2 localContact := by
    refine ⟨fun h => absurd hpin h, fun k hk => ?_⟩
    cases hnewest.symm.trans hk.newest
    decide
  exact ⟨p, hpin, ((ws_connect_reaches_iff _ hrun localContact).mpr hfits).rescued _ hrescues⟩

/-- A host of 250 characters and a path of 255 are pinned, and are not dialled. -/
theorem ws_connect_drops_pin :
    ¬∀ (isLocal : CStr → Bool) (p : WsSys × List WsServer) (t : Trace WsAct Unit),
      wsLogSystem.Run (fun p act => keepsEveryone p act = true) p t →
        ∀ u, DialsRight isLocal p.1 p.2 u := by
  intro hright
  obtain ⟨p, t, hrun, hend⟩ := Machine.exists_run_of_exec keepsEveryone wsLogSystem_init
    [.create 1 .wss (List.replicate 250 'h') 443 ('/' :: List.replicate 254 'p')]
    (fun p _ => decide (p.1.registry.server ≠ []) &&
      decide (p.1.registry.useUri (fun _ => false) localContact.text ≠
        p.1.registry.server ++ WsRegistry.pathOrRoot p.1.registry.path))
    (by decide +kernel)
  simp only [Bool.and_eq_true, decide_eq_true_eq] at hend
  exact hend.2 ((hright (fun _ => false) p t hrun localContact).pinned hend.1)

end VoxSdk
