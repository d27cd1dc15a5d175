import VoxSdk.Proof.Attempts
import VoxSdk.Proof.CallTurns

/-!
# How many offers a migration gets

A round of a call begins when the call is stamped, by a handover's generation or by a stall repair. Only
an offer that is judged is measured against `max_attempts_for`; a deferred call is sent its offer without
looking at the budget again, for it had room when it was deferred. `respectsBudget` refuses the step in
which that room is gone, because ICE came up on the call in the meantime, and the generation that comes
round to a call that has it already.
-/

namespace VoxSdk

open Reactive

/-! ### Offers by call -/

theorem SysOut.ofCall_of_isOffer {o : SysOut} {env : Option NetEnv} {id : Nat}
    (h : o.isOffer env id = true) : o.ofCall id = true := by
  cases o with
  | callResetTransp call laddr => exact h
  | iceRestart call laddr => exact (Bool.and_eq_true_iff.mp h).1
  | _ => cases h

theorem SysOut.isOffer_of_ofCall {o : SysOut} {env : Option NetEnv} {id id' : Nat}
    (h : o.ofCall id' = true) (hne : id' ≠ id) : o.isOffer env id = false := by
  cases hoffer : o.isOffer env id with
  | false => rfl
  | true =>
      have hown := SysOut.ofCall_of_isOffer hoffer
      rw [SysOut.ofCall_eq h] at hown
      exact absurd (of_decide_eq_true hown).symm hne

/-- The offers for a call are among what is put out about it. -/
theorem offers_own (env : Option NetEnv) (id : Nat) (os : List SysOut) :
    offers env id (os.filter (SysOut.ofCall id)) = offers env id os := by
  rw [offers, offers, List.countP_filter]
  refine List.countP_congr fun o _ => ?_
  rw [Bool.and_eq_true, and_iff_left_iff_imp]
  exact SysOut.ofCall_of_isOffer

/-- A loop over calls: each is left budgeted if its own turn leaves it so, and each turn's offers are
its own. -/
theorem budget_sweep {test : Call → Bool} {limit max : Nat} {work : Call → Call} {xs : List Call}
    {env : Option NetEnv} {made : Nat → Nat} (hnodup : (xs.map Call.id).Nodup)
    (hadds : ∀ c : Call, c.Adds (work c))
    (hreached : ∀ c ∈ reached test limit xs,
      (work c.idle).Budgeted max (made c.id + offers env c.id (work c.idle).out))
    (hrest : ∀ c ∈ xs, c ∉ reached test limit xs → c.Budgeted max (made c.id)) :
    ((sweep test (fun c => (work c.idle).flush) limit xs).1.map Call.id).Nodup ∧
      (∀ c ∈ reached test limit xs,
        offers env c.id (sweep test (fun c => (work c.idle).flush) limit xs).2 =
          offers env c.id (work c.idle).out) ∧
      (∀ c ∈ xs, c ∉ reached test limit xs →
        offers env c.id (sweep test (fun c => (work c.idle).flush) limit xs).2 = 0) ∧
      ∀ d ∈ (sweep test (fun c => (work c.idle).flush) limit xs).1,
        d.Budgeted max
          (made d.id + offers env d.id (sweep test (fun c => (work c.idle).flush) limit xs).2) := by
  have hid := Sys.adds_id hadds
  have hown {c : Call} (hc : c ∈ xs) := @Sys.sweep_turn c work test limit xs hnodup hadds hc
  have hturn {c : Call} (hc : c ∈ reached test limit xs) : offers env c.id (sweep test
      (fun c => (work c.idle).flush) limit xs).2 = offers env c.id (work c.idle).out := by
    rw [← offers_own, ((hown (mem_reached hc).1).1 hc).2]
  have hnone {c : Call} (hc : c ∈ xs) (hnot : c ∉ reached test limit xs) : offers env c.id (sweep test
      (fun c => (work c.idle).flush) limit xs).2 = 0 := by
    rw [← offers_own, ((hown hc).2 hnot).2]
    rfl
  refine ⟨by rwa [map_sweep hid], fun c => hturn, fun c => hnone, ?_⟩
  have hleft {d : Call} (hd : d ∈ xs) (hnot : d ∉ reached test limit xs) : d.Budgeted max
      (made d.id + offers env d.id (sweep test (fun c => (work c.idle).flush) limit xs).2) := by
    rw [hnone hd hnot]
    exact hrest d hd hnot
  intro d hd
  rcases mem_sweep hd with ⟨c, hc, rfl⟩ | ⟨hmem, htest⟩ | hmissed
  · rw [hid, hturn hc]
    exact (hreached c hc).idle
  · exact hleft hmem fun h => by simp [(mem_reached h).2] at htest
  · refine hleft (mem_missed hmissed).1 fun h => ?_
    have hfiltered : (xs.filter test).Nodup := (List.Nodup.of_map _ hnodup).filter _
    exact List.disjoint_take_drop hfiltered le_rfl h hmissed

namespace Sys

/-- `s'` is `s` after work that is not about calls. -/
structure Aside (s s' : Sys) : Prop where
  calls : s'.calls = s.calls
  started : s'.nm.started = s.nm.started
  gen : s'.nm.gen = s.nm.gen
  maxAttempts : s'.nm.maxAttempts = s.nm.maxAttempts
  iceHandover : s'.nm.iceHandover = s.nm.iceHandover
  reinviteCalls : s'.nm.reinviteCalls = s.nm.reinviteCalls
  out : ∀ env id, offers env id s'.out = offers env id s.out

variable {g : Cfg} {env : NetEnv} {s s' s'' : Sys}

/-- The fields of `struct vox_netmon` that migrating a call goes by. -/
def offerPart (nm : Netmon) : Bool × Nat × Nat × IceHandover × Bool :=
  (nm.started, nm.gen, nm.maxAttempts, nm.iceHandover, nm.reinviteCalls)

/-- Work that reports nothing and leaves the calls and those fields alone. -/
theorem Aside.of_eq (hcalls : s'.calls = s.calls) (hnm : offerPart s'.nm = offerPart s.nm)
    (hout : s'.out = s.out) : s.Aside s' := by
  simp only [offerPart, Prod.mk.injEq] at hnm
  obtain ⟨hstarted, hgen, hmax, hice, hreinvite⟩ := hnm
  exact ⟨hcalls, hstarted, hgen, hmax, hice, hreinvite, fun env id => by rw [hout]⟩

theorem Aside.refl : s.Aside s := .of_eq rfl rfl rfl

theorem Aside.trans (h : s.Aside s') (h' : s'.Aside s'') : s.Aside s'' where
  calls := h'.calls.trans h.calls
  started := h'.started.trans h.started
  gen := h'.gen.trans h.gen
  maxAttempts := h'.maxAttempts.trans h.maxAttempts
  iceHandover := h'.iceHandover.trans h.iceHandover
  reinviteCalls := h'.reinviteCalls.trans h.reinviteCalls
  out env id := (h'.out env id).trans (h.out env id)

theorem Quiet.aside (h : s.Quiet s') : s.Aside s' where
  calls := h.calls
  started := congrArg MigrationPart.started h.part
  gen := congrArg MigrationPart.gen h.part
  maxAttempts := congrArg MigrationPart.maxAttempts h.part
  iceHandover := congrArg MigrationPart.iceHandover h.part
  reinviteCalls := congrArg MigrationPart.reinviteCalls h.part
  out env id := by
    rw [← offers_own, ← offers_own env id s.out]
    exact congrArg (offers env id) (h.said id)

variable (g env s) in
/-- Settling is work that is not about calls, or ends in a handover given up, or starts a
generation. -/
theorem settleHandler_cases :
    s.startsGeneration env = false ∧ (s.Aside (s.settleHandler g env) ∨
        ∃ r err, s.Aside r ∧ (r.failPendingMigrations g env err).Aside (s.settleHandler g env)) ∨
      s.nm.started = false ∧ s.settleHandler g env = s ∨
      s.startsGeneration env = true ∧ ∃ r, s.newGeneration.Aside r ∧
        s.settleHandler g env = if s.nm.reinviteCalls then r.migrateCalls g env else r := by
  cases hstarted : s.nm.started with
  | false => exact .inr (.inl ⟨rfl, by simp [settleHandler, hstarted]⟩)
  | true =>
      rcases settleHandler_turns g env s hstarted with ⟨hnot, -, hquiet⟩ |
        ⟨hnot, -, r, err, hr, hquiet⟩ | ⟨hstarts, -, r, hr, heq⟩
      · exact .inl ⟨hnot, .inl hquiet.aside⟩
      · exact .inl ⟨hnot, .inr ⟨r, err, hr.aside, hquiet.aside⟩⟩
      · exact .inr (.inr ⟨hstarts, r, hr.aside, heq⟩)

/-! ### Rounds -/

/-- Whether the step begins a round of the call: the call is new, a handover's generation reaches it, or
a stall repair is started for it. -/
def stamps (g : Cfg) (s : Sys) (act : SysAct) (id : Nat) : Bool :=
  match act with
  | .createCall id' .. => decide (id' = id)
  | .statsTick id' packets setupPending env =>
      decide (id' = id) &&
        s.hasCall id fun c => (c.idle.stallRepair g s.nm s.now env packets setupPending).2
  | .settleFires env =>
      s.startsGeneration env && s.nm.reinviteCalls && (s.calls.take netMaxSnap).any fun c =>
        decide (c.id = id) && decide (c.netMigGen ≠ u32 (s.nm.gen + 1))
  | _ => false

/-- The offers of its round that a call brings into the step. -/
def carried (g : Cfg) (s : Sys) (act : SysAct) (made : Nat → Nat) (id : Nat) : Nat :=
  if s.stamps g act id then 0 else made id

theorem carried_eq {g : Cfg} {s : Sys} {act : SysAct} (hstamps : ∀ id, s.stamps g act id = false)
    (made : Nat → Nat) : s.carried g act made = made := by
  funext id
  rw [carried, hstamps id, if_neg (by decide)]

/-- The call as an offer of the step finds it: stamped, if the step stamps it. -/
def atOffer (g : Cfg) (s : Sys) (act : SysAct) (c : Call) : Call :=
  if s.stamps g act c.id then c.claim s.newGeneration.nm s.now else c

end Sys

/-- The SDK, and how many offers each call has got in its round. -/
def countedSystem (g : Cfg) : Machine (Sys × (Nat → Nat)) SysAct SysOut :=
  (system g).withHistory (fun _ => 0) fun s act os made id =>
    s.carried g act made id + offers act.env id os

/-- The offers it makes are candidates that ICE would have to replace. -/
def Call.staleIce (g : Cfg) (nm : Netmon) (env : NetEnv) (c : Call) : Bool :=
  decide (nm.iceHandover = .failFast) && c.callUsesIce g env && !c.netIceRestarted

/-- An offer made in the step is within the budget at that moment, under FAIL_FAST it is the only one of
a handover's round for a stale-ICE call, and it is made for no call that is through with its round. -/
def WithinBudget (g : Cfg) (p : Sys × (Nat → Nat)) (act : SysAct) : Prop :=
  ∀ p' os, (countedSystem g).step p act = some (p', os) → ∀ c ∈ p.1.calls,
    0 < offers act.env c.id os →
      (∃ env, act.env = some env ∧ p'.2 c.id ≤ (p.1.atOffer g act c).maxAttemptsFor g p.1.nm env ∧
        ((p.1.atOffer g act c).staleIce g p.1.nm env = true →
          (p.1.atOffer g act c).netMigStall = false → p'.2 c.id ≤ 1)) ∧
      (p.1.stamps g act c.id = true ∨ c.netMigState ≠ .done ∧ c.netMigState ≠ .failed)

/-- A deferred call that gets its offer now, though ICE has come up on it since the last one. -/
def Call.lostRoom (g : Cfg) (nm : Netmon) (env : NetEnv) (made : Nat) (c : Call) : Bool :=
  decide (c.netMigState = .deferred) && decide (c.netMigGen = nm.gen) &&
    (env.call c.id).refreshAllowed && c.staleIce g nm env && !c.netMigStall && decide (0 < made)

/-- The steps that stay within the budget: no deferred call has lost its room, and no handover's
generation is one that a call of the snapshot is stamped with already. -/
def respectsBudget (g : Cfg) (p : Sys × (Nat → Nat)) : SysAct → Bool
  | .verifyFires env =>
      (p.1.calls.take netMaxSnap).all fun c => !c.lostRoom g p.1.nm env (p.2 c.id)
  | .settleFires env =>
      !(p.1.startsGeneration env && p.1.nm.reinviteCalls) ||
        (p.1.calls.take netMaxSnap).all fun c => decide (c.netMigGen ≠ u32 (p.1.nm.gen + 1))
  | _ => true

/-- Every call has room for what it may still be sent. -/
structure Counted (s : Sys) (made : Nat → Nat) : Prop where
  started : s.nm.started = true
  pos : 0 < s.nm.maxAttempts
  lt : s.nm.maxAttempts < 2 ^ 32
  nodup : (s.calls.map Call.id).Nodup
  live : ∀ c ∈ s.calls, c.bc = true
  budget : ∀ c ∈ s.calls, c.Budgeted s.nm.maxAttempts (made c.id)

variable {g : Cfg} {env : NetEnv} {s s' : Sys} {made : Nat → Nat}

theorem Counted.congr (h : Counted s made) (hcalls : s'.calls = s.calls)
    (hstarted : s'.nm.started = s.nm.started) (hmax : s'.nm.maxAttempts = s.nm.maxAttempts) :
    Counted s' made where
  started := hstarted.trans h.started
  pos := hmax ▸ h.pos
  lt := hmax ▸ h.lt
  nodup := hcalls ▸ h.nodup
  live := hcalls ▸ h.live
  budget := by
    rw [hcalls, hmax]
    exact h.budget

theorem Counted.aside (h : Counted s made) (haside : s.Aside s') : Counted s' made :=
  h.congr haside.calls haside.started haside.maxAttempts

/-- A loop over the snapshot of calls, of which each is worked on from `made`. -/
theorem Counted.sweepCalls (env : NetEnv) (made' : Nat → Nat) {work : Call → Call} (h : Counted s made)
    (hadds : ∀ c : Call, c.Adds (work c))
    (hreached : ∀ c ∈ s.calls.take netMaxSnap, (work c.idle).Budgeted s.nm.maxAttempts
      (made' c.id + offers (some env) c.id (work c.idle).out))
    (hrest : ∀ c ∈ s.calls.drop netMaxSnap, made' c.id = made c.id) :
    Counted (s.sweepCalls work) (fun id => made' id + (offers (some env) id (s.sweepCalls work).out -
        offers (some env) id s.out)) ∧
      (∀ c ∈ s.calls.take netMaxSnap, offers (some env) c.id (s.sweepCalls work).out =
        offers (some env) c.id s.out + offers (some env) c.id (work c.idle).out) ∧
      ∀ c ∈ s.calls.drop netMaxSnap,
        offers (some env) c.id (s.sweepCalls work).out = offers (some env) c.id s.out := by
  have htake : reached (fun _ => true) netMaxSnap s.calls = s.calls.take netMaxSnap := by
    simp [reached]
  have hnodup : s.calls.Nodup := List.Nodup.of_map _ h.nodup
  have hsplit : ∀ c ∈ s.calls, c ∉ s.calls.take netMaxSnap → c ∈ s.calls.drop netMaxSnap := by
    intro c hc hnot
    rw [← List.take_append_drop netMaxSnap s.calls] at hc
    exact (List.mem_append.mp hc).resolve_left hnot
  have hpast : ∀ c ∈ s.calls.drop netMaxSnap, c ∉ s.calls.take netMaxSnap := fun c hc hmem =>
    List.disjoint_take_drop hnodup le_rfl hmem hc
  obtain ⟨hnodup', hturn, hnone, hbudget⟩ := @budget_sweep (fun _ => true) netMaxSnap
    s.nm.maxAttempts work s.calls (some env) made' h.nodup hadds (htake ▸ hreached) (by
      intro c hc hnot
      rw [htake] at hnot
      rw [hrest c (hsplit c hc hnot)]
      exact h.budget c hc)
  rw [htake] at hturn hnone
  have hout (id : Nat) : offers (some env) id (s.sweepCalls work).out =
      offers (some env) id s.out + offers (some env) id (sweep (fun _ => true)
        (fun c => (work c.idle).flush) netMaxSnap s.calls).2 := offers_append ..
  refine ⟨⟨h.started, h.pos, h.lt, ?_, ?_, ?_⟩, fun c hc => ?_, fun c hc => ?_⟩
  · exact (List.filter_sublist.map _).nodup hnodup'
  · exact fun d hd => (List.mem_filter.mp hd).2
  · intro d hd
    rw [hout, Nat.add_sub_cancel_left]
    exact hbudget d (List.mem_filter.mp hd).1
  · rw [hout, hturn c hc]
  · rw [hout, hnone c (List.mem_of_mem_drop hc) (hpast c hc), Nat.add_zero]

theorem Counted.onCall (made' : Nat → Nat) (id : Nat) (work : Call → Call) (h : Counted s made)
    (hadds : ∀ c : Call, c.Adds (work c)) (hbc : ∀ c : Call, (work c).bc = c.bc)
    (hquiet : ∀ env, ∀ c : Call, offers env c.id (work c.idle).out = 0)
    (hbudget : ∀ c ∈ s.calls, c.id = id → (work c.idle).Budgeted s.nm.maxAttempts (made' id))
    (hrest : ∀ id' ≠ id, made' id' = made id') :
    Counted (s.onCall id work) made' ∧
      ∀ env id', offers env id' (s.onCall id work).out = offers env id' s.out := by
  have hsweep (env : Option NetEnv) := @budget_sweep (fun c => decide (c.id = id)) 1 s.nm.maxAttempts
    work s.calls env made' h.nodup hadds (by
      intro c hc
      obtain ⟨hmem, hid⟩ := mem_reached hc
      obtain rfl := of_decide_eq_true hid
      rw [hquiet, Nat.add_zero]
      exact hbudget c hmem rfl) (by
      intro c hc hnot
      by_cases hid : c.id = id
      · subst hid
        exact absurd (Sys.mem_reached_id h.nodup hc) hnot
      · rw [hrest c.id hid]
        exact h.budget c hc)
  have hnone (env : Option NetEnv) (id' : Nat) : offers env id' (sweep (fun c => decide (c.id = id))
      (fun c => (work c.idle).flush) 1 s.calls).2 = 0 := by
    rw [sweep_outs]
    refine offers_eq_zero fun o ho => ?_
    obtain ⟨c, -, ho⟩ := List.mem_flatMap.mp ho
    by_cases hid : c.id = id'
    · have hzero := List.countP_eq_zero.mp (hquiet env c) o ho
      rw [hid] at hzero
      simpa using hzero
    · obtain ⟨-, os, hos, hall⟩ := hadds c.idle
      exact SysOut.isOffer_of_ofCall (hall o (by rwa [Call.flush_snd, hos] at ho)) hid
  refine ⟨⟨h.started, h.pos, h.lt, (hsweep none).1, ?_, ?_⟩, fun env id' => ?_⟩
  · exact forall_mem_sweep_of_keeps (P := fun c : Call => c.bc = true)
      (fun c _ hc => (hbc c.idle).trans hc) h.live
  · intro d hd
    have hbudget' := (hsweep none).2.2.2 d hd
    rwa [hnone, Nat.add_zero] at hbudget'
  · exact (offers_append ..).trans (by rw [hnone, Nat.add_zero])

/-- What a step leaves, and what it may offer on the way. -/
def StepBudget (g : Cfg) (s : Sys) (made : Nat → Nat) (act : SysAct) (s' : Sys) : Prop :=
  Counted s' (fun id => s.carried g act made id + offers act.env id s'.out) ∧
    ∀ c ∈ s.calls, 0 < offers act.env c.id s'.out →
      (∃ env, act.env = some env ∧ s.carried g act made c.id + offers act.env c.id s'.out ≤
          (s.atOffer g act c).maxAttemptsFor g s.nm env) ∧
        (s.stamps g act c.id = true ∨ c.netMigState ≠ .done ∧ c.netMigState ≠ .failed)

/-- A step that offers nothing owes nothing. -/
theorem stepBudget_of_quiet {act : SysAct}
    (h : Counted s' (s.carried g act made))
    (hquiet : ∀ env id, offers env id s'.out = 0) : StepBudget g s made act s' := by
  refine ⟨⟨h.started, h.pos, h.lt, h.nodup, h.live, fun c hc => ?_⟩, fun c _ hpos => ?_⟩
  · rw [hquiet, Nat.add_zero]
    exact h.budget c hc
  · rw [hquiet] at hpos
    exact absurd hpos (Nat.lt_irrefl 0)

theorem stepBudget_aside {act : SysAct} (h : Counted s made) (hstamps : ∀ id, s.stamps g act id = false)
    (haside : s.idle.Aside s') : StepBudget g s made act s' := by
  refine stepBudget_of_quiet ?_ fun env id => haside.out env id
  rw [Sys.carried_eq hstamps]
  have hidle : Counted s.idle made := h.congr rfl rfl rfl
  exact hidle.aside haside

theorem Call.maxAttemptsFor_nm {nm nm' : Netmon} {c : Call} (hmax : nm'.maxAttempts = nm.maxAttempts)
    (hice : nm'.iceHandover = nm.iceHandover) :
    c.maxAttemptsFor g nm' env = c.maxAttemptsFor g nm env := by
  simp only [Call.maxAttemptsFor, hmax, hice]

/-- With room in the round, the limit is reached only by an offer whose candidates are stale. -/
theorem Call.Budgeted.room_left {nm : Netmon} {o : Nat} {c : Call}
    (h : c.Budgeted nm.maxAttempts o) (hpos : 0 < nm.maxAttempts) (hgen : c.netMigGen = nm.gen)
    (hkept : c.lostRoom g nm env o = false) (hstate : c.netMigState = .deferred)
    (hallowed : (env.call c.id).refreshAllowed = true) : o < c.maxAttemptsFor g nm env := by
  have hround := h.deferred hstate
  rcases Nat.eq_zero_or_pos o with rfl | hmade
  · exact Call.maxAttemptsFor_pos hpos
  · have hfresh : c.netMigStall = false → ¬ (nm.iceHandover = .failFast ∧
        c.callUsesIce g env = true ∧ c.netIceRestarted = false) := by
      rintro hstall ⟨hfast, hice, hrestarted⟩
      simp [Call.lostRoom, Call.staleIce, hstate, hgen, hallowed, hfast, hice, hrestarted, hstall,
        hmade] at hkept
    unfold Call.maxAttemptsFor
    cases hstall : c.netMigStall with
    | true => simpa [Call.roundLimit, hstall] using hround
    | false =>
        rw [if_neg (by simp), if_neg (hfresh hstall)]
        simpa [Call.roundLimit, hstall] using hround

/-- A loop over the snapshot as part of a step: `limit` is what each call may have got by its turn, and
`through` says it may get nothing. -/
theorem Counted.sweepStep (made' : Nat → Nat) {work : Call → Call} (limit : Call → Nat)
    (through : Call → Prop) (h : Counted s made) (hadds : ∀ c : Call, c.Adds (work c))
    (hout : ∀ id, offers (some env) id s.out = 0)
    (hcall : ∀ c ∈ s.calls.take netMaxSnap, ∃ n, offers (some env) c.id (work c.idle).out = n ∧
      (0 < n → made' c.id + n ≤ limit c) ∧ (through c → n = 0) ∧
      (work c.idle).Budgeted s.nm.maxAttempts (made' c.id + n))
    (hrest : ∀ c ∈ s.calls.drop netMaxSnap, made' c.id = made c.id)
    (haside : (s.sweepCalls work).Aside s') :
    Counted s' (fun id => made' id + offers (some env) id s'.out) ∧
      ∀ c ∈ s.calls, 0 < offers (some env) c.id s'.out →
        made' c.id + offers (some env) c.id s'.out ≤ limit c ∧ ¬through c := by
  obtain ⟨hcounted, htake, hdrop⟩ := h.sweepCalls env made' hadds
    (fun c hc => by
      obtain ⟨n, hn, -, -, hbudget⟩ := hcall c hc
      rw [hn]
      exact hbudget) hrest
  have hsame : (fun id => made' id + (offers (some env) id (s.sweepCalls work).out -
      offers (some env) id s.out)) = fun id => made' id + offers (some env) id s'.out := by
    funext id
    rw [hout, haside.out, Nat.sub_zero]
  rw [hsame] at hcounted
  refine ⟨hcounted.aside haside, fun c hc hpos => ?_⟩
  rw [haside.out] at hpos ⊢
  rw [← List.take_append_drop netMaxSnap s.calls] at hc
  rcases List.mem_append.mp hc with hfirst | hlast
  · obtain ⟨n, hn, hlimit, hthrough, -⟩ := hcall c hfirst
    rw [htake c hfirst, hout, hn, Nat.zero_add] at hpos ⊢
    exact ⟨hlimit hpos, fun h => by rw [hthrough h] at hpos; exact Nat.lt_irrefl 0 hpos⟩
  · rw [hdrop c hlast, hout] at hpos
    exact absurd hpos (Nat.lt_irrefl 0)

/-- A round is through once its migration is confirmed or has failed. -/
def Call.isThrough (c : Call) : Prop := c.netMigState = .done ∨ c.netMigState = .failed

theorem Counted.verifyHandler (g : Cfg) (env : NetEnv) (h : Counted s made) (hout : s.out = [])
    (hkept : ∀ c ∈ s.calls.take netMaxSnap, c.lostRoom g s.nm env (made c.id) = false) :
    Counted (s.verifyHandler g env)
        (fun id => made id + offers (some env) id (s.verifyHandler g env).out) ∧
      ∀ c ∈ s.calls, 0 < offers (some env) c.id (s.verifyHandler g env).out →
        made c.id + offers (some env) c.id (s.verifyHandler g env).out ≤
          c.maxAttemptsFor g s.nm env ∧ ¬c.isThrough := by
  unfold Sys.verifyHandler
  rw [if_neg (by simp [h.started])]
  refine h.sweepStep _ _ _ (fun c => Call.works_verify.adds) (by simp [hout]) (fun c hc => ?_) (fun _ _ => rfl)
    (.of_eq rfl rfl rfl)
  have hmem := List.mem_of_mem_take hc
  have hbudget := h.budget c hmem
  by_cases hgen : c.netMigGen = s.nm.gen
  · obtain ⟨n, hn, hover⟩ := @Call.spent_verify g s.nm s.now env c.idle (made c.id) h.lt h.pos
      (h.live c hmem) hgen hbudget.idle fun hstate hallowed =>
        hbudget.room_left h.pos hgen (hkept c hc) hstate hallowed
    have hoffers := hn.offers
    rw [show c.idle.out = [] from rfl, offers_nil, Nat.zero_add] at hoffers
    exact ⟨n, hoffers, hn.limit, hover, hn.budgeted⟩
  · have hskip : c.idle.verify g s.nm s.now env = c.idle := if_pos hgen
    rw [hskip]
    exact ⟨0, rfl, fun h => absurd h (Nat.lt_irrefl 0), fun _ => rfl, hbudget.idle⟩

theorem Counted.failPendingMigrations (h : Counted s made)
    (hout : ∀ id, offers (some env) id s.out = 0) (err : Errno)
    (haside : (s.failPendingMigrations g env err).Aside s') :
    Counted s' (fun id => made id + offers (some env) id s'.out) ∧
      ∀ c ∈ s.calls, offers (some env) c.id s'.out = 0 := by
  obtain ⟨hcounted, hnone⟩ := h.sweepStep made (fun _ => 0) (fun _ => True)
    (fun c => (Call.works_failPending err).adds) hout (fun c hc => by
      have hspent := @Call.spent_failPending g s.nm s.now env c.idle (made c.id)
        (h.budget c (List.mem_of_mem_take hc)).idle err
      have hoffers := hspent.offers
      rw [show c.idle.out = [] from rfl, offers_nil, Nat.zero_add] at hoffers
      exact ⟨0, hoffers, fun h => absurd h (Nat.lt_irrefl 0), fun _ => rfl, hspent.budgeted⟩)
    (fun _ _ => rfl) haside
  refine ⟨hcounted, fun c hc => ?_⟩
  by_contra hpos
  exact (hnone c hc (Nat.pos_of_ne_zero hpos)).2 trivial

/-- A generation that is new to every call of the snapshot stamps them all. -/
theorem Counted.migrateCalls (g : Cfg) (env : NetEnv) (made' : Nat → Nat) (h : Counted s made)
    (hout : ∀ id, offers (some env) id s.out = 0)
    (hnew : ∀ c ∈ s.calls.take netMaxSnap, c.netMigGen ≠ s.nm.gen ∧ made' c.id = 0)
    (hrest : ∀ c ∈ s.calls.drop netMaxSnap, made' c.id = made c.id) :
    Counted (s.migrateCalls g env)
        (fun id => made' id + offers (some env) id (s.migrateCalls g env).out) ∧
      ∀ c ∈ s.calls, 0 < offers (some env) c.id (s.migrateCalls g env).out →
        made' c.id + offers (some env) c.id (s.migrateCalls g env).out ≤
          (c.claim s.nm s.now).maxAttemptsFor g s.nm env ∧ c ∈ s.calls.take netMaxSnap := by
  suffices hturn : ∀ c ∈ s.calls.take netMaxSnap, ∃ n,
      offers (some env) c.id (c.idle.startMigration g s.nm s.now env).out = n ∧
        (0 < n → made' c.id + n ≤ (c.claim s.nm s.now).maxAttemptsFor g s.nm env) ∧
        (c ∉ s.calls.take netMaxSnap → n = 0) ∧
        (c.idle.startMigration g s.nm s.now env).Budgeted s.nm.maxAttempts (made' c.id + n) by
    have haside : (s.sweepCalls (·.startMigration g s.nm s.now env)).Aside (s.migrateCalls g env) :=
      .of_eq rfl rfl rfl
    obtain ⟨hcounted, hlimit⟩ := h.sweepStep _ _ _ (fun c => Call.works_startMigration.adds) hout hturn
      hrest haside
    refine ⟨hcounted, fun c hc hpos => ?_⟩
    obtain ⟨hle, hreached⟩ := hlimit c hc hpos
    exact ⟨hle, not_not.mp hreached⟩
  intro c hc
  obtain ⟨hgen, hzero⟩ := hnew c hc
  obtain ⟨hid, hbc, hacct, htries, hstall, hrestarted, hclaim⟩ :=
    @Call.claim_spec s.nm s.now c.idle hgen
  obtain ⟨n, hn⟩ := @Call.spent_startMigration g s.nm s.now env c.idle h.lt
    (h.live c (List.mem_of_mem_take hc)) (htries ▸ h.pos)
  have hoffers := hn.offers
  rw [hid, hclaim, show c.idle.out = [] from rfl, show c.idle.id = c.id from rfl, offers_nil,
    Nat.zero_add] at hoffers
  obtain ⟨hid', hbc', hacct', -, hstall', hrestarted', -⟩ := @Call.claim_spec s.nm s.now c hgen
  have hlimit : (c.idle.claim s.nm s.now).maxAttemptsFor g s.nm env =
      (c.claim s.nm s.now).maxAttemptsFor g s.nm env :=
    Call.maxAttemptsFor_congr (hid.trans hid'.symm) (hbc.trans hbc'.symm) (hacct.trans hacct'.symm)
      (hstall.trans hstall'.symm) (hrestarted.trans hrestarted'.symm)
  rw [hzero]
  exact ⟨n, hoffers, hlimit ▸ hn.limit, fun h => absurd hc h, hn.budgeted⟩

theorem Call.offers_stallRepair (env' : Option NetEnv) (id packets : Nat) (setupPending : Bool)
    {nm : Netmon} {now : Nat} {c : Call} :
    offers env' id (c.stallRepair g nm now env packets setupPending).1.out =
      offers env' id c.out := by
  have htick : offers env' id (c.stallTick g now env packets setupPending).1.out =
      offers env' id c.out := by
    unfold Call.stallTick Call.stallClear
    repeat' split
    all_goals simp [Call.emit, Call.stallRestart, VoxSdk.offers, SysOut.isOffer]
  obtain heq | ⟨-, heq⟩ := Call.stallRepair_cases g nm now env c packets setupPending
  · rw [heq]
    exact htick
  · rw [heq]
    exact htick

/-- A stall repair begins a round of its call. -/
theorem stepBudget_statsTick (h : Counted s made) (id packets : Nat) (setupPending : Bool) :
    StepBudget g s made (.statsTick id packets setupPending env)
      (s.idle.handle g (.statsTick id packets setupPending env)) := by
  have hidle : Counted s.idle made := h.congr rfl rfl rfl
  have hstamp : ∀ c ∈ s.calls, c.id = id →
      s.stamps g (.statsTick id packets setupPending env) id =
        (c.idle.stallRepair g s.nm s.now env packets setupPending).2 := by
    rintro c hc rfl
    simp only [Sys.stamps, decide_true, Bool.true_and, Sys.hasCall]
    cases hasked : (c.idle.stallRepair g s.nm s.now env packets setupPending).2 with
    | true => exact List.any_eq_true.mpr ⟨c, hc, by simp [hasked]⟩
    | false =>
        refine List.any_eq_false.mpr fun d hd => ?_
        by_cases hid : d.id = c.id
        · obtain rfl := List.inj_on_of_nodup_map h.nodup hd hc hid
          simp [hasked]
        · simp [hid]
  obtain ⟨hcounted, hout⟩ := hidle.onCall
    (s.carried g (.statsTick id packets setupPending env) made) id
    (fun c => (c.stallRepair g s.nm s.now env packets setupPending).1)
    (fun c => Call.adds_stallRepair packets setupPending)
    (fun c => Sys.stallRepair_bc g s.nm s.now env packets setupPending c)
    (fun env' c => Call.offers_stallRepair env' c.id packets setupPending)
    (fun c hc hid => by
      subst hid
      rw [Sys.carried, hstamp c hc rfl]
      exact Call.budgeted_stallRepair h.pos (h.budget c hc).idle packets setupPending)
    (fun id' hne => by simp [Sys.carried, Sys.stamps, Ne.symm hne])
  simp only [Sys.handle]
  rcases Sys.statsTick_eq g env s.idle id packets setupPending with heq | heq
  · rw [heq]
    exact stepBudget_of_quiet hcounted hout
  · rw [heq]
    exact stepBudget_of_quiet (hcounted.congr rfl rfl rfl) hout

/-- A call's own event, which the migration only watches. -/
theorem stepBudget_onCall {act : SysAct} (id : Nat) (work : Call → Call) (h : Counted s made)
    (hstamps : ∀ id, s.stamps g act id = false) (hadds : ∀ c : Call, c.Adds (work c))
    (hbc : ∀ c : Call, (work c).bc = c.bc)
    (hquiet : ∀ env, ∀ c : Call, offers env c.id (work c.idle).out = 0)
    (hbudget : ∀ max o, ∀ c : Call, c.Budgeted max o → (work c.idle).Budgeted max o)
    (haside : (s.idle.onCall id work).Aside s') : StepBudget g s made act s' := by
  have hidle : Counted s.idle made := h.congr rfl rfl rfl
  obtain ⟨hcounted, hout⟩ := hidle.onCall made id work hadds hbc hquiet
    (fun c hc hid => hid ▸ hbudget _ _ c (h.budget c hc)) fun _ _ => rfl
  refine stepBudget_of_quiet ?_ fun env id => (haside.out env id).trans (hout env id)
  rw [Sys.carried_eq hstamps]
  exact hcounted.aside haside

/-- Settling: a generation stamps the calls of the snapshot, or none. -/
theorem stepBudget_settleFires (h : Counted s made)
    (hkept : respectsBudget g (s, made) (.settleFires env) = true) :
    StepBudget g s made (.settleFires env) (s.idle.handle g (.settleFires env)) := by
  have hfired : Counted { s.idle with nm.tmrSettle := none } made := h.congr rfl rfl rfl
  simp only [Sys.handle]
  rcases Sys.settleHandler_cases g env { s.idle with nm.tmrSettle := none } with
    ⟨hstarts, hwork⟩ | ⟨hstopped, -⟩ | ⟨hstarts, r, haside, heq⟩
  · have hstamps (id : Nat) : s.stamps g (.settleFires env) id = false := by
      simp only [Sys.stamps, show s.startsGeneration env = false from hstarts, Bool.false_and]
    rcases hwork with haside | ⟨r, err, haside, hfailed⟩
    · refine stepBudget_aside h hstamps (Sys.Aside.trans ?_ haside)
      exact .of_eq rfl rfl rfl
    · obtain ⟨hcounted, hnone⟩ := (hfired.aside haside).failPendingMigrations
        (fun id => haside.out (some env) id) err hfailed
      refine ⟨?_, fun c hc hpos => ?_⟩
      · rw [Sys.carried_eq hstamps]
        exact hcounted
      · have hzero : offers (SysAct.settleFires env).env c.id _ = 0 := hnone c (haside.calls ▸ hc)
        rw [hzero] at hpos
        exact absurd hpos (Nat.lt_irrefl 0)
  · exact absurd (hfired.started.symm.trans hstopped) (by decide)
  · have hstarts : s.startsGeneration env = true := hstarts
    have hnew : Counted ({ s.idle with nm.tmrSettle := none } : Sys).newGeneration made :=
      hfired.congr rfl rfl rfl
    have hcounted : Counted r made := hnew.aside haside
    have hcalls : r.calls = s.calls := haside.calls
    have hout (id : Nat) : offers (some env) id r.out = 0 := haside.out (some env) id
    cases hreinvite : s.nm.reinviteCalls with
    | false =>
        have hstamps (id : Nat) : s.stamps g (.settleFires env) id = false := by
          simp [Sys.stamps, hreinvite]
        rw [heq, show ({ s.idle with nm.tmrSettle := none } : Sys).nm.reinviteCalls = false from
          hreinvite, if_neg (by simp)]
        refine stepBudget_of_quiet ?_ fun env' id => haside.out env' id
        rw [Sys.carried_eq hstamps]
        exact hcounted
    | true =>
        have hgen : r.nm.gen = u32 (s.nm.gen + 1) := haside.gen
        have hnew : ∀ c ∈ s.calls.take netMaxSnap, c.netMigGen ≠ u32 (s.nm.gen + 1) := by
          simpa [respectsBudget, hstarts, hreinvite] using hkept
        have hstamped : ∀ c ∈ s.calls.take netMaxSnap, s.stamps g (.settleFires env) c.id = true := by
          intro c hc
          simp only [Sys.stamps, hstarts, hreinvite, Bool.true_and]
          exact List.any_eq_true.mpr ⟨c, hc, by simp [hnew c hc]⟩
        have hpast : ∀ c ∈ s.calls.drop netMaxSnap,
            s.stamps g (.settleFires env) c.id = false := by
          intro c hc
          simp only [Sys.stamps, hstarts, hreinvite, Bool.true_and]
          refine List.any_eq_false.mpr fun d hd => ?_
          have hne : d.id ≠ c.id := by
            intro hid
            obtain rfl := List.inj_on_of_nodup_map h.nodup (List.mem_of_mem_take hd)
              (List.mem_of_mem_drop hc) hid
            exact List.disjoint_take_drop (List.Nodup.of_map _ h.nodup) le_rfl hd hc
          simp [hne]
        rw [heq, show ({ s.idle with nm.tmrSettle := none } : Sys).nm.reinviteCalls = true from
          hreinvite, if_pos rfl]
        obtain ⟨hcounted', hlimit⟩ := hcounted.migrateCalls g env
          (s.carried g (.settleFires env) made) hout
          (fun c hc => by
            rw [hcalls] at hc
            exact ⟨hgen ▸ hnew c hc, by simp [Sys.carried, hstamped c hc]⟩)
          (fun c hc => by
            rw [hcalls] at hc
            simp [Sys.carried, hpast c hc])
        refine ⟨hcounted', fun c hc hpos => ?_⟩
        obtain ⟨hle, hreached⟩ := hlimit c (hcalls ▸ hc) hpos
        rw [hcalls] at hreached
        refine ⟨⟨env, rfl, hle.trans_eq ?_⟩, .inl (hstamped c hreached)⟩
        obtain ⟨hid, hbc, hacct, -, hstall, hrestarted, -⟩ :=
          @Call.claim_spec r.nm r.now c (hgen ▸ hnew c hreached)
        obtain ⟨hid', hbc', hacct', -, hstall', hrestarted', -⟩ :=
          @Call.claim_spec s.newGeneration.nm s.now c (hnew c hreached)
        rw [Sys.atOffer, hstamped c hreached, if_pos rfl,
          Call.maxAttemptsFor_nm haside.maxAttempts haside.iceHandover]
        exact Call.maxAttemptsFor_congr (hid.trans hid'.symm) (hbc.trans hbc'.symm)
          (hacct.trans hacct'.symm) (hstall.trans hstall'.symm) (hrestarted.trans hrestarted'.symm)

/-- Every step of a run that respects the budget. One case for each event. -/
theorem stepBudget_handle {act : SysAct} (h : Counted s made) (hen : s.enabled act = true)
    (hkept : respectsBudget g (s, made) act = true) : StepBudget g s made act (s.idle.handle g act) := by
  have hidle : Counted s.idle made := h.congr rfl rfl rfl
  cases act with
  | createCall id acct state =>
      have hfresh : ∀ c ∈ s.calls, c.id ≠ id := by simpa [Sys.enabled] using hen
      refine stepBudget_of_quiet ⟨h.started, h.pos, h.lt, ?_, ?_, ?_⟩ fun _ _ => rfl
      · simp only [Sys.handle, Sys.idle, List.map_append, List.nodup_append]
        refine ⟨h.nodup, by simp, ?_⟩
        intro id' hid' id'' hid''
        obtain ⟨c, hc, rfl⟩ := List.mem_map.mp hid'
        obtain rfl : id'' = id := by simpa [Call.wrapNew] using hid''
        exact hfresh c hc
      · intro c hc
        rcases List.mem_append.mp hc with hc | hc
        · exact h.live c hc
        · obtain rfl := List.mem_singleton.mp hc
          rfl
      · intro c hc
        rcases List.mem_append.mp hc with hc | hc
        · have hne : id ≠ c.id := Ne.symm (hfresh c hc)
          have hcarried : s.carried g (.createCall id acct state) made c.id = made c.id := by
            simp [Sys.carried, Sys.stamps, hne]
          rw [hcarried]
          exact h.budget c hc
        · obtain rfl := List.mem_singleton.mp hc
          rw [Sys.carried, if_pos (by simp [Sys.stamps, Call.wrapNew])]
          exact Call.budgeted_of_over (Nat.zero_le _) (.inl rfl)
  | callClosed id =>
      refine stepBudget_of_quiet ?_ fun _ _ => rfl
      rw [Sys.carried_eq fun _ => rfl]
      refine ⟨h.started, h.pos, h.lt, (List.filter_sublist.map _).nodup h.nodup, ?_, ?_⟩
      · exact fun c hc => h.live c (List.mem_filter.mp hc).1
      · exact fun c hc => h.budget c (List.mem_filter.mp hc).1
  | callRinging id =>
      exact stepBudget_onCall id (fun c => { c with state := .ringing }) h
        (fun _ => rfl) (fun _ => .of_eq rfl rfl) (fun _ => rfl) (fun _ _ => rfl)
        (fun _ _ _ h => ⟨h.offers, h.first, h.room, h.deferred⟩) .refl
  | callHeld id =>
      exact stepBudget_onCall id (fun c => { c with state := .held }) h
        (fun _ => rfl) (fun _ => .of_eq rfl rfl) (fun _ => rfl) (fun _ _ => rfl)
        (fun _ _ _ h => ⟨h.offers, h.first, h.room, h.deferred⟩) .refl
  | callLocalHold id hold =>
      exact stepBudget_onCall id (fun c => { c with localHold := hold }) h
        (fun _ => rfl) (fun _ => .of_eq rfl rfl) (fun _ => rfl) (fun _ _ => rfl)
        (fun _ _ _ h => ⟨h.offers, h.first, h.room, h.deferred⟩) .refl
  | callEstablished id =>
      exact stepBudget_onCall id (fun c => ({ c with state := .established }).adaptCallStart s.now) h
        (fun _ => rfl) (fun _ => .of_eq rfl rfl) (fun _ => rfl) (fun _ _ => rfl)
        (fun _ _ _ h => ⟨h.offers, h.first, h.room, h.deferred⟩) (Sys.quiet_callRefreshable id).aside
  | callResumed id =>
      exact stepBudget_onCall id (fun c => { c with state := .established }) h
        (fun _ => rfl) (fun _ => .of_eq rfl rfl) (fun _ => rfl) (fun _ _ => rfl)
        (fun _ _ _ h => ⟨h.offers, h.first, h.room, h.deferred⟩) (Sys.quiet_callRefreshable id).aside
  | callSdpAnswer id env =>
      refine stepBudget_onCall id (fun c => c.sdpAnswer g s.nm s.now env) h
        (fun _ => rfl) (fun _ => Call.works_sdpAnswer.adds) (fun c => ?_) (fun env' c => ?_)
        (fun _ _ c h => ?_) .refl
      all_goals
        unfold Call.sdpAnswer
        repeat' split
      all_goals first | exact ⟨h.offers, h.first, h.room, h.deferred⟩ | rfl
  | statsTick id packets setupPending env => exact stepBudget_statsTick h id packets setupPending
  | settleFires env => exact stepBudget_settleFires h hkept
  | verifyFires env =>
      have hfired : Counted { s.idle with nm.tmrVerify := none } made := h.congr rfl rfl rfl
      have hroom : ∀ c ∈ s.calls.take netMaxSnap, c.lostRoom g s.nm env (made c.id) = false := by
        simpa [respectsBudget] using hkept
      obtain ⟨hcounted, hlimit⟩ := hfired.verifyHandler g env rfl hroom
      refine ⟨?_, fun c hc hpos => ?_⟩
      · rw [Sys.carried_eq fun _ => rfl]
        exact hcounted
      · obtain ⟨hle, hthrough⟩ := hlimit c hc hpos
        refine ⟨⟨env, rfl, ?_⟩, .inr (not_or.mp hthrough)⟩
        rw [Sys.carried_eq fun _ => rfl]
        exact hle
  | networkChanged env => exact stepBudget_aside h (fun _ => rfl) (Sys.quiet_netmonTrigger env true).aside
  | pollFires env =>
      refine stepBudget_aside h (fun _ => rfl) ?_
      have hpoll : s.idle.Aside { s.idle with nm.tmrPoll := none } :=
        .of_eq rfl rfl rfl
      obtain ⟨tmrPoll, heq⟩ := Sys.pollHandler_eq env (s := { s.idle with nm.tmrPoll := none })
        h.started
      simp only [Sys.handle]
      rw [heq]
      exact (hpoll.trans (Sys.quiet_netmonTrigger env false).aside).trans
        (.of_eq rfl rfl rfl)
  | account id act => exact stepBudget_aside h (fun _ => rfl) (Sys.quiet_onAccount id act).aside
  | setPolicy reinvite hangup =>
      refine stepBudget_of_quiet ?_ fun _ _ => rfl
      rw [Sys.carried_eq fun _ => rfl]
      exact h.congr rfl rfl rfl
  | _ => exact stepBudget_aside h (fun _ => rfl) (.of_eq rfl rfl rfl)

variable {p : Sys × (Nat → Nat)} {t : Trace SysAct SysOut}

theorem countedSystem_step {p' : Sys × (Nat → Nat)} {act : SysAct} {os : List SysOut}
    (hstep : (countedSystem g).step p act = some (p', os)) :
    p.1.enabled act = true ∧ p'.1 = p.1.idle.handle g act ∧ os = p'.1.out ∧
      p'.2 = fun id => p.1.carried g act p.2 id + offers act.env id os := by
  obtain ⟨hsys, hmade⟩ := Machine.withHistory_step.mp hstep
  obtain ⟨hen, hafter, hos⟩ := system_step hsys
  exact ⟨hen, hafter, hos, hmade⟩

/-- Every call of a run that respects the budget has room for what it may still be sent. -/
theorem counted_run (hmax : g.netMaxAttempts < 2 ^ 32)
    (hrun : (countedSystem g).Run (fun p act => respectsBudget g p act) p t) :
    Counted p.1 p.2 := by
  refine hrun.stateInvariant (I := fun p => Counted p.1 p.2) ?_ ?_
  · rintro ⟨s, made⟩ ⟨⟨now, up, curLaddr, rfl⟩, -⟩
    have hlt : g.maxAttempts < 2 ^ 32 := by
      unfold Cfg.maxAttempts
      split
      · decide
      · exact hmax
    exact ⟨rfl, g.maxAttempts_pos, hlt, List.nodup_nil, by simp, by simp⟩
  · rintro ⟨s, made⟩ act ⟨s', made'⟩ os hcounted hkept hstep
    obtain ⟨hen, hafter, hos, hmade⟩ := countedSystem_step hstep
    rw [hmade, hos, hafter]
    exact (stepBudget_handle hcounted hen hkept).1

/-- **The offers of a round are bounded.** In a run that respects the budget, every step keeps every
call's offers within `max_attempts_for` as the last of them finds it, a stale-ICE call under FAIL_FAST
gets one in a handover's round, and a call that is through with its round gets none. -/
theorem offers_within_budget (hmax : g.netMaxAttempts < 2 ^ 32)
    (hrun : (countedSystem g).Run (fun p act => respectsBudget g p act) p t) :
    (countedSystem g).Run (WithinBudget g) p t := by
  induction hrun with
  | start hinit => exact .start hinit
  | step hprev hkept hstep ih =>
      refine ih.step (fun p' os hstep' c hc hpos => ?_) hstep
      obtain ⟨hen, hafter, hos, hmade⟩ := countedSystem_step hstep'
      obtain ⟨-, hbudget⟩ := stepBudget_handle (counted_run hmax hprev) hen hkept
      rw [← hafter, ← hos] at hbudget
      obtain ⟨⟨env, henv, hle⟩, hthrough⟩ := hbudget c hc hpos
      rw [hmade]
      refine ⟨⟨env, henv, hle, fun hstale hstall => hle.trans_eq ?_⟩, hthrough⟩
      simp only [Call.staleIce, Bool.and_eq_true, decide_eq_true_eq, Bool.not_eq_true'] at hstale
      rw [Call.maxAttemptsFor, if_neg (by simp [hstall]), if_pos ⟨hstale.1.1, hstale.1.2, hstale.2⟩]

/-- A stall repair whose first offer does not bring the media back makes a second one. -/
theorem offers_within_budget_repair :
    ∃ (p : Sys × (Nat → Nat)) (t : Trace SysAct SysOut),
      (countedSystem configInit).Run (WithinBudget configInit) p t ∧ p.2 1 = 2 := by
  obtain ⟨p, t, hrun, hmade⟩ := Machine.exists_run_of_exec
    (M := countedSystem configInit) (s := (Sys.justStarted configInit, fun _ => 0))
    (fun p act => respectsBudget configInit p act) ⟨justStarted_init _, rfl⟩
    [.createCall 1 none .calling, .callEstablished 1, .elapse 4000, .statsTick 1 0 false .calm,
      .elapse 1, .verifyFires .calm, .elapse 1500, .verifyFires .calm]
    (fun p _ => decide (p.2 1 = 2)) (by decide +kernel)
  exact ⟨p, t, offers_within_budget (by decide) hrun, of_decide_eq_true hmade⟩

/-- FAIL_FAST without regard to what began the round. -/
def OnceIfStale (g : Cfg) (p : Sys × (Nat → Nat)) (act : SysAct) : Prop :=
  ∀ p' os, (countedSystem g).step p act = some (p', os) → ∀ c ∈ p.1.calls,
    0 < offers act.env c.id os → ∀ env, act.env = some env →
      (p.1.atOffer g act c).staleIce g p.1.nm env = true → p'.2 c.id ≤ 1

/-- The network of `calm` for calls with ICE that cannot be restarted. -/
def NetEnv.stale : NetEnv :=
  { NetEnv.calm with
    call := fun id =>
      { NetEnv.calm.call id with iceActive := true, iceRestart := some .other } }

/-- The network of `calm` at a new address, where no re-INVITE can be sent. -/
def NetEnv.refusing : NetEnv :=
  { NetEnv.calm with
    call := fun id =>
      { NetEnv.calm.call id with laddr := some (.v4 0xc0000208), resetTransp := some .other } }

/-- An account on UDP that asks for ICE. -/
def CallAcct.withIce : CallAcct := { id := 1, ua := true, parsedTransport := .udp, iceEnabled := true }

/-- The configuration `voxsdk_config_init` leaves, with FAIL_FAST for calls whose ICE is stale. -/
def Cfg.failFast : Cfg := { configInit with netIceHandover := .failFast }

/-- A stall repair is not the handover FAIL_FAST is about: it rotates through its own budget. And when
ICE comes up on a call whose first offer was refused, the deferred second one is past the limit. -/
theorem offers_past_budget :
    (¬ ∀ (g : Cfg) (p : Sys × (Nat → Nat)) (t : Trace SysAct SysOut) (act : SysAct),
      (countedSystem g).Run Machine.Always p t → OnceIfStale g p act) ∧
    ¬ ∀ (g : Cfg) (p : Sys × (Nat → Nat)) (t : Trace SysAct SysOut) (act : SysAct),
      (countedSystem g).Run Machine.Always p t → WithinBudget g p act := by
  have hinit : (countedSystem .failFast).init (Sys.justStarted .failFast, fun _ => 0) :=
    ⟨justStarted_init _, rfl⟩
  constructor
  · intro h
    obtain ⟨p, t, hrun, hend⟩ := Machine.exists_run_of_exec (fun _ _ => true) hinit
      [.createCall 1 (some .withIce) .calling, .callEstablished 1, .elapse 4000,
        .statsTick 1 0 false .stale, .elapse 1, .verifyFires .stale, .elapse 1500]
      (fun p _ => p.1.calls.any fun c =>
        ((countedSystem .failFast).step p
          (.verifyFires .stale)).any fun r : (Sys × (Nat → Nat)) × List SysOut =>
            decide (0 < offers (some .stale) c.id r.2) && decide (r.1.2 c.id = 2) &&
              (p.1.atOffer .failFast (.verifyFires .stale)
                c).staleIce .failFast p.1.nm .stale)
      (by decide +kernel)
    obtain ⟨c, hc, hstep⟩ := List.any_eq_true.mp hend
    obtain ⟨⟨p', os⟩, hstep, hsecond⟩ := (Option.any_eq_true _ _).mp hstep
    simp only [Bool.and_eq_true, decide_eq_true_eq] at hsecond
    obtain ⟨⟨hpos, hmade⟩, hstale⟩ := hsecond
    have honce := h _ p t _ hrun.always p' os hstep c hc hpos .stale rfl hstale
    omega
  · intro h
    obtain ⟨p, t, hrun, hend⟩ := Machine.exists_run_of_exec (fun _ _ => true) hinit
      [.createCall 1 (some .withIce) .calling, .callEstablished 1, .networkChanged .refusing,
        .elapse 1500, .settleFires .refusing, .elapse 4000]
      (fun p _ => p.1.calls.any fun c =>
        ((countedSystem .failFast).step p
          (.verifyFires .stale)).any fun r : (Sys × (Nat → Nat)) × List SysOut =>
            decide (0 < offers (some .stale) c.id r.2) && decide (r.1.2 c.id = 2) &&
              decide ((p.1.atOffer .failFast
                (.verifyFires .stale) c).maxAttemptsFor
                  .failFast p.1.nm .stale = 1))
      (by decide +kernel)
    obtain ⟨c, hc, hstep⟩ := List.any_eq_true.mp hend
    obtain ⟨⟨p', os⟩, hstep, hsecond⟩ := (Option.any_eq_true _ _).mp hstep
    simp only [Bool.and_eq_true, decide_eq_true_eq] at hsecond
    obtain ⟨⟨hpos, hmade⟩, hlimit⟩ := hsecond
    obtain ⟨⟨env, henv, hle, -⟩, -⟩ := h _ p t _ hrun.always p' os hstep c hc hpos
    obtain rfl : NetEnv.stale = env := Option.some.inj henv
    rw [hlimit] at hle
    omega

end VoxSdk
