import VoxSdk.Proof.PackedEvents
import VoxSdk.Proof.SdpShelter

/-!
# Owned clones

A clone says what the event said, from a buffer of its own. It takes over the reference to the wrapper that ends
with the event, and takes one to the wrapper in which an SDP event has its SDP.
-/

namespace VoxSdk

open Reactive

/-- How many references a queued event holds to a wrapper. -/
def QueuedEvent.holds (q : QueuedEvent) (call : Nat) : Nat :=
  if q.derefAfterDeliver = some call then 1 else 0

/-- `own`, in the block `n` of the memory `m'`, is a clone of the event that was in the block `o` of `m`: it says
the same, none of its strings is in the buffer of `o`, the reference of `old` is its own now and no other one is
taken, but that to the call of an SDP event, which is alive. -/
structure ClonedFrom (m m' : EventMem) (o n : Nat) (old own : QueuedEvent) : Prop where
  here : m'.qevs n = some own
  same : ∃ said : Event (Option CStr), old.ev.map m.read = said.map some ∧ own.ev.map m'.read = said.map some
  apart : ∀ off, .buf o off ∉ own.ev.strings
  left : m'.qevs o = some { old with derefAfterDeliver := none }
  moved : ∀ call, old.derefAfterDeliver = some call → own.derefAfterDeliver = some call
  counted : ∀ call, m'.refs call + old.holds call = m.refs call + own.holds call
  held : ∀ call, old.ev.sdpCall = some call → own.derefAfterDeliver = some call ∧ 0 < m.refs call

/-- Where a string is that lasts as long as the event `own`, which is in the block `n`. -/
inductive CharPtr.Kept (n : Nat) (own : QueuedEvent) : CharPtr → Prop where
  | null : Kept n own .null
  | buf (off : Nat) : Kept n own (.buf n off)
  | localSdp {id : Nat} : own.derefAfterDeliver = some id → Kept n own (.localSdp id)
  | remoteSdp {id : Nat} : own.derefAfterDeliver = some id → Kept n own (.remoteSdp id)

/-- All strings of the event last as long as it does. -/
def SelfContained (n : Nat) (own : QueuedEvent) : Prop := ∀ s ∈ own.ev.strings, s.Kept n own

namespace EventMem

variable {m : EventMem} {o n : Nat} {old : QueuedEvent}

theorem sdpCall_rebased (o n : Nat) (ev : Event CharPtr) : (ev.rebased o n).sdpCall = ev.sdpCall := by
  cases ev <;> rfl

/-- The clone is the event with its pointers moved. Only for an SDP event that holds nothing a reference is
taken. -/
inductive CloneStep (m : EventMem) (o n : Nat) (old : QueuedEvent) : QueuedEvent × EventMem → Prop where
  | moved (h : old.ev.sdpCall = none ∨ old.derefAfterDeliver ≠ none) (own : QueuedEvent)
      (hown : own = { old with ev := old.ev.rebased o n }) :
      CloneStep m o n old (own, { m with
        qevs := Function.update (Function.update m.qevs o (some { old with derefAfterDeliver := none })) n (some own) })
  | referenced (call : Nat) (hcall : old.ev.sdpCall = some call) (hnone : old.derefAfterDeliver = none)
      (own : QueuedEvent) (hown : own = { old with ev := old.ev.rebased o n, derefAfterDeliver := some call }) :
      CloneStep m o n old (own, { m with
        qevs := Function.update (Function.update m.qevs o (some { old with derefAfterDeliver := none })) n (some own)
        refs := Function.update m.refs call (m.refs call + 1) })

theorem cloneStep (m : EventMem) (o n : Nat) (old : QueuedEvent) : CloneStep m o n old (m.qevClone o n old) := by
  unfold qevClone
  cases hcall : old.ev.sdpCall with
  | none =>
      simp only [sdpCall_rebased, hcall]
      exact .moved (.inl hcall) _ rfl
  | some call =>
      cases hderef : old.derefAfterDeliver with
      | none =>
          simp only [sdpCall_rebased, hcall]
          exact .referenced call hcall hderef _ rfl
      | some id =>
          simp only [sdpCall_rebased, hcall]
          exact .moved (.inr (by simp [hderef])) _ (by rw [hderef])

namespace CloneStep

variable {r : QueuedEvent × EventMem}

theorem ev (h : CloneStep m o n old r) : r.1.ev = old.ev.rebased o n := by
  cases h with
  | moved _ own hown | referenced _ _ _ own hown => rw [hown]

theorem buf (h : CloneStep m o n old r) : r.1.buf = old.buf := by
  cases h with
  | moved _ own hown | referenced _ _ _ own hown => rw [hown]

theorem qevs_old (h : CloneStep m o n old r) (hne : o ≠ n) :
    r.2.qevs o = some { old with derefAfterDeliver := none } := by
  cases h with
  | moved | referenced =>
      dsimp only
      rw [Function.update_of_ne hne, Function.update_self]

theorem qevs_own (h : CloneStep m o n old r) : r.2.qevs n = some r.1 := by
  cases h with
  | moved | referenced => exact Function.update_self n _ _

theorem refs_le (h : CloneStep m o n old r) (call : Nat) : m.refs call ≤ r.2.refs call := by
  cases h with
  | moved => exact le_rfl
  | referenced id =>
      dsimp only
      by_cases hid : call = id
      · rw [hid, Function.update_self]
        exact Nat.le_succ _
      · rw [Function.update_of_ne hid]

/-- A string of the event reads the same through the pointer the clone has instead. -/
theorem read_rb (h : CloneStep m o n old r) (hold : m.qevs o = some old) {acct : Option Nat} {s : CharPtr}
    (hs : s.Packed o acct old.ev.sdpCall) (halive : ∀ call, old.ev.sdpCall = some call → 0 < m.refs call) :
    r.2.read (rb o n s) = m.read s := by
  have hkept : ∀ call, old.ev.sdpCall = some call → m.refs call ≠ 0 ∧ r.2.refs call ≠ 0 := fun call hcall =>
    ⟨(halive call hcall).ne', ((halive call hcall).trans_le (h.refs_le call)).ne'⟩
  cases hs with
  | null => rfl
  | buf hoff => rw [rb, if_pos ⟨rfl, hoff⟩, QueuedEvent.read_buf h.qevs_own, QueuedEvent.read_buf hold, h.buf]
  | regErrorStr => cases h with | moved | referenced => rfl
  | localSdp hcall =>
      obtain ⟨hbefore, hafter⟩ := hkept _ hcall
      refine (if_neg hafter).trans (.trans ?_ (if_neg hbefore).symm)
      cases h with | moved | referenced => rfl
  | remoteSdp hcall =>
      obtain ⟨hbefore, hafter⟩ := hkept _ hcall
      refine (if_neg hafter).trans (.trans ?_ (if_neg hbefore).symm)
      cases h with | moved | referenced => rfl

theorem moved_deref (h : CloneStep m o n old r) (call : Nat) (hcall : old.derefAfterDeliver = some call) :
    r.1.derefAfterDeliver = some call := by
  cases h with
  | moved _ own hown => rw [hown, hcall]
  | referenced _ _ hnone => rw [hnone] at hcall; cases hcall

theorem counted (h : CloneStep m o n old r) (call : Nat) :
    r.2.refs call + old.holds call = m.refs call + r.1.holds call := by
  cases h with
  | moved _ own hown => rw [hown]; rfl
  | referenced id _ hnone own hown =>
      have hold : old.holds call = 0 := by simp [QueuedEvent.holds, hnone]
      dsimp only
      rw [hown, hold, QueuedEvent.holds]
      by_cases hid : call = id
      · rw [hid, Function.update_self, if_pos rfl]
      · rw [Function.update_of_ne hid, if_neg fun h => hid (Option.some.inj h).symm]

theorem referenced_deref (h : CloneStep m o n old r) (hnone : old.derefAfterDeliver = none) {call : Nat}
    (hcall : old.ev.sdpCall = some call) : r.1.derefAfterDeliver = some call := by
  cases h with
  | moved h =>
      obtain hno | hsome := h
      · rw [hno] at hcall; cases hcall
      · exact absurd hnone hsome
  | referenced id hid _ own hown => rw [hown, ← hid, hcall]

end CloneStep

end EventMem

/-! ### Clones of what can be queued -/

section Clone

variable {m : EventMem} {o n : Nat} {p : Producer} {old : QueuedEvent} {r : QueuedEvent × EventMem}

theorem rb_ne_buf (hne : o ≠ n) {acct call : Option Nat} {s : CharPtr} (hs : s.Packed o acct call) (off : Nat) :
    rb o n s ≠ .buf o off := by
  cases hs with
  | buf hoff =>
      rw [rb, if_pos ⟨rfl, hoff⟩]
      rintro ⟨⟩
      exact hne rfl
  | _ =>
      intro heq
      cases heq

theorem strings_clone (hqev : p.qev o = some old) (h : m.CloneStep o n old r) :
    r.1.ev.strings = old.ev.strings.map (rb o n) := by
  rw [h.ev, Producer.rebased hqev, Event.strings_map]

theorem sdpCall_alive (hqev : p.qev o = some old) (halive : p.Alive m) :
    ∀ call, old.ev.sdpCall = some call → 0 < m.refs call := by
  rw [Producer.sdpCall_qev hqev]
  exact Producer.alive_iff.mp halive

theorem clonedFrom_of_fits (hqev : p.qev o = some old) (hold : m.qevs o = some old) (hne : o ≠ n)
    (hfit : p.Fits) (halive : p.Alive m) (hacct : ∀ id ∈ p.borrowed, (m.regErrorStr id).isSome)
    (h : m.CloneStep o n old r) : ClonedFrom m r.2 o n old r.1 := by
  have hpacked := Producer.packed hqev hfit
  have hkept := sdpCall_alive hqev halive
  have hread := Producer.reads hqev hold hfit halive hacct
  refine
    { here := h.qevs_own
      same := ⟨p.content m, hread, ?_⟩
      apart := ?_
      left := h.qevs_old hne
      moved := h.moved_deref
      counted := h.counted
      held := fun call hcall =>
        ⟨h.referenced_deref (Producer.derefAfterDeliver_of_sdpCall hqev (Producer.sdpCall_qev hqev ▸ hcall)) hcall,
          hkept call hcall⟩ }
  · calc
      r.1.ev.map r.2.read = old.ev.map (r.2.read ∘ rb o n) := by
        rw [h.ev, Producer.rebased hqev, Event.map_map]
      _ = old.ev.map m.read := Event.map_congr fun s hs => h.read_rb hold (hpacked s hs) hkept
      _ = (p.content m).map some := hread
  · intro off hmem
    rw [strings_clone hqev h] at hmem
    obtain ⟨s, hs, heq⟩ := List.mem_map.mp hmem
    exact rb_ne_buf hne (hpacked s hs) off heq

/-- The clone is one just when the codec's name fits, the wrapper is alive and so is an account that is pointed
to. -/
theorem clonedFrom_iff (hqev : p.qev o = some old) (hold : m.qevs o = some old) (hne : o ≠ n)
    (h : m.CloneStep o n old r) :
    ClonedFrom m r.2 o n old r.1 ↔ p.Fits ∧ p.Alive m ∧ ∀ id ∈ p.borrowed, (m.regErrorStr id).isSome := by
  constructor
  · intro hclone
    refine ⟨?_, ?_, ?_⟩
    · have hapart := hclone.apart
      rw [h.ev] at hapart
      exact Producer.fits_of_apart hqev hapart
    · rw [Producer.alive_iff, ← Producer.sdpCall_qev hqev]
      exact fun call hcall => (hclone.held call hcall).2
    · intro id hid
      obtain ⟨said, hsaid, -⟩ := hclone.same
      have hmem := List.mem_map_of_mem (f := m.read) (Producer.mem_strings_of_borrowed hqev hid)
      rw [← Event.strings_map, hsaid, Event.strings_map] at hmem
      obtain ⟨text, -, htext⟩ := List.mem_map.mp hmem
      rw [← Option.isSome_map (f := some)]
      exact Option.isSome_iff_exists.mpr ⟨text, htext.symm⟩
  · rintro ⟨hfit, halive, hacct⟩
    exact clonedFrom_of_fits hqev hold hne hfit halive hacct h

/-- A clone is on its own just when the event does not point to an account. -/
theorem selfContained_iff (hqev : p.qev o = some old) (hfit : p.Fits) (hclone : ClonedFrom m r.2 o n old r.1)
    (h : m.CloneStep o n old r) : SelfContained n r.1 ↔ p.borrowed = none := by
  constructor
  · intro hself
    cases hid : p.borrowed with
    | none => rfl
    | some id =>
        have hmem := List.mem_map_of_mem (f := rb o n) (Producer.mem_strings_of_borrowed hqev hid)
        rw [← strings_clone hqev h] at hmem
        cases hself _ hmem
  · intro hnone s hs
    rw [strings_clone hqev h] at hs
    obtain ⟨s, hmem, rfl⟩ := List.mem_map.mp hs
    cases Producer.packed hqev hfit s hmem with
    | null => exact .null
    | buf hoff =>
        rw [rb, if_pos ⟨rfl, hoff⟩]
        exact .buf _
    | regErrorStr hid =>
        rw [hnone] at hid
        cases hid
    | localSdp hcall => exact .localSdp (hclone.held _ hcall).1
    | remoteSdp hcall => exact .remoteSdp (hclone.held _ hcall).1

end Clone

/-! ### Who owns what -/

/-- What an event is to the call wrappers. -/
def Producer.kind : Producer → QevKind
  | incomingCall _ call _ => .incoming call
  | callState _ call _ => (call.map QevKind.callState).getD .other
  | callClosed c _ => .closed (c.call.map Prod.fst)
  | sdpNegotiation call _ _ _ _ => .sdp call
  | _ => .other

theorem Producer.kind_eq_sdp_iff {p : Producer} {call : Nat} : p.kind = .sdp call ↔ p.sdpCall = some call := by
  cases p with
  | callState account id state => cases id <;> simp [kind, sdpCall]
  | _ => simp [kind, sdpCall]

theorem qevClone_of_not_sdp {s : CallWrappers} {old : Qev}
    (h : (∀ call, old.kind ≠ .sdp call) ∨ old.derefAfterDeliver ≠ none) : s.qevClone old = (old, s) := by
  obtain ⟨kind, deref⟩ := old
  cases kind with
  | sdp call =>
      cases deref with
      | none => simp at h
      | some id => rfl
  | _ => rfl

/-- `qev_clone` does to the references what the model of the call wrappers says. -/
theorem qevClone_refines {m : EventMem} {o n : Nat} {p : Producer} {old : QueuedEvent} (hqev : p.qev o = some old)
    (s : CallWrappers) (hrefs : s.refs = m.refs) :
    (s.qevClone { kind := p.kind, derefAfterDeliver := old.derefAfterDeliver }).1 =
        { kind := p.kind, derefAfterDeliver := (m.qevClone o n old).1.derefAfterDeliver } ∧
      (s.qevClone { kind := p.kind, derefAfterDeliver := old.derefAfterDeliver }).2.refs =
        (m.qevClone o n old).2.refs := by
  have hstep := m.cloneStep o n old
  generalize m.qevClone o n old = r at hstep
  cases hstep with
  | moved h own hown =>
      have hno : (∀ call, p.kind ≠ .sdp call) ∨ old.derefAfterDeliver ≠ none := by
        refine h.imp_left fun hnone call hkind => ?_
        rw [Producer.sdpCall_qev hqev, Producer.kind_eq_sdp_iff.mp hkind] at hnone
        cases hnone
      rw [qevClone_of_not_sdp hno, hown]
      exact ⟨rfl, hrefs⟩
  | referenced call hcall hnone own hown =>
      rw [Producer.sdpCall_qev hqev] at hcall
      rw [Producer.kind_eq_sdp_iff.mpr hcall, hnone, hown, ← hrefs]
      exact ⟨rfl, rfl⟩

/-- When the event thread comes to an SDP event, its wrapper is alive, unless the last event of the call was lost
on the way. -/
theorem alive_in_run {m : EventMem} {p : Producer} {max : Nat} {s : CallWrappers} {items : List Qev}
    {t : Trace WrapperAct WrapperOut} {deref : Option Nat}
    (hrun : (callWrappers max).Run (fun s a => s.inOrder a = true ∧ s.hasRoom a = true) s t)
    (hitems : s.queue.items = { kind := p.kind, derefAfterDeliver := deref } :: items) (hrefs : m.refs = s.refs) :
    p.Alive m := by
  rw [Producer.alive_iff, hrefs]
  intro call hcall
  exact sdp_call_alive hrun hitems (Producer.kind_eq_sdp_iff.mpr hcall)

/-! ### Owned clones -/

theorem clone_owned {m : EventMem} {o n : Nat} {p : Producer} {old : QueuedEvent} (hqev : p.qev o = some old)
    (hold : m.qevs o = some old) (hfree : m.qevs n = none) :
    (ClonedFrom m (m.qevClone o n old).2 o n old (m.qevClone o n old).1 ↔
      p.Fits ∧ p.Alive m ∧ ∀ id ∈ p.borrowed, (m.regErrorStr id).isSome) ∧
    (ClonedFrom m (m.qevClone o n old).2 o n old (m.qevClone o n old).1 ∧ SelfContained n (m.qevClone o n old).1 ↔
      p.Fits ∧ p.Alive m ∧ p.borrowed = none) := by
  have hne : o ≠ n := by
    rintro rfl
    rw [hold] at hfree
    cases hfree
  have hstep := m.cloneStep o n old
  have hiff := clonedFrom_iff hqev hold hne hstep
  refine ⟨hiff, ?_, ?_⟩
  · rintro ⟨hclone, hself⟩
    obtain ⟨hfit, halive, -⟩ := hiff.mp hclone
    exact ⟨hfit, halive, (selfContained_iff hqev hfit hclone hstep).mp hself⟩
  · rintro ⟨hfit, halive, hnone⟩
    have hclone := hiff.mpr ⟨hfit, halive, by simp [hnone]⟩
    exact ⟨hclone, (selfContained_iff hqev hfit hclone hstep).mpr hnone⟩

/-- A memory with one queued event, in the block 0. -/
def EventMem.holding (q : QueuedEvent) (refs : Nat → Nat) : EventMem :=
  { qevs := Function.update (fun _ => none) 0 (some q)
    regErrorStr := fun _ => some "503 Service Unavailable".toList
    localSdp := fun _ => []
    remoteSdp := fun _ => []
    refs }

theorem EventMem.qevs_holding (q : QueuedEvent) (refs : Nat → Nat) :
    (holding q refs).qevs 0 = some q ∧ (holding q refs).qevs 1 = none := by
  simp [holding]

/-- What the producer queues there, and its clone in the block 1. -/
def Producer.WellCloned (p : Producer) (refs : Nat → Nat) : Prop :=
  ∃ old, p.qev 0 = some old ∧
    ClonedFrom (.holding old refs) ((EventMem.holding old refs).qevClone 0 1 old).2 0 1 old
      ((EventMem.holding old refs).qevClone 0 1 old).1 ∧
    SelfContained 1 ((EventMem.holding old refs).qevClone 0 1 old).1

/-- The SDP event of a call whose codec has this name. -/
def Producer.sdpOf (name : CStr) : Producer := sdpNegotiation 0 (some name) .dtlsSrtp [] []

theorem clone_owned_sdp : (Producer.sdpOf "opus".toList).WellCloned fun _ => 1 := by
  have hfit : (Producer.sdpOf "opus".toList).Fits := by
    rintro name ⟨⟩
    decide
  obtain ⟨old, hqev⟩ : ∃ old, (Producer.sdpOf "opus".toList).qev 0 = some old := ⟨_, rfl⟩
  obtain ⟨hold, hfree⟩ := EventMem.qevs_holding old fun _ => 1
  exact ⟨old, hqev, (clone_owned hqev hold hfree).2.mpr ⟨hfit, Nat.one_pos, rfl⟩⟩

theorem not_wellCloned {p : Producer} {refs : Nat → Nat}
    (h : ¬p.Fits ∨ (∃ call, p.sdpCall = some call ∧ refs call = 0) ∨ p.borrowed ≠ none) : ¬p.WellCloned refs := by
  rintro ⟨old, hqev, hclone, hself⟩
  obtain ⟨hold, -⟩ := EventMem.qevs_holding old refs
  have hstep := (EventMem.holding old refs).cloneStep 0 1 old
  obtain ⟨hfit, halive, -⟩ := (clonedFrom_iff hqev hold (by decide) hstep).mp hclone
  obtain hcut | ⟨call, hcall, hzero⟩ | hacct := h
  · exact hcut hfit
  · exact (Producer.alive_iff.mp halive call hcall).ne' hzero
  · exact hacct ((selfContained_iff hqev hfit hclone hstep).mp hself)

/-- A call that ends while the queue is full: the event that should keep its wrapper is dropped, that of its SDP
is still queued. A codec name that fills the buffer. And a failed registration that the SDK reports without a
copy of the reason. -/
theorem clone_dangles :
    (∃ (s : CallWrappers) (t : Trace WrapperAct WrapperOut), (callWrappers 1).Run Machine.Always s t ∧
      s.owned = true ∧ s.queue.items = [{ kind := .sdp 0, derefAfterDeliver := none }] ∧ s.refs 0 = 0 ∧
        ((Producer.sdpOf "opus".toList).qev 0).isSome ∧ ¬(Producer.sdpOf "opus".toList).WellCloned s.refs) ∧
    (((Producer.sdpOf (List.replicate 4095 'a')).qev 0).isSome ∧
      ¬(Producer.sdpOf (List.replicate 4095 'a')).WellCloned fun _ => 1) ∧
    ¬(Producer.regState (some 0) (.of .reconnecting .server5xx .acct)).WellCloned fun _ => 1 := by
  refine ⟨?_, ⟨?_, ?_⟩, ?_⟩
  · obtain ⟨s, t, hrun, hend⟩ := Machine.exists_run_of_exec (M := callWrappers 1) (s := .fresh 1 true)
      (fun _ _ => true) ⟨true, true, rfl⟩ [.invite true, .sdpEvent 0 true, .closed 0 true]
      (fun s _ => s.owned && decide (s.queue.items = [{ kind := .sdp 0, derefAfterDeliver := none }]) &&
        decide (s.refs 0 = 0)) (by decide)
    simp only [Bool.and_eq_true, decide_eq_true_eq, and_assoc] at hend
    obtain ⟨howned, hitems, hrefs⟩ := hend
    exact ⟨s, t, hrun.always, howned, hitems, hrefs, rfl, not_wellCloned (.inr (.inl ⟨0, rfl, hrefs⟩))⟩
  · have hroom : ¬bufSize < QueuedEvent.cryptoOff (some (List.replicate 4095 'a')) := by
      rw [QueuedEvent.cryptoOff, Option.map_some, List.length_replicate]
      decide
    rw [Producer.sdpOf, Producer.qev, QueuedEvent.sdpNegotiation, if_neg hroom]
    rfl
  · refine not_wellCloned (.inl fun hfit => ?_)
    have hlt := hfit _ rfl
    rw [List.length_replicate] at hlt
    exact absurd hlt (by decide)
  · exact not_wellCloned (.inr (.inr (by decide)))

end VoxSdk
