import Mathlib.Data.List.Perm.Basic
import VoxSdk.CallWrapper

/-!
# One owner for each wrapper

The reference a call wrapper is created with has one owner at a time: the call list, then the queued event
that ends the call, then whoever is given that event. `life` is the order these may come in, `Share` what the
state holds of one wrapper, and `Share.Owned` says that the two agree. It is kept by every step, except where
a handler goes on with a wrapper that `ua_hangup` has closed behind its back, is run for one that was closed
before, or finds no memory for the event that would have taken the reference over.
-/

namespace VoxSdk

open Reactive

/-- Where the creating reference of a wrapper is. -/
inductive Life where
  | unborn
  | listed
  | refused
  | queued
  | ended
  | gone
  deriving DecidableEq

/-- What happens to one wrapper. -/
inductive LifeStep where
  | created
  | touched
  | refused
  | handed
  | ended
  | released
  deriving DecidableEq

def WrapperOut.of (id : Nat) : WrapperOut → Option LifeStep
  | .created i => if i = id then some .created else none
  | .touch i => if i = id then some .touched else none
  | .refused i => if i = id then some .refused else none
  | .handed i => if i = id then some .handed else none
  | .ended i => if i = id then some .ended else none
  | .released i => if i = id then some .released else none
  | .unref _ => none

/-- What a run did to the wrapper `id`. -/
def lifeOf (id : Nat) (os : List WrapperOut) : List LifeStep := os.filterMap (WrapperOut.of id)

/-- A wrapper is used on re_main until its reference is handed over, or its INCOMING_CALL dropped; the
reference is released once, after the call's last event was delivered or dropped. -/
def life : Monitor Life LifeStep where
  start := .unborn
  next
    | .unborn, .created => some .listed
    | .listed, .touched => some .listed
    | .listed, .refused => some .refused
    | .refused, .touched => some .refused
    | .listed, .handed => some .queued
    | .queued, .ended => some .ended
    | .ended, .released | .refused, .released => some .gone
    | _, _ => none

/-- The event owns the creating reference of `id`. -/
def Qev.owns (id : Nat) (ev : Qev) : Bool :=
  decide (ev.derefAfterDeliver = some id) && match ev.kind with | .closed _ => true | _ => false

/-- The event has a reference of its own to `id`. -/
def Qev.borrows (id : Nat) (ev : Qev) : Bool :=
  decide (ev.derefAfterDeliver = some id) && match ev.kind with | .closed _ => false | _ => true

/-- What the state holds of one wrapper: the queued events that own it, the ones that were taken from the
queue, and the events that have a reference of their own. -/
structure Share where
  born : Bool
  listed : Bool
  refs : Nat
  queued : Nat
  held : Nat
  clones : Nat
  seen : List LifeStep

/-- The events the consumer has: the one that is being delivered, and the clones not yet released. -/
def CallWrappers.taken (s : CallWrappers) : List Qev := s.delivering.toList ++ s.kept

def CallWrappers.share (id : Nat) (s : CallWrappers) : Share where
  born := decide (id < s.next)
  listed := s.listed id
  refs := s.refs id
  queued := s.queue.items.countP (Qev.owns id)
  held := s.taken.countP (Qev.owns id)
  clones := s.taken.countP (Qev.borrows id)
  seen := lifeOf id s.out

/-- The creating reference is where `q` says and nowhere else, and the count is right. -/
structure Share.Owned (w : Share) (q : Life) : Prop where
  born : w.born = true ↔ q ≠ .unborn
  listed : w.listed = true ↔ q = .listed
  queued : w.queued = if q = .queued then 1 else 0
  held : w.held = if q = .ended then 1 else 0
  refs : w.refs = (if q = .listed ∨ q = .queued ∨ q = .ended then 1 else 0) + w.clones
  fresh : q = .unborn → w.clones = 0

/-- The steps that leave the wrappers in order: there is memory for the event that ends a call, the
application's requests are for calls that have not ended, and `ua_hangup` does not end the call before it
returns to a handler that goes on with it. -/
def CallWrappers.inOrder (s : CallWrappers) : WrapperAct → Bool
  | .closed _ qevOk => qevOk
  | .setupWatch _ closesNow qevOk | .failMigration _ _ closesNow qevOk => !closesNow || qevOk
  | .hangup id closesNow _ | .reject id closesNow _ => s.listed id && !closesNow
  | .answer id closesNow qevOk => s.listed id && (!closesNow || qevOk)
  | .hold id => s.listed id
  | _ => true

/-! ### What the operations do to a share -/

variable {id j : Nat} {s s' r : CallWrappers} {ev : Qev} {w : Share} {q q₀ : Life}

theorem lifeOf_append (os os' : List WrapperOut) : lifeOf id (os ++ os') = lifeOf id os ++ lifeOf id os' :=
  List.filterMap_append

theorem Qev.owns_or_borrows (h : ev.derefAfterDeliver = some id) :
    ev.owns id = true ∧ ev.borrows id = false ∨ ev.owns id = false ∧ ev.borrows id = true := by
  unfold Qev.owns Qev.borrows
  cases ev.kind <;> simp [h]

theorem Qev.not_owns (h : ev.derefAfterDeliver ≠ some id) : ev.owns id = false ∧ ev.borrows id = false := by
  simp [Qev.owns, Qev.borrows, h]

theorem share_emit (o : WrapperOut) :
    (s.emit o).share id = { s.share id with seen := (s.share id).seen ++ (o.of id).toList } := by
  simp only [CallWrappers.share, CallWrappers.emit, CallWrappers.taken, lifeOf_append]
  cases h : o.of id <;> simp [lifeOf, h] <;> rfl

theorem share_memDeref :
    (s.memDeref id).share id = { s.share id with refs := (s.share id).refs - 1 } := by
  simp [CallWrappers.share, CallWrappers.memDeref, CallWrappers.taken]
  rfl

theorem share_memDeref_ne (hj : j ≠ id) : (s.memDeref j).share id = s.share id := by
  simp [CallWrappers.share, CallWrappers.memDeref, CallWrappers.taken, Function.update_of_ne hj.symm]
  rfl

theorem share_derefQev_ne (h : ev.derefAfterDeliver ≠ some id) :
    (s.derefQev ev).share id = s.share id := by
  unfold CallWrappers.derefQev
  cases hderef : ev.derefAfterDeliver with
  | none => rfl
  | some i =>
      have hi : i ≠ id := fun hi => h (hi ▸ hderef)
      rw [share_emit, share_memDeref_ne hi]
      cases ev.kind <;> simp [WrapperOut.of, hi]

theorem share_derefQev_owns (h : ev.owns id = true) :
    (s.derefQev ev).share id =
      { s.share id with refs := (s.share id).refs - 1, seen := (s.share id).seen ++ [.released] } := by
  obtain ⟨hderef, hkind⟩ := Bool.and_eq_true_iff.mp h
  unfold CallWrappers.derefQev
  rw [of_decide_eq_true hderef]
  cases hk : ev.kind with
  | closed call => simp [share_emit, share_memDeref, WrapperOut.of]
  | _ => simp [hk] at hkind

theorem share_derefQev_borrows (h : ev.borrows id = true) :
    (s.derefQev ev).share id = { s.share id with refs := (s.share id).refs - 1 } := by
  obtain ⟨hderef, hkind⟩ := Bool.and_eq_true_iff.mp h
  unfold CallWrappers.derefQev
  rw [of_decide_eq_true hderef]
  cases hk : ev.kind with
  | closed call => simp [hk] at hkind
  | _ => simp [share_emit, share_memDeref, WrapperOut.of]

theorem share_endsCall_ne {kind : QevKind} (h : kind ≠ .closed (some id)) :
    (s.endsCall kind).share id = s.share id := by
  unfold CallWrappers.endsCall
  split
  · rename_i i
    have hi : i ≠ id := fun hi => h (by rw [hi])
    simp [share_emit, WrapperOut.of, hi]
  · rfl

theorem share_endsCall :
    (s.endsCall (.closed (some id))).share id =
      { s.share id with seen := (s.share id).seen ++ [.ended] } := by
  simp [CallWrappers.endsCall, share_emit, WrapperOut.of]

/-- Queueing or losing an event that neither ends the call nor owns the wrapper. -/
theorem share_postQev_ne (hkind : ev.kind ≠ .closed (some id)) (hderef : ev.derefAfterDeliver ≠ some id) :
    (s.postQev ev).2.share id = s.share id := by
  unfold CallWrappers.postQev
  cases hpush : s.queue.push ev with
  | none => exact (share_derefQev_ne hderef).trans (share_endsCall_ne hkind)
  | some queue =>
      obtain ⟨-, hitems, -⟩ := CountedQueue.push_some hpush
      simp [CallWrappers.share, CallWrappers.taken, hitems, (Qev.not_owns hderef).1]

theorem share_postQev_closed :
    let w' := (s.postQev { kind := .closed (some id), derefAfterDeliver := some id }).2.share id
    w' = { s.share id with queued := (s.share id).queued + 1 } ∨
      w' = { s.share id with
        refs := (s.share id).refs - 1, seen := (s.share id).seen ++ [.ended, .released] } := by
  intro w'
  have howns : Qev.owns id { kind := .closed (some id), derefAfterDeliver := some id } = true := by
    simp [Qev.owns]
  unfold w' CallWrappers.postQev
  cases hpush : s.queue.push { kind := .closed (some id), derefAfterDeliver := some id } with
  | none =>
      refine .inr ((share_derefQev_owns howns).trans ?_)
      rw [share_endsCall]
      simp
  | some queue =>
      obtain ⟨-, hitems, -⟩ := CountedQueue.push_some hpush
      exact .inl (by simp [CallWrappers.share, CallWrappers.taken, hitems, howns])

theorem share_unregister :
    (s.unregister id).share id =
      { s.share id with listed := false, seen := (s.share id).seen ++ [.touched] } := by
  unfold CallWrappers.unregister
  rw [share_emit]
  simp [CallWrappers.share, CallWrappers.taken, WrapperOut.of]

theorem share_unregister_ne (hj : j ≠ id) : (s.unregister j).share id = s.share id := by
  unfold CallWrappers.unregister
  rw [share_emit]
  simp [CallWrappers.share, CallWrappers.taken, WrapperOut.of, Function.update_of_ne hj.symm, hj]

theorem share_wrapNew (hid : s.next = id) :
    s.wrapNew.share id =
      { s.share id with born := true, listed := true, refs := 1, seen := (s.share id).seen ++ [.created] } := by
  unfold CallWrappers.wrapNew
  rw [share_emit]
  simp [CallWrappers.share, CallWrappers.taken, WrapperOut.of, hid]

theorem share_wrapNew_ne (hid : s.next ≠ id) : s.wrapNew.share id = s.share id := by
  have hborn : id < s.next + 1 ↔ id < s.next := by omega
  unfold CallWrappers.wrapNew
  rw [share_emit]
  simp [CallWrappers.share, CallWrappers.taken, WrapperOut.of, Function.update_of_ne hid.symm, hid, hborn]

/-! ### What the operations do to the owner -/

/-- A share, with what was done to the wrapper since it was as `q₀` says. -/
structure Share.Stands (q₀ : Life) (w : Share) (q : Life) : Prop where
  read : life.read q₀ w.seen = some q
  owned : w.Owned q

theorem read_snoc {steps : List LifeStep} {e : LifeStep} {q' : Life} (h : life.read q₀ steps = some q)
    (hnext : life.next q e = some q') : life.read q₀ (steps ++ [e]) = some q' := by
  rw [Monitor.read_append, h, Option.bind_some, Monitor.read_cons, hnext]
  rfl

/-- One thing that happens to the wrapper, and the share it leaves. -/
theorem Share.Stands.next {w' : Share} {e : LifeStep} {q' : Life} (h : w.Stands q₀ q)
    (hnext : life.next q e = some q') (hseen : w'.seen = w.seen ++ [e]) (howned : w'.Owned q') :
    w'.Stands q₀ q' where
  read := by rw [hseen, read_snoc h.read hnext]
  owned := howned

theorem Share.Stands.listed_of (h : (s.share id).Stands q₀ q) (hlist : s.listed id = true) : q = .listed :=
  h.owned.listed.mp hlist

/-- A handler may look at a wrapper that is on the list. -/
theorem Share.Stands.touch (h : (s.share id).Stands q₀ q) (hlist : s.listed j = true) :
    ((s.emit (.touch j)).share id).Stands q₀ q := by
  rw [share_emit]
  by_cases hj : j = id
  · subst hj
    obtain rfl := h.listed_of hlist
    have howned := h.owned
    refine h.next (e := .touched) rfl (by simp [WrapperOut.of]) ?_
    exact ⟨howned.born, howned.listed, howned.queued, howned.held, howned.refs, howned.fresh⟩
  · simpa [WrapperOut.of, hj] using h

theorem Share.Stands.wrapNew (h : (s.share id).Stands q₀ q) : ∃ q', (s.wrapNew.share id).Stands q₀ q' := by
  by_cases hid : s.next = id
  · have hborn : ¬(s.share id).born = true := by simp [CallWrappers.share, hid]
    have hq : q = .unborn := by
      by_contra hq
      exact hborn (h.owned.born.mpr hq)
    subst hq
    rw [share_wrapNew hid]
    refine ⟨.listed, h.next (e := .created) rfl rfl ?_⟩
    have howned := h.owned
    have hclones := howned.fresh rfl
    exact ⟨by simp, by simp, howned.queued, howned.held, by simp [hclones], fun hq => by cases hq⟩
  · rw [share_wrapNew_ne hid]
    exact ⟨q, h⟩

/-- A wrapper whose INCOMING_CALL is lost goes with it. -/
theorem Share.Stands.dropIncoming (h : (s.share id).Stands q₀ q) (hlist : s.listed j = true) :
    ∃ q', ((s.dropIncoming j).share id).Stands q₀ q' := by
  unfold CallWrappers.dropIncoming
  rw [share_emit]
  by_cases hj : j = id
  · subst hj
    obtain rfl := h.listed_of hlist
    have hread : life.read q₀ ((s.share j).seen ++ [.refused] ++ [.touched] ++ [.released]) = some .gone :=
      read_snoc (read_snoc (read_snoc h.read rfl) rfl) rfl
    have howned := h.owned
    refine ⟨.gone, ⟨?_, ?_⟩⟩
    · simpa [share_memDeref, share_unregister, share_emit, WrapperOut.of] using hread
    · simp only [share_memDeref, share_unregister, share_emit]
      refine ⟨?_, by simp, howned.queued, howned.held, ?_, fun hq => by cases hq⟩
      · exact iff_of_true (howned.born.mpr (by decide)) (by decide)
      · simp [howned.refs]
  · have hsame : (((s.emit (.refused j)).unregister j).memDeref j).share id = s.share id := by
      rw [share_memDeref_ne hj, share_unregister_ne hj, share_emit]
      simp [WrapperOut.of, hj]
    rw [hsame]
    exact ⟨q, by simpa [WrapperOut.of, hj] using h⟩

/-- The call closes: its reference goes to the queued event, or with it. -/
theorem Share.Stands.beventClosed (h : (s.share id).Stands q₀ q) (hlist : s.listed j = true) :
    ∃ q', ((s.beventClosed j true).share id).Stands q₀ q' := by
  simp only [CallWrappers.beventClosed, if_true]
  have hbc (bc : Nat → Bool) : { s with bc }.share id = s.share id := rfl
  by_cases hj : j = id
  · subst hj
    obtain rfl := h.listed_of hlist
    have howned := h.owned
    have hborn : (s.share j).born = true := howned.born.mpr (by decide)
    have hread : life.read q₀ ((s.share j).seen ++ [.touched] ++ [.handed]) = some .queued :=
      read_snoc (read_snoc h.read rfl) rfl
    have hqueued : (s.share j).queued = 0 := howned.queued
    have hheld : (s.share j).held = 0 := howned.held
    have hrefs : (s.share j).refs = 1 + (s.share j).clones := howned.refs
    rcases @share_postQev_closed j
      (({ s with bc := Function.update s.bc j false }.unregister j).emit (.handed j)) with heq | heq
    · refine ⟨.queued, ?_⟩
      rw [heq, share_emit, share_unregister, hbc]
      exact ⟨by simpa [WrapperOut.of] using hread, by simp [hborn], by simp, by simp [hqueued],
        by simp [hheld], by simp [hrefs], fun hq => by cases hq⟩
    · refine ⟨.gone, ?_⟩
      rw [heq, share_emit, share_unregister, hbc]
      have hread' : life.read q₀ ((s.share j).seen ++ [.touched] ++ [.handed] ++ [.ended] ++ [.released]) =
          some .gone := read_snoc (read_snoc hread rfl) rfl
      exact ⟨by simpa [WrapperOut.of] using hread', by simp [hborn], by simp, by simp [hqueued],
        by simp [hheld], by simp [hrefs], fun hq => by cases hq⟩
  · refine ⟨q, ?_⟩
    rw [share_postQev_ne (by simp [hj]) (by simp [hj]), share_emit, share_unregister_ne hj, hbc]
    simpa [WrapperOut.of, hj] using h

theorem Share.Stands.uaEnds {closesNow qevOk : Bool} (h : (s.share id).Stands q₀ q)
    (hok : closesNow = true → qevOk = true) :
    ∃ q', ((s.uaEnds j closesNow qevOk).share id).Stands q₀ q' := by
  unfold CallWrappers.uaEnds
  split
  · rename_i hends
    obtain ⟨hcloses, hlist⟩ := Bool.and_eq_true_iff.mp hends
    rw [hok hcloses]
    exact h.beventClosed hlist
  · exact ⟨q, h⟩

theorem Share.Stands.visit {kind : QevKind} {qevOk : Bool} (h : (s.share id).Stands q₀ q)
    (hlist : s.listed j = true) (hkind : kind ≠ .closed (some id)) :
    ((s.visit j kind qevOk).share id).Stands q₀ q := by
  unfold CallWrappers.visit
  cases qevOk with
  | false => exact h.touch hlist
  | true =>
      simp only [if_true]
      rw [share_postQev_ne hkind (by simp)]
      exact h.touch hlist

/-! ### The consumer's side -/

/-- The share with one more event in the consumer's hands. -/
def Share.gets (id : Nat) (ev : Qev) (w : Share) : Share :=
  { w with held := w.held + (ev.owns id).toNat, clones := w.clones + (ev.borrows id).toNat }

theorem Share.gets_ne (h : ev.derefAfterDeliver ≠ some id) : w.gets id ev = w := by
  obtain ⟨howns, hborrows⟩ := Qev.not_owns h
  simp [Share.gets, howns, hborrows]

theorem share_delivering (h : r.delivering = none) :
    { r with delivering := some ev }.share id = (r.share id).gets id ev := by
  have hheld : r.taken = r.kept := by rw [CallWrappers.taken, h]; rfl
  simp only [CallWrappers.share, Share.gets, hheld]
  simp only [CallWrappers.taken, Option.toList_some, List.singleton_append, List.countP_cons]
  cases ev.owns id <;> cases ev.borrows id <;> rfl

theorem share_kept : { r with kept := r.kept ++ [ev] }.share id = (r.share id).gets id ev := by
  simp only [CallWrappers.share, Share.gets, CallWrappers.taken, List.countP_append, List.countP_singleton,
    ← Nat.add_assoc]
  cases ev.owns id <;> cases ev.borrows id <;> rfl

/-- In owned mode the application gets a clone, and the callback an event that owns nothing any more. -/
theorem share_clone {own : Qev} (h : r.delivering = none) :
    { r with kept := r.kept ++ [own], delivering := some { ev with derefAfterDeliver := none } }.share id =
      (r.share id).gets id own := by
  have hnone : { r with kept := r.kept ++ [own] }.delivering = none := h
  have hshare := @share_delivering id _ { ev with derefAfterDeliver := none } hnone
  rw [Share.gets_ne (by simp), share_kept] at hshare
  exact hshare

theorem share_eraseIdx {i : Nat} (h : s.kept[i]? = some ev) :
    s.share id = ({ s with kept := s.kept.eraseIdx i }.share id).gets id ev := by
  obtain ⟨hi, rfl⟩ := List.getElem?_eq_some_iff.mp h
  have hcount (p : Qev → Bool) :
      s.kept.countP p = (s.kept.eraseIdx i).countP p + if p s.kept[i] then 1 else 0 := by
    rw [← (List.getElem_cons_eraseIdx_perm hi).countP_eq p, List.countP_cons]
  simp only [CallWrappers.share, Share.gets, CallWrappers.taken, List.countP_append, hcount, ← Nat.add_assoc]
  cases s.kept[i].owns id <;> cases s.kept[i].borrows id <;> rfl

theorem Share.Stands.derefQev (h : ((r.share id).gets id ev).Stands q₀ q) :
    ∃ q', ((r.derefQev ev).share id).Stands q₀ q' := by
  by_cases hderef : ev.derefAfterDeliver = some id
  · have howned := h.owned
    rcases Qev.owns_or_borrows hderef with ⟨howns, hborrows⟩ | ⟨howns, hborrows⟩
    · have hheld := howned.held
      simp only [Share.gets, howns, Bool.toNat_true] at hheld
      have hq : q = .ended := by
        by_contra hq
        rw [if_neg hq] at hheld
        omega
      subst hq
      have hborn := howned.born.mpr (by decide)
      have hlist : ¬(r.share id).listed = true := fun hlist => by cases howned.listed.mp hlist
      have hrefs := howned.refs
      simp only [Share.gets, hborrows] at hrefs
      rw [share_derefQev_owns howns]
      refine ⟨.gone, h.next (e := .released) rfl rfl ?_⟩
      refine ⟨iff_of_true hborn (by decide), iff_of_false hlist (by decide), howned.queued, ?_, ?_,
        fun hq => by cases hq⟩
      · simpa using hheld
      · simp [hrefs]
    · rw [share_derefQev_borrows hborrows]
      refine ⟨q, h.read, howned.born, howned.listed, howned.queued, ?_, ?_, ?_⟩
      · simpa [Share.gets, howns] using howned.held
      · have hrefs := howned.refs
        simp only [Share.gets, hborrows, Bool.toNat_true] at hrefs
        simp only [hrefs]
        omega
      · intro hq
        have hclones := howned.fresh hq
        simp [Share.gets, hborrows] at hclones
  · rw [Share.gets_ne hderef] at h
    rw [share_derefQev_ne hderef]
    exact ⟨q, h⟩

/-- The call whose wrapper an event of this kind owns, on the queue. -/
def QevKind.ends : QevKind → Option Nat
  | .closed call => call
  | _ => none

/-- A queued event owns the wrapper whose call it ends and no other; what it points to has been created, and
so has what is on the list. -/
structure Tidy (s : CallWrappers) : Prop where
  deref : ∀ ev ∈ s.queue.items, ev.derefAfterDeliver = ev.kind.ends
  sdp : ∀ ev ∈ s.queue.items, ∀ i, ev.kind = .sdp i → i < s.next
  listed : ∀ i, s.listed i = true → i < s.next

/-- An event taken from the queue is in the event thread's hands. -/
theorem Share.Stands.pop {queue : CountedQueue Qev} (h : (s.share id).Stands q₀ q) (htidy : Tidy s)
    (hpop : s.queue.pop = some (ev, queue)) :
    ∃ q', ((({ s with queue }.endsCall ev.kind).share id).gets id ev).Stands q₀ q' ∧
      (ev.kind = .sdp id → q' ≠ .unborn) := by
  obtain ⟨hitems, -⟩ := CountedQueue.pop_some hpop
  have hmem : ev ∈ s.queue.items := hitems ▸ List.mem_cons_self
  have hderef := htidy.deref ev hmem
  have howned := h.owned
  have hcount : (s.share id).queued = queue.items.countP (Qev.owns id) + (ev.owns id).toNat := by
    simp only [CallWrappers.share, hitems, List.countP_cons]
    cases ev.owns id <;> rfl
  by_cases hkind : ev.kind = .closed (some id)
  · have howns : ev.owns id = true := by simp [Qev.owns, hderef, hkind, QevKind.ends]
    have hborrows : ev.borrows id = false := by simp [Qev.borrows, hkind]
    have hqueued := howned.queued
    rw [hcount, howns] at hqueued
    have hq : q = .queued := by
      by_contra hq
      rw [if_neg hq] at hqueued
      simp at hqueued
    subst hq
    have hborn := howned.born.mpr (by decide)
    have hlist : ¬(s.share id).listed = true := fun hlist => by cases howned.listed.mp hlist
    have hheld : (s.share id).held = 0 := howned.held
    have hrefs : (s.share id).refs = 1 + (s.share id).clones := howned.refs
    rw [hkind, share_endsCall]
    refine ⟨.ended, h.next (e := .ended) rfl rfl ?_, fun hsdp => by cases hsdp⟩
    refine ⟨iff_of_true hborn (by decide), iff_of_false hlist (by decide), ?_, ?_, ?_, fun hq => by cases hq⟩
    · simpa [CallWrappers.share, Share.gets] using hqueued
    · simpa [Share.gets, howns, CallWrappers.share, CallWrappers.taken] using hheld
    · simpa [Share.gets, hborrows, CallWrappers.share, CallWrappers.taken] using hrefs
  · have hne : ev.derefAfterDeliver ≠ some id := by
      rw [hderef]
      intro hends
      apply hkind
      cases hk : ev.kind with
      | closed call => rw [hk] at hends; exact congrArg QevKind.closed hends
      | _ => rw [hk] at hends; cases hends
    have hsame : { s with queue }.share id = s.share id := by
      rw [(Qev.not_owns hne).1, Bool.toNat_false, Nat.add_zero] at hcount
      have hqueue : queue.items.countP (Qev.owns id) = s.queue.items.countP (Qev.owns id) := hcount.symm
      simp only [CallWrappers.share, CallWrappers.taken, hqueue]
    rw [Share.gets_ne hne, share_endsCall_ne hkind, hsame]
    refine ⟨q, h, fun hsdp => ?_⟩
    have hborn : (s.share id).born = true := decide_eq_true (htidy.sdp ev hmem id hsdp)
    exact howned.born.mp hborn

theorem Share.Stands.qevClone (h : ((r.share id).gets id ev).Stands q₀ q)
    (hsdp : ev.kind = .sdp id → q ≠ .unborn) :
    (((r.qevClone ev).2.share id).gets id (r.qevClone ev).1).Stands q₀ q := by
  unfold CallWrappers.qevClone
  split
  · rename_i i hkind hderef
    have hne : ev.derefAfterDeliver ≠ some id := by simp [hderef]
    rw [Share.gets_ne hne] at h
    by_cases hi : i = id
    · subst hi
      have howned := h.owned
      have hshare : (r.memRef i).share i = { r.share i with refs := (r.share i).refs + 1 } := by
        simp [CallWrappers.share, CallWrappers.memRef, CallWrappers.taken]
        rfl
      rw [hshare]
      refine ⟨h.read, howned.born, howned.listed, howned.queued, ?_, ?_, fun hq => absurd hq (hsdp hkind)⟩
      · simpa [Share.gets, Qev.owns, hkind] using howned.held
      · have hrefs := howned.refs
        simp only [Share.gets, Qev.borrows, hkind, decide_true, Bool.and_true, Bool.toNat_true, hrefs]
        omega
    · have hshare : (r.memRef i).share id = r.share id := by
        simp [CallWrappers.share, CallWrappers.memRef, CallWrappers.taken, Function.update_of_ne (Ne.symm hi)]
        rfl
      rw [hshare, Share.gets_ne (by simpa using hi)]
      exact h
  · exact h

theorem qevClone_delivering : (r.qevClone ev).2.delivering = r.delivering := by
  unfold CallWrappers.qevClone
  split <;> rfl

theorem endsCall_delivering {kind : QevKind} : (s.endsCall kind).delivering = s.delivering := by
  unfold CallWrappers.endsCall
  split <;> rfl

theorem Share.Stands.takeEvent {queue : CountedQueue Qev} {cloneOk : Bool} (h : (s.share id).Stands q₀ q)
    (htidy : Tidy s) (hdelivering : s.delivering = none) (hpop : s.queue.pop = some (ev, queue)) :
    ∃ q', (({ s with queue }.takeEvent cloneOk ev).share id).Stands q₀ q' := by
  obtain ⟨q', hgot, hsdp⟩ := h.pop htidy hpop
  have hnone : ({ s with queue }.endsCall ev.kind).delivering = none := endsCall_delivering.trans hdelivering
  simp only [CallWrappers.takeEvent]
  split
  · exact hgot.derefQev
  · split
    · refine ⟨q', ?_⟩
      rw [share_delivering hnone]
      exact hgot
    · split
      · exact hgot.derefQev
      · refine ⟨q', ?_⟩
        rw [share_clone (qevClone_delivering.trans hnone)]
        exact hgot.qevClone hsdp

/-! ### One step -/

theorem Tidy.of_eq (h : Tidy s) (hqueue : r.queue = s.queue) (hlisted : r.listed = s.listed)
    (hnext : r.next = s.next) : Tidy r where
  deref := hqueue ▸ h.deref
  sdp := by rw [hqueue, hnext]; exact h.sdp
  listed := by rw [hlisted, hnext]; exact h.listed

theorem Tidy.emit (h : Tidy s) (o : WrapperOut) : Tidy (s.emit o) := ⟨h.deref, h.sdp, h.listed⟩

theorem Tidy.derefQev (h : Tidy s) (ev : Qev) : Tidy (s.derefQev ev) := by
  unfold CallWrappers.derefQev
  split
  · exact h
  · exact ⟨h.deref, h.sdp, h.listed⟩

theorem Tidy.endsCall (h : Tidy s) (kind : QevKind) : Tidy (s.endsCall kind) := by
  unfold CallWrappers.endsCall
  split
  · exact h.emit _
  · exact h

theorem Tidy.postQev (h : Tidy s) (hderef : ev.derefAfterDeliver = ev.kind.ends)
    (hsdp : ∀ i, ev.kind = .sdp i → i < s.next) : Tidy (s.postQev ev).2 := by
  unfold CallWrappers.postQev
  cases hpush : s.queue.push ev with
  | none => exact (h.endsCall _).derefQev _
  | some queue =>
      obtain ⟨-, hitems, -⟩ := CountedQueue.push_some hpush
      refine ⟨?_, ?_, h.listed⟩
      · intro ev' hmem
        rw [hitems] at hmem
        rcases List.mem_append.mp hmem with hmem | hmem
        · exact h.deref ev' hmem
        · rw [List.mem_singleton.mp hmem]
          exact hderef
      · intro ev' hmem
        rw [hitems] at hmem
        rcases List.mem_append.mp hmem with hmem | hmem
        · exact h.sdp ev' hmem
        · rw [List.mem_singleton.mp hmem]
          exact hsdp

theorem Tidy.unregister (h : Tidy s) : Tidy (s.unregister j) := by
  refine ⟨h.deref, h.sdp, fun i hlist => ?_⟩
  simp only [CallWrappers.unregister, CallWrappers.emit] at hlist
  by_cases hi : i = j
  · simp [hi] at hlist
  · rw [Function.update_of_ne hi] at hlist
    exact h.listed i hlist

theorem Tidy.wrapNew (h : Tidy s) : Tidy s.wrapNew := by
  refine ⟨h.deref, fun ev hmem i hkind => Nat.lt_succ_of_lt (h.sdp ev hmem i hkind), fun i hlist => ?_⟩
  simp only [CallWrappers.wrapNew, CallWrappers.emit] at hlist
  by_cases hi : i = s.next
  · exact hi ▸ Nat.lt_succ_self _
  · rw [Function.update_of_ne hi] at hlist
    exact Nat.lt_succ_of_lt (h.listed i hlist)

theorem Tidy.memDeref (h : Tidy s) : Tidy (s.memDeref j) := ⟨h.deref, h.sdp, h.listed⟩

theorem Tidy.dropIncoming (h : Tidy s) : Tidy (s.dropIncoming j) :=
  (h.emit _).unregister.memDeref.emit _

theorem Tidy.beventClosed {qevOk : Bool} (h : Tidy s) : Tidy (s.beventClosed j qevOk) := by
  have hclosed : Tidy ({ s with bc := Function.update s.bc j false }.unregister j) :=
    (h.of_eq rfl rfl rfl : Tidy { s with bc := Function.update s.bc j false }).unregister
  unfold CallWrappers.beventClosed
  cases qevOk with
  | false => exact hclosed
  | true => exact (hclosed.emit _).postQev rfl fun i hsdp => by cases hsdp

theorem Tidy.uaEnds {closesNow qevOk : Bool} (h : Tidy s) : Tidy (s.uaEnds j closesNow qevOk) := by
  unfold CallWrappers.uaEnds
  split
  · exact h.beventClosed
  · exact h

theorem Tidy.visit {kind : QevKind} {qevOk : Bool} (h : Tidy s) (hlist : s.listed j = true)
    (hends : kind.ends = none) (hsdp : ∀ i, kind = .sdp i → i = j) : Tidy (s.visit j kind qevOk) := by
  unfold CallWrappers.visit
  cases qevOk with
  | false => exact h.emit _
  | true => exact (h.emit _).postQev hends.symm fun i hkind => hsdp i hkind ▸ h.listed j hlist

theorem Tidy.qevClone (h : Tidy s) (ev : Qev) : Tidy (s.qevClone ev).2 := by
  unfold CallWrappers.qevClone
  split
  · exact ⟨h.deref, h.sdp, h.listed⟩
  · exact h

theorem Tidy.takeEvent {cloneOk : Bool} (h : Tidy s) (ev : Qev) : Tidy (s.takeEvent cloneOk ev) := by
  have hended := h.endsCall ev.kind
  simp only [CallWrappers.takeEvent]
  split
  · exact hended.derefQev ev
  · split
    · exact hended.of_eq rfl rfl rfl
    · split
      · exact hended.derefQev ev
      · exact (hended.qevClone ev).of_eq rfl rfl rfl

theorem incoming_kept {wrapOk qevOk : Bool} (h : (s.share id).Stands q₀ q) (htidy : Tidy s) :
    Tidy (s.beventIncoming wrapOk qevOk) ∧
      ∃ q', ((s.beventIncoming wrapOk qevOk).share id).Stands q₀ q' := by
  unfold CallWrappers.beventIncoming
  cases wrapOk with
  | false => exact ⟨htidy, q, h⟩
  | true =>
      obtain ⟨q', hnew⟩ := h.wrapNew
      have hlist : s.wrapNew.listed s.next = true := Function.update_self ..
      cases qevOk with
      | false => exact ⟨htidy.wrapNew.dropIncoming, hnew.dropIncoming hlist⟩
      | true =>
          have hpost : Tidy (s.wrapNew.postQev { kind := .incoming s.next, derefAfterDeliver := none }).2 :=
            htidy.wrapNew.postQev rfl fun i hsdp => by cases hsdp
          have hsame := @share_postQev_ne id s.wrapNew
            { kind := .incoming s.next, derefAfterDeliver := none } (by simp) (by simp)
          have hlist' : (s.wrapNew.postQev
              { kind := .incoming s.next, derefAfterDeliver := none }).2.listed s.next = true := by
            unfold CallWrappers.postQev
            split <;> exact hlist
          simp only [Bool.not_true, Bool.false_eq_true, if_false]
          split
          · rename_i r heq
            rw [heq] at hpost hsame
            exact ⟨hpost, q', hsame ▸ hnew⟩
          · rename_i r heq
            rw [heq] at hpost hsame hlist'
            rw [← hsame] at hnew
            exact ⟨hpost.dropIncoming, hnew.dropIncoming hlist'⟩

/-- A step that is in order keeps every wrapper's share in order. -/
theorem act_kept {a : WrapperAct} (h : (s.share id).Stands q₀ q) (htidy : Tidy s)
    (horder : s.inOrder a = true) (hact : s.act a = some s') :
    Tidy s' ∧ ∃ q', (s'.share id).Stands q₀ q' := by
  cases a with
  | incoming wrapOk qevOk =>
      obtain rfl := Option.some.inj hact
      exact incoming_kept h htidy
  | invite wrapOk =>
      obtain rfl := Option.some.inj hact
      cases wrapOk with
      | false => exact ⟨htidy, q, h⟩
      | true => exact ⟨htidy.wrapNew, h.wrapNew⟩
  | closed j qevOk =>
      obtain ⟨hlist, ⟨⟩⟩ := Option.ite_none_right_eq_some.mp hact
      obtain rfl : qevOk = true := horder
      exact ⟨htidy.beventClosed, h.beventClosed hlist⟩
  | callState j qevOk =>
      obtain ⟨hlist, ⟨⟩⟩ := Option.ite_none_right_eq_some.mp hact
      exact ⟨htidy.visit hlist rfl (by simp), q, h.visit hlist (by simp)⟩
  | sdpEvent j qevOk =>
      obtain ⟨hlist, ⟨⟩⟩ := Option.ite_none_right_eq_some.mp hact
      exact ⟨htidy.visit hlist rfl (by simp), q, h.visit hlist (by simp)⟩
  | otherEvent kind =>
      simp only [CallWrappers.act] at hact
      split at hact
      · obtain rfl := Option.some.inj hact
        exact ⟨htidy.postQev rfl (by simp), q, by rwa [share_postQev_ne (by simp) (by simp)]⟩
      · obtain rfl := Option.some.inj hact
        exact ⟨htidy.postQev rfl (by simp), q, by rwa [share_postQev_ne (by simp) (by simp)]⟩
      · cases hact
  | setupWatch j closesNow qevOk =>
      obtain ⟨hlist, ⟨⟩⟩ := Option.ite_none_right_eq_some.mp hact
      refine ⟨(htidy.emit _).uaEnds, (h.touch hlist).uaEnds ?_⟩
      simpa [CallWrappers.inOrder, Bool.or_eq_true, imp_iff_not_or] using horder
  | failMigration j emitOk closesNow qevOk =>
      obtain ⟨hlist, ⟨⟩⟩ := Option.ite_none_right_eq_some.mp hact
      refine ⟨(htidy.visit hlist rfl (by simp)).uaEnds, (h.visit hlist (by simp)).uaEnds ?_⟩
      simpa [CallWrappers.inOrder, Bool.or_eq_true, imp_iff_not_or] using horder
  | hangup j closesNow qevOk =>
      obtain ⟨-, ⟨⟩⟩ := Option.ite_none_right_eq_some.mp hact
      obtain ⟨hlist, hcloses⟩ := Bool.and_eq_true_iff.mp horder
      obtain rfl : closesNow = false := by simpa using hcloses
      have hlook := h.touch hlist
      simp only [CallWrappers.hangupFn]
      split
      · exact ⟨htidy.emit _, q, hlook⟩
      · exact ⟨(htidy.emit _).emit _, q, hlook.touch hlist⟩
  | reject j closesNow qevOk =>
      obtain ⟨-, ⟨⟩⟩ := Option.ite_none_right_eq_some.mp hact
      obtain ⟨hlist, hcloses⟩ := Bool.and_eq_true_iff.mp horder
      obtain rfl : closesNow = false := by simpa using hcloses
      have hlook := h.touch hlist
      simp only [CallWrappers.rejectFn]
      split <;> exact ⟨(htidy.emit _).emit _, q, hlook.touch hlist⟩
  | answer j closesNow qevOk =>
      obtain ⟨-, ⟨⟩⟩ := Option.ite_none_right_eq_some.mp hact
      obtain ⟨hlist, hok⟩ := Bool.and_eq_true_iff.mp horder
      have hlook := h.touch hlist
      simp only [CallWrappers.answerFn]
      split
      · exact ⟨htidy.emit _, q, hlook⟩
      · refine ⟨(htidy.emit _).uaEnds, hlook.uaEnds ?_⟩
        simpa [Bool.or_eq_true, imp_iff_not_or] using hok
  | hold j =>
      obtain ⟨-, ⟨⟩⟩ := Option.ite_none_right_eq_some.mp hact
      exact ⟨htidy.emit _, q, h.touch horder⟩
  | setEventHandler cb owned =>
      obtain rfl := Option.some.inj hact
      exact ⟨htidy.of_eq rfl rfl rfl, q, h⟩
  | takeEvent cloneOk =>
      simp only [CallWrappers.act] at hact
      split at hact
      · rename_i ev queue hdelivering hpop
        obtain rfl := Option.some.inj hact
        obtain ⟨hitems, -⟩ := CountedQueue.pop_some hpop
        have hmem {ev' : Qev} (hmem : ev' ∈ queue.items) : ev' ∈ s.queue.items :=
          hitems ▸ List.mem_cons_of_mem _ hmem
        have hrest : Tidy { s with queue } :=
          ⟨fun ev' h => htidy.deref ev' (hmem h), fun ev' h => htidy.sdp ev' (hmem h), htidy.listed⟩
        exact ⟨hrest.takeEvent ev, h.takeEvent htidy hdelivering hpop⟩
      · cases hact
  | callbackReturns =>
      obtain ⟨ev, hdelivering, rfl⟩ := Option.map_eq_some_iff.mp hact
      have hgot : s.share id = ({ s with delivering := none }.share id).gets id ev := by
        rw [← share_delivering rfl, ← hdelivering]
      exact ⟨(htidy.of_eq rfl rfl rfl : Tidy { s with delivering := none }).derefQev ev,
        (hgot ▸ h).derefQev⟩
  | eventRelease i =>
      obtain ⟨ev, hkept, rfl⟩ := Option.map_eq_some_iff.mp hact
      exact ⟨(htidy.of_eq rfl rfl rfl : Tidy { s with kept := s.kept.eraseIdx i }).derefQev ev,
        (share_eraseIdx hkept ▸ h).derefQev⟩

/-! ### Every run -/

variable {max : Nat} {t : Trace WrapperAct WrapperOut}

theorem callWrappers_step {a : WrapperAct} {os : List WrapperOut}
    (h : (callWrappers max).step s a = some (s', os)) : s.idle.act a = some s' ∧ os = s'.out := by
  obtain ⟨r, hact, heq⟩ := Option.map_eq_some_iff.mp h
  obtain ⟨rfl, rfl⟩ := Prod.mk.inj heq
  exact ⟨hact, rfl⟩

/-- Whatever it went through, a wrapper that is gone was released once, and one that is not was not. -/
theorem released_once {steps : List LifeStep} (h : life.read q₀ steps = some q) :
    steps.count .released + (if q₀ = .gone then 1 else 0) = if q = .gone then 1 else 0 := by
  induction steps generalizing q₀ with
  | nil =>
      obtain rfl := Option.some.inj h
      simp
  | cons e steps ih =>
      rw [Monitor.read_cons] at h
      obtain ⟨r, hnext, hrest⟩ := Option.bind_eq_some_iff.mp h
      have hcount := ih hrest
      rw [List.count_cons]
      have hstep : (if e == .released then 1 else 0) + (if q₀ = .gone then 1 else 0) =
          if r = .gone then 1 else 0 := by
        cases q₀ <;> cases e <;> cases hnext <;> rfl
      omega

/-- A run treats the wrapper `id` as `life` allows, its creating reference is where `life` says, and is
released once if the wrapper is gone. -/
def OwnedOnce (id : Nat) (s : CallWrappers) (t : Trace WrapperAct WrapperOut) : Prop :=
  ∃ q, life.read .unborn (lifeOf id t.outs) = some q ∧ (s.share id).Owned q ∧
    (lifeOf id t.outs).count .released = if q = .gone then 1 else 0

/-- **A wrapper has one owner, and is released once.** As long as every step is in order, what a run does to
a wrapper is what `life` allows, and the reference it was created with is where `life` says. -/
theorem wrapper_owned (hrun : (callWrappers max).Run (fun s a => s.inOrder a) s t) (id : Nat) :
    OwnedOnce id s t := by
  let R (s : CallWrappers) (q : Life) : Prop := Tidy s ∧ (s.share id).Owned q
  have hinit (s : CallWrappers) (h : (callWrappers max).init s) : R s life.start := by
    obtain ⟨cb, owned, rfl⟩ := h
    refine ⟨⟨by simp [CountedQueue.empty], by simp [CountedQueue.empty], by simp⟩, ?_⟩
    refine ⟨?_, ?_, rfl, rfl, rfl, fun _ => rfl⟩
    · simp [CallWrappers.share, life]
    · simp [CallWrappers.share, life]
  have hstep (s : CallWrappers) (q : Life) (a : WrapperAct) (s' : CallWrappers) (os : List WrapperOut)
      (h : R s q) (horder : s.inOrder a = true) (hstep : (callWrappers max).step s a = some (s', os)) :
      ∃ q', life.read q (lifeOf id os) = some q' ∧ R s' q' := by
    obtain ⟨htidy, howned⟩ := h
    obtain ⟨hact, rfl⟩ := callWrappers_step hstep
    have hidle : (s.idle.share id).Stands q q :=
      ⟨rfl, howned.born, howned.listed, howned.queued, howned.held, howned.refs, howned.fresh⟩
    have horder' : s.idle.inOrder a = true := by cases a <;> exact horder
    obtain ⟨htidy', q', hstands⟩ := act_kept hidle (htidy.of_eq rfl rfl rfl) horder' hact
    exact ⟨q', hstands.read, htidy', hstands.owned⟩
  obtain ⟨q, hread, -, howned⟩ := hrun.accepted (lifeOf id) (fun _ _ => lifeOf_append _ _) hinit hstep
  exact ⟨q, hread, howned, released_once hread⟩

/-- What the wrappers are when `voxsdk_init` returns. -/
def CallWrappers.fresh (max : Nat) (owned : Bool) : CallWrappers :=
  { next := 0
    refs := fun _ => 0
    listed := fun _ => false
    bc := fun _ => false
    queue := .empty max
    cb := true
    owned
    delivering := none
    kept := []
    out := [] }

/-- A call that comes in, negotiates and ends, delivered as clones: the wrapper is gone when the application
has released the last of them. -/
theorem wrapper_owned_clones :
    ∃ (s : CallWrappers) (t : Trace WrapperAct WrapperOut), OwnedOnce 0 s t ∧
      (lifeOf 0 t.outs).count .released = 1 ∧ s.refs 0 = 0 := by
  obtain ⟨s, t, hrun, hend⟩ := Machine.exists_run_of_exec (M := callWrappers 4096)
    (s := .fresh 4096 true) (fun s a => s.inOrder a) ⟨true, true, rfl⟩
    [.incoming true true, .answer 0 false true, .sdpEvent 0 true, .closed 0 true, .takeEvent true,
      .callbackReturns, .takeEvent true, .callbackReturns, .takeEvent true, .eventRelease 2,
      .callbackReturns, .eventRelease 1]
    (fun s t => decide ((lifeOf 0 t.outs).count .released = 1) && decide (s.refs 0 = 0)) (by decide +kernel)
  simp only [Bool.and_eq_true, decide_eq_true_eq] at hend
  exact ⟨s, t, wrapper_owned hrun 0, hend⟩

/-- An `ua_hangup` that reports the end of the call before it returns: `hangup_fn` then writes to a wrapper
whose reference it has handed over. And without memory for the event that ends the call, nobody has it. -/
theorem wrapper_disowned :
    (∃ (s : CallWrappers) (t : Trace WrapperAct WrapperOut),
      (callWrappers 4096).Run Machine.Always s t ∧
        lifeOf 0 t.outs = [.created, .touched, .touched, .handed, .touched] ∧ ¬OwnedOnce 0 s t) ∧
    ∃ (s : CallWrappers) (t : Trace WrapperAct WrapperOut),
      (callWrappers 4096).Run Machine.Always s t ∧ lifeOf 0 t.outs = [.created, .touched] ∧
        s.listed 0 = false ∧ s.queue.items = [] ∧ s.refs 0 = 1 ∧ ¬OwnedOnce 0 s t := by
  constructor
  · obtain ⟨s, t, hrun, hend⟩ := Machine.exists_run_of_exec (M := callWrappers 4096)
      (s := .fresh 4096 false) (fun _ _ => true) ⟨true, false, rfl⟩ [.invite true, .hangup 0 true true]
      (fun _ t => decide (lifeOf 0 t.outs = [.created, .touched, .touched, .handed, .touched])) (by decide)
    have hlife := of_decide_eq_true hend
    refine ⟨s, t, hrun.always, hlife, ?_⟩
    rintro ⟨q, hread, -⟩
    rw [hlife] at hread
    cases hread
  · obtain ⟨s, t, hrun, hend⟩ := Machine.exists_run_of_exec (M := callWrappers 4096)
      (s := .fresh 4096 false) (fun _ _ => true) ⟨true, false, rfl⟩ [.invite true, .closed 0 false]
      (fun s t => decide (lifeOf 0 t.outs = [.created, .touched]) && decide (s.listed 0 = false) &&
        decide (s.queue.items = []) && decide (s.refs 0 = 1)) (by decide)
    simp only [Bool.and_eq_true, decide_eq_true_eq, and_assoc] at hend
    obtain ⟨hlife, hlist, hitems, hrefs⟩ := hend
    refine ⟨s, t, hrun.always, hlife, hlist, hitems, hrefs, ?_⟩
    rintro ⟨q, hread, howned, -⟩
    rw [hlife] at hread
    obtain rfl := Option.some.inj hread
    have hlisted : s.listed 0 = true := howned.listed.mpr rfl
    rw [hlist] at hlisted
    cases hlisted

end VoxSdk
