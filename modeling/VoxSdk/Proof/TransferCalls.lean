import VoxSdk.Proof.TransferApproval

/-!
# The call that is placed for a transfer

What `transfer_accept_fn` does to the wrappers: the new call's own goes from the list to the event that ends the
call, or is dropped; the others are left alone. A number that no wrapper has yet is nowhere in the state.
-/

namespace VoxSdk

open Reactive

/-! ### Wrappers that have been created -/

/-- The wrappers that are listed, have a call or are owned by a queued event have been created. -/
structure Created (s : CallWrappers) : Prop where
  owner : ∀ ev ∈ s.queue.items, ∀ i, ev.derefAfterDeliver = some i → i < s.next
  listed : ∀ i, s.listed i = true → i < s.next
  bc : ∀ i, s.bc i = true → i < s.next

namespace Created

variable {s r : CallWrappers} {ev : Qev} {id n : Nat}

theorem congr (h : Created s) (hqueue : r.queue = s.queue) (hlisted : r.listed = s.listed) (hbc : r.bc = s.bc)
    (hnext : r.next = s.next) : Created r where
  owner := by
    rw [hqueue, hnext]
    exact h.owner
  listed := by
    rw [hlisted, hnext]
    exact h.listed
  bc := by
    rw [hbc, hnext]
    exact h.bc

theorem emit (h : Created s) (o : WrapperOut) : Created (s.emit o) := h.congr rfl rfl rfl rfl

theorem derefQev (h : Created s) (ev : Qev) : Created (s.derefQev ev) := by
  unfold CallWrappers.derefQev
  split
  · exact h
  · exact h.congr rfl rfl rfl rfl

theorem endsCall (h : Created s) (kind : QevKind) : Created (s.endsCall kind) := by
  unfold CallWrappers.endsCall
  split
  · exact h.congr rfl rfl rfl rfl
  · exact h

theorem postQev (h : Created s) (hev : ∀ i, ev.derefAfterDeliver = some i → i < s.next) :
    Created (s.postQev ev).2 := by
  unfold CallWrappers.postQev
  cases hpush : s.queue.push ev with
  | none => exact (h.endsCall _).derefQev _
  | some queue =>
      obtain ⟨-, hitems, -⟩ := CountedQueue.push_some hpush
      refine ⟨fun ev' hmem => ?_, h.listed, h.bc⟩
      rw [hitems] at hmem
      rcases List.mem_append.mp hmem with hold | hnew
      · exact h.owner ev' hold
      · obtain rfl := List.mem_singleton.mp hnew
        exact hev

theorem of_update {f : Nat → Bool} (h : ∀ i, f i = true → i < n) (id : Nat) :
    ∀ i, Function.update f id false i = true → i < n := by
  intro i hi
  by_cases heq : i = id
  · simp [heq] at hi
  · rw [Function.update_of_ne heq] at hi
    exact h i hi

theorem update_new {f : Nat → Bool} (h : ∀ i, f i = true → i < n) :
    ∀ i, Function.update f n true i = true → i < n + 1 := by
  intro i hi
  by_cases heq : i = n
  · omega
  · rw [Function.update_of_ne heq] at hi
    exact Nat.lt_succ_of_lt (h i hi)

theorem unregister (h : Created s) (id : Nat) : Created (s.unregister id) where
  owner := h.owner
  listed := of_update h.listed id
  bc := h.bc

theorem clearBc (h : Created s) (id : Nat) : Created { s with bc := Function.update s.bc id false } where
  owner := h.owner
  listed := h.listed
  bc := of_update h.bc id

theorem wrapNew (h : Created s) : Created s.wrapNew where
  owner ev hmem i hi := Nat.lt_succ_of_lt (h.owner ev hmem i hi)
  listed := update_new h.listed
  bc := update_new h.bc

theorem dropIncoming (h : Created s) (id : Nat) : Created (s.dropIncoming id) :=
  ((h.emit (.refused id)).unregister id).congr rfl rfl rfl rfl

theorem beventClosed (h : Created s) (hlist : s.listed id = true) (qevOk : Bool) :
    Created (s.beventClosed id qevOk) := by
  have hclosed := (h.clearBc id).unregister id
  unfold CallWrappers.beventClosed
  cases qevOk with
  | false => exact hclosed
  | true =>
      apply (hclosed.emit (.handed id)).postQev
      rintro i ⟨⟩
      exact h.listed id hlist

theorem uaEnds (h : Created s) (id : Nat) (closesNow qevOk : Bool) : Created (s.uaEnds id closesNow qevOk) := by
  unfold CallWrappers.uaEnds
  split
  · rename_i hends
    exact h.beventClosed (Bool.and_eq_true_iff.mp hends).2 qevOk
  · exact h

theorem visit (h : Created s) (id : Nat) (kind : QevKind) (qevOk : Bool) : Created (s.visit id kind qevOk) := by
  unfold CallWrappers.visit
  cases qevOk with
  | false => exact h.emit _
  | true => exact (h.emit _).postQev (by simp)

theorem takeEvent (h : Created s) (cloneOk : Bool) (ev : Qev) : Created (s.takeEvent cloneOk ev) := by
  have hended := h.endsCall ev.kind
  have hclone : Created ((s.endsCall ev.kind).qevClone ev).2 := by
    unfold CallWrappers.qevClone
    split
    · exact hended.congr rfl rfl rfl rfl
    · exact hended
  simp only [CallWrappers.takeEvent]
  split
  · exact hended.derefQev ev
  · split
    · exact hended.congr rfl rfl rfl rfl
    · split
      · exact hended.derefQev ev
      · exact hclone.congr rfl rfl rfl rfl

theorem beventIncoming (h : Created s) (wrapOk qevOk : Bool) : Created (s.beventIncoming wrapOk qevOk) := by
  unfold CallWrappers.beventIncoming
  cases wrapOk with
  | false => exact h
  | true =>
      cases qevOk with
      | false => exact h.wrapNew.dropIncoming _
      | true =>
          have hpost : Created (s.wrapNew.postQev { kind := .incoming s.next, derefAfterDeliver := none }).2 :=
            h.wrapNew.postQev (by simp)
          simp only [Bool.not_true, Bool.false_eq_true, if_false]
          split
          · rename_i r heq
            rw [heq] at hpost
            exact hpost
          · rename_i r heq
            rw [heq] at hpost
            exact hpost.dropIncoming _

theorem act {a : WrapperAct} {s' : CallWrappers} (h : Created s) (hact : s.act a = some s') : Created s' := by
  cases a with
  | incoming wrapOk qevOk =>
      obtain rfl := Option.some.inj hact
      exact h.beventIncoming wrapOk qevOk
  | invite wrapOk =>
      obtain rfl := Option.some.inj hact
      cases wrapOk with
      | false => exact h
      | true => exact h.wrapNew
  | closed j qevOk =>
      obtain ⟨hlist, ⟨⟩⟩ := Option.ite_none_right_eq_some.mp hact
      exact h.beventClosed hlist qevOk
  | callState j qevOk | sdpEvent j qevOk =>
      obtain ⟨-, ⟨⟩⟩ := Option.ite_none_right_eq_some.mp hact
      exact h.visit j _ qevOk
  | otherEvent kind =>
      simp only [CallWrappers.act] at hact
      split at hact
      · obtain rfl := Option.some.inj hact
        exact h.postQev (by simp)
      · obtain rfl := Option.some.inj hact
        exact h.postQev (by simp)
      · cases hact
  | setupWatch j closesNow qevOk =>
      obtain ⟨-, ⟨⟩⟩ := Option.ite_none_right_eq_some.mp hact
      exact (h.emit _).uaEnds j closesNow qevOk
  | failMigration j emitOk closesNow qevOk =>
      obtain ⟨-, ⟨⟩⟩ := Option.ite_none_right_eq_some.mp hact
      exact (h.visit j _ emitOk).uaEnds j closesNow qevOk
  | hangup j closesNow qevOk =>
      obtain ⟨-, ⟨⟩⟩ := Option.ite_none_right_eq_some.mp hact
      simp only [CallWrappers.hangupFn]
      split
      · exact h.emit _
      · exact ((h.emit _).uaEnds j closesNow qevOk).emit _
  | reject j closesNow qevOk =>
      obtain ⟨-, ⟨⟩⟩ := Option.ite_none_right_eq_some.mp hact
      simp only [CallWrappers.rejectFn]
      split
      · exact ((h.emit _).uaEnds j closesNow qevOk).emit _
      · exact (h.emit _).emit _
  | answer j closesNow qevOk =>
      obtain ⟨-, ⟨⟩⟩ := Option.ite_none_right_eq_some.mp hact
      simp only [CallWrappers.answerFn]
      split
      · exact h.emit _
      · exact (h.emit _).uaEnds j closesNow qevOk
  | hold j =>
      obtain ⟨-, ⟨⟩⟩ := Option.ite_none_right_eq_some.mp hact
      exact h.emit _
  | setEventHandler cb owned =>
      obtain rfl := Option.some.inj hact
      exact h.congr rfl rfl rfl rfl
  | takeEvent cloneOk =>
      simp only [CallWrappers.act] at hact
      split at hact
      · rename_i ev queue _ hpop
        obtain rfl := Option.some.inj hact
        obtain ⟨hitems, -⟩ := CountedQueue.pop_some hpop
        have hrest : Created { s with queue } :=
          ⟨fun ev' hmem => h.owner ev' (hitems ▸ List.mem_cons_of_mem _ hmem), h.listed, h.bc⟩
        exact hrest.takeEvent cloneOk ev
      · cases hact
  | callbackReturns =>
      obtain ⟨ev, -, rfl⟩ := Option.map_eq_some_iff.mp hact
      exact (h.congr rfl rfl rfl rfl : Created { s with delivering := none }).derefQev ev
  | eventRelease i =>
      obtain ⟨ev, -, rfl⟩ := Option.map_eq_some_iff.mp hact
      exact (h.congr rfl rfl rfl rfl : Created { s with kept := s.kept.eraseIdx i }).derefQev ev

theorem connectEvent (h : Created s) (id : Nat) (e : ConnectEvent) : Created (Transfers.connectEvent id s e) := by
  unfold Transfers.connectEvent
  cases e with
  | callState qevOk =>
      dsimp only
      split
      · exact h.visit id _ qevOk
      · split
        · exact h.postQev (by simp)
        · exact h
  | sdp qevOk =>
      dsimp only
      split
      · exact h.visit id _ qevOk
      · exact h
  | closed qevOk =>
      dsimp only
      split
      · rename_i hlist
        exact h.beventClosed hlist qevOk
      · split
        · exact h.postQev (by simp)
        · exact h

theorem connected {t : Transfers} (h : Created t.calls) (env : AcceptEnv) : Created (t.connected env) := by
  unfold Transfers.connected
  have hnew := h.wrapNew
  revert hnew
  generalize t.calls.wrapNew = c
  induction env.events generalizing c with
  | nil => exact id
  | cons e events ih => exact fun hnew => ih _ (hnew.connectEvent _ e)

theorem dropNew (h : Created s) (id : Nat) : Created (Transfers.dropNew id s) := by
  unfold Transfers.dropNew
  split
  · exact (h.clearBc id).dropIncoming id
  · exact h

theorem acceptStep {t t' : Transfers} {env : AcceptEnv} (h : Created t.calls)
    (hstep : Transfers.AcceptStep id env t t') : Created t'.calls := by
  cases hstep with
  | closed _ | nothing _ _ | unallocated _ _ _ | unwrapped _ _ _ => exact h
  | failed _ _ _ _ _ => exact (h.connected env).dropNew _
  | placed _ _ _ _ => exact (h.connected env).emit _

end Created

/-! ### The wrapper of the new call -/

/-- A call that was created in this step: it is on the list, or the event that ends it has its reference, or
that was released. -/
structure Share.NewCall (w : Share) (q : Life) : Prop where
  read : life.read .unborn w.seen = some q
  place : q = .listed ∨ q = .queued ∨ q = .gone
  listed : w.listed = true ↔ q = .listed
  refs : w.refs = if q = .gone then 0 else 1
  queued : w.queued = if q = .queued then 1 else 0

namespace Share.NewCall

variable {c : CallWrappers} {id : Nat} {q : Life}

theorem wrapNew (h : Created c) (hout : lifeOf c.next c.out = []) : (c.wrapNew.share c.next).NewCall .listed := by
  have hcount : c.queue.items.countP (Qev.owns c.next) = 0 := by
    refine List.countP_eq_zero.mpr fun ev hmem howns => ?_
    have hderef := of_decide_eq_true (Bool.and_eq_true_iff.mp howns).1
    exact absurd (h.owner ev hmem _ hderef) (Nat.lt_irrefl _)
  rw [share_wrapNew rfl]
  refine ⟨?_, .inl rfl, iff_of_true rfl rfl, rfl, hcount⟩
  simp only [CallWrappers.share, hout]
  rfl

theorem listed_of (h : (c.share id).NewCall q) (hlist : c.listed id = true) : q = .listed :=
  h.listed.mp hlist

theorem touch (h : (c.share id).NewCall q) (hlist : c.listed id = true) :
    ((c.emit (.touch id)).share id).NewCall q := by
  obtain rfl := h.listed_of hlist
  rw [share_emit]
  refine ⟨?_, h.place, h.listed, h.refs, h.queued⟩
  simpa [WrapperOut.of] using read_snoc (e := .touched) h.read rfl

theorem post {kind : QevKind} (h : (c.share id).NewCall q) (hkind : kind ≠ .closed (some id)) :
    ((c.postQev { kind, derefAfterDeliver := none }).2.share id).NewCall q := by
  rw [share_postQev_ne hkind (by simp)]
  exact h

theorem visit {kind : QevKind} {qevOk : Bool} (h : (c.share id).NewCall q) (hlist : c.listed id = true)
    (hkind : kind ≠ .closed (some id)) : ((c.visit id kind qevOk).share id).NewCall q := by
  unfold CallWrappers.visit
  cases qevOk with
  | false => exact h.touch hlist
  | true => exact (h.touch hlist).post hkind

/-- It ends: its reference goes to the queued event, or with it. -/
theorem beventClosed (h : (c.share id).NewCall q) (hlist : c.listed id = true) :
    ∃ q', ((c.beventClosed id true).share id).NewCall q' := by
  obtain rfl := h.listed_of hlist
  have hread : life.read .unborn ((c.share id).seen ++ [.touched] ++ [.handed]) = some .queued :=
    read_snoc (read_snoc h.read rfl) rfl
  have hrefs : (c.share id).refs = 1 := h.refs
  have hqueued : (c.share id).queued = 0 := h.queued
  have hbc (bc : Nat → Bool) : { c with bc }.share id = c.share id := rfl
  simp only [CallWrappers.beventClosed, if_true]
  rcases @share_postQev_closed id
    (({ c with bc := Function.update c.bc id false }.unregister id).emit (.handed id)) with heq | heq
  · refine ⟨.queued, ?_⟩
    rw [heq, share_emit, share_unregister, hbc]
    exact ⟨by simpa [WrapperOut.of] using hread, .inr (.inl rfl), by simp, by simp [hrefs], by simp [hqueued]⟩
  · refine ⟨.gone, ?_⟩
    rw [heq, share_emit, share_unregister, hbc]
    have hread' : life.read .unborn ((c.share id).seen ++ [.touched] ++ [.handed] ++ [.ended] ++ [.released]) =
        some .gone := read_snoc (read_snoc hread rfl) rfl
    exact ⟨by simpa [WrapperOut.of] using hread', .inr (.inr rfl), by simp, by simp [hrefs], by simp [hqueued]⟩

theorem connectEvent {e : ConnectEvent} (h : (c.share id).NewCall q) (hok : e ≠ .closed false) :
    ∃ q', ((Transfers.connectEvent id c e).share id).NewCall q' := by
  unfold Transfers.connectEvent
  cases hlist : c.listed id with
  | true =>
      cases e with
      | callState qevOk => exact ⟨q, h.visit hlist (by simp)⟩
      | sdp qevOk => exact ⟨q, h.visit hlist (by simp)⟩
      | closed qevOk =>
          cases qevOk with
          | false => exact absurd rfl hok
          | true => exact h.beventClosed hlist
  | false =>
      cases e with
      | callState qevOk | closed qevOk =>
          cases qevOk with
          | false => exact ⟨q, h⟩
          | true => exact ⟨q, h.post (by simp)⟩
      | sdp qevOk => exact ⟨q, h⟩

theorem connectEvents {events : List ConnectEvent} (h : (c.share id).NewCall q) (hok : .closed false ∉ events) :
    ∃ q', ((events.foldl (Transfers.connectEvent id) c).share id).NewCall q' := by
  induction events generalizing c q with
  | nil => exact ⟨q, h⟩
  | cons e events ih =>
      obtain ⟨q', h'⟩ := h.connectEvent (e := e) fun heq => hok (heq ▸ List.mem_cons_self)
      exact ih h' fun hmem => hok (List.mem_cons_of_mem _ hmem)

/-- A wrapper that is still on the list is dropped. -/
theorem dropNew (h : (c.share id).NewCall q) :
    ∃ q', ((Transfers.dropNew id c).share id).NewCall q' ∧ q' ≠ .listed := by
  unfold Transfers.dropNew
  cases hlist : c.listed id with
  | false =>
      refine ⟨q, h, fun hq => ?_⟩
      have hlisted : c.listed id = true := h.listed.mpr hq
      rw [hlist] at hlisted
      cases hlisted
  | true =>
      obtain rfl := h.listed_of hlist
      have hread : life.read .unborn ((c.share id).seen ++ [.refused] ++ [.touched] ++ [.released]) = some .gone :=
        read_snoc (read_snoc (read_snoc h.read rfl) rfl) rfl
      have hrefs : (c.share id).refs = 1 := h.refs
      have hqueued : (c.share id).queued = 0 := h.queued
      have hbc (bc : Nat → Bool) : { c with bc }.share id = c.share id := rfl
      refine ⟨.gone, ?_, by decide⟩
      unfold CallWrappers.dropIncoming
      rw [if_pos rfl, share_emit, share_memDeref, share_unregister, share_emit, hbc]
      exact ⟨by simpa [WrapperOut.of] using hread, .inr (.inr rfl), by simp, by simp [hrefs], by simp [hqueued]⟩

end Share.NewCall

/-! ### The other calls -/

/-- Nothing has happened to the call `j`. -/
structure SameCall (j : Nat) (c c' : CallWrappers) : Prop where
  share : c'.share j = c.share j
  bc : c'.bc j = c.bc j

namespace SameCall

variable {c c' c'' : CallWrappers} {j id : Nat}

theorem refl : SameCall j c c := ⟨rfl, rfl⟩

theorem trans (h : SameCall j c c') (h' : SameCall j c' c'') : SameCall j c c'' :=
  ⟨h'.share.trans h.share, h'.bc.trans h.bc⟩

theorem emit (o : WrapperOut) (ho : o.of j = none) : SameCall j c (c.emit o) := by
  refine ⟨?_, rfl⟩
  rw [share_emit, ho, Option.toList_none, List.append_nil]

theorem touch (hj : id ≠ j) : SameCall j c (c.emit (.touch id)) := emit _ (by simp [WrapperOut.of, hj])

theorem postQev {ev : Qev} (hkind : ev.kind ≠ .closed (some j)) (hderef : ev.derefAfterDeliver ≠ some j) :
    SameCall j c (c.postQev ev).2 := by
  refine ⟨share_postQev_ne hkind hderef, ?_⟩
  unfold CallWrappers.postQev
  split
  · unfold CallWrappers.derefQev CallWrappers.endsCall
    repeat' split
    all_goals rfl
  · rfl

theorem unregister (hj : id ≠ j) : SameCall j c (c.unregister id) := ⟨share_unregister_ne hj, rfl⟩

theorem setBc (hj : id ≠ j) : SameCall j c { c with bc := Function.update c.bc id false } :=
  ⟨rfl, Function.update_of_ne hj.symm ..⟩

theorem wrapNew (hj : c.next ≠ j) : SameCall j c c.wrapNew :=
  ⟨share_wrapNew_ne hj, Function.update_of_ne hj.symm ..⟩

theorem visit {kind : QevKind} {qevOk : Bool} (hj : id ≠ j) (hkind : kind ≠ .closed (some j)) :
    SameCall j c (c.visit id kind qevOk) := by
  unfold CallWrappers.visit
  cases qevOk with
  | false => exact touch hj
  | true => exact (touch hj).trans (postQev hkind (by simp))

theorem beventClosed (hj : id ≠ j) (qevOk : Bool) : SameCall j c (c.beventClosed id qevOk) := by
  have hclosed := (setBc (c := c) hj).trans (unregister hj)
  unfold CallWrappers.beventClosed
  cases qevOk with
  | false => exact hclosed
  | true =>
      have hhanded := hclosed.trans (emit (.handed id) (by simp [WrapperOut.of, hj]))
      exact hhanded.trans (postQev (by simp [hj]) (by simp [hj]))

theorem connectEvent (hj : id ≠ j) (e : ConnectEvent) : SameCall j c (Transfers.connectEvent id c e) := by
  unfold Transfers.connectEvent
  cases e with
  | callState qevOk =>
      dsimp only
      split
      · exact visit hj (by simp)
      · split
        · exact postQev (by simp) (by simp)
        · exact refl
  | sdp qevOk =>
      dsimp only
      split
      · exact visit hj (by simp)
      · exact refl
  | closed qevOk =>
      dsimp only
      split
      · exact beventClosed hj qevOk
      · split
        · exact postQev (by simp) (by simp)
        · exact refl

theorem connectEvents (hj : id ≠ j) (events : List ConnectEvent) :
    SameCall j c (events.foldl (Transfers.connectEvent id) c) := by
  induction events generalizing c with
  | nil => exact refl
  | cons e events ih => exact (connectEvent hj e).trans ih

theorem dropNew (hj : id ≠ j) : SameCall j c (Transfers.dropNew id c) := by
  unfold Transfers.dropNew
  split
  · unfold CallWrappers.dropIncoming
    have hrefused := (setBc (c := c) hj).trans (emit (.refused id) (by simp [WrapperOut.of, hj]))
    have hgone := hrefused.trans (unregister hj)
    refine (hgone.trans ⟨share_memDeref_ne hj, rfl⟩).trans (emit _ (by simp [WrapperOut.of, hj]))
  · exact refl

end SameCall

end VoxSdk
