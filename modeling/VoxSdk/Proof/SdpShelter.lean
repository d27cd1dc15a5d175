import VoxSdk.Proof.WrapperOwnership

/-!
# How long the wrapper of an SDP event is there

An SDP event points to the wrapper of its call and owns nothing. The wrapper is on the call list, or it belongs to
the event that ends the call, which is further back in the queue; so it is there when the SDP event's turn comes,
unless the last event found the queue full.
-/

namespace VoxSdk

open Reactive

variable {id j : Nat} {s s' r : CallWrappers} {ev : Qev} {items : List Qev}

/-- Behind each SDP event of the call there is the event that ends it. -/
def Followed (id : Nat) : List Qev → Prop
  | [] => True
  | ev :: rest => (ev.kind = .sdp id → ∃ ev' ∈ rest, ev'.kind = .closed (some id)) ∧ Followed id rest

theorem followed_of_none (h : ∀ ev ∈ items, ev.kind ≠ .sdp id) : Followed id items := by
  induction items with
  | nil => trivial
  | cons ev rest ih =>
      exact ⟨fun hkind => absurd hkind (h ev List.mem_cons_self),
        ih fun ev' hmem => h ev' (List.mem_cons_of_mem _ hmem)⟩

theorem Followed.append (h : Followed id items) (hkind : ev.kind ≠ .sdp id) : Followed id (items ++ [ev]) := by
  induction items with
  | nil => exact ⟨fun h => absurd h hkind, trivial⟩
  | cons ev' rest ih =>
      refine ⟨fun hsdp => ?_, ih h.2⟩
      obtain ⟨last, hmem, hlast⟩ := h.1 hsdp
      exact ⟨last, List.mem_append_left _ hmem, hlast⟩

theorem followed_closed (hkind : ev.kind = .closed (some id)) (items : List Qev) : Followed id (items ++ [ev]) := by
  induction items with
  | nil => exact ⟨fun hsdp => absurd (hkind.symm.trans hsdp) (by simp), trivial⟩
  | cons ev' rest ih => exact ⟨fun _ => ⟨ev, List.mem_append_right _ (List.mem_singleton_self ev), hkind⟩, ih⟩

namespace CallWrappers

/-- There is room for `n` more events, or none of the call's SDP events would miss them. -/
def spares (n id : Nat) (s : CallWrappers) : Bool :=
  decide (s.queue.len + n ≤ s.queue.max) || s.queue.items.all fun ev => decide (ev.kind ≠ .sdp id)

/-- The event that ends a call finds room, where one of its SDP events is still queued; a failed migration is
reported before. -/
def hasRoom (s : CallWrappers) : WrapperAct → Bool
  | .closed id _ | .setupWatch id _ _ | .answer id _ _ => s.spares 1 id
  | .failMigration id _ _ _ => s.spares 2 id
  | _ => true

end CallWrappers

/-- Something keeps the wrapper for as long as an SDP event of its call is queued. -/
def Sheltered (id : Nat) (s : CallWrappers) : Prop := s.listed id = true ∨ Followed id s.queue.items

namespace Sheltered

theorem congr (h : Sheltered id s) (hlisted : r.listed = s.listed) (hqueue : r.queue = s.queue) : Sheltered id r := by
  unfold Sheltered
  rw [hlisted, hqueue]
  exact h

theorem emit (h : Sheltered id s) (o : WrapperOut) : Sheltered id (s.emit o) := h.congr rfl rfl

theorem derefQev (h : Sheltered id s) (ev : Qev) : Sheltered id (s.derefQev ev) := by
  unfold CallWrappers.derefQev
  split
  · exact h
  · exact h.congr rfl rfl

theorem endsCall (h : Sheltered id s) (kind : QevKind) : Sheltered id (s.endsCall kind) := by
  unfold CallWrappers.endsCall
  split
  · exact h.congr rfl rfl
  · exact h

theorem postQev (h : Sheltered id s) (hkind : ev.kind = .sdp id → s.listed id = true) :
    Sheltered id (s.postQev ev).2 := by
  unfold CallWrappers.postQev
  cases hpush : s.queue.push ev with
  | none => exact (h.endsCall _).derefQev _
  | some queue =>
      obtain ⟨-, hitems, -⟩ := CountedQueue.push_some hpush
      by_cases hsdp : ev.kind = .sdp id
      · exact .inl (hkind hsdp)
      · exact h.imp_right fun hfollowed => by rw [hitems]; exact hfollowed.append hsdp

theorem visit {kind : QevKind} (h : Sheltered id s) (hlist : s.listed j = true) (hkind : ∀ i, kind = .sdp i → i = j)
    (qevOk : Bool) : Sheltered id (s.visit j kind qevOk) := by
  unfold CallWrappers.visit
  cases qevOk with
  | false => exact h.emit _
  | true =>
      refine (h.emit _).postQev fun hsdp => ?_
      rw [hkind id hsdp]
      exact hlist

theorem wrapNew (h : Sheltered id s) : Sheltered id s.wrapNew := by
  by_cases hid : id = s.next
  · exact .inl (hid ▸ Function.update_self ..)
  · exact h.imp_left fun hlisted => (Function.update_of_ne hid _ _).trans hlisted

theorem unregister (h : Sheltered id s) (hj : j ≠ id) : Sheltered id (s.unregister j) :=
  h.imp_left fun hlisted => (Function.update_of_ne hj.symm _ _).trans hlisted

/-- The wrapper of a call nobody was told of goes, and no queued event points to it. -/
theorem dropIncoming (h : Sheltered id s) (hnone : ∀ ev ∈ s.queue.items, ev.kind ≠ .sdp j) :
    Sheltered id (s.dropIncoming j) := by
  unfold CallWrappers.dropIncoming
  by_cases hj : j = id
  · subst hj
    exact .inr (followed_of_none hnone)
  · have hlast := (h.emit (.refused j)).unregister hj
    exact hlast.congr rfl rfl

/-- A call that ends leaves its wrapper to the event that says so. -/
theorem beventClosed (h : Sheltered id s) (hroom : j = id → s.spares 1 id = true) :
    Sheltered id (s.beventClosed j true) := by
  simp only [CallWrappers.beventClosed, if_true]
  generalize hleft : ({ s with bc := Function.update s.bc j false }.unregister j).emit (.handed j) = r
  have hqueue : r.queue = s.queue := by rw [← hleft]; rfl
  by_cases hj : j = id
  · subst hj
    unfold CallWrappers.postQev
    cases hpush : r.queue.push { kind := .closed (some j), derefAfterDeliver := some j } with
    | none =>
        have hnone : ∀ ev ∈ r.queue.items, ev.kind ≠ .sdp j := by
          have hspares := hroom rfl
          rw [hqueue] at hpush ⊢
          unfold CountedQueue.push at hpush
          split at hpush
          · rename_i hfull
            rw [CallWrappers.spares, decide_eq_false (by omega), Bool.false_or, List.all_eq_true] at hspares
            exact fun ev hmem => of_decide_eq_true (hspares ev hmem)
          · cases hpush
        have hr : Sheltered j r := .inr (followed_of_none hnone)
        dsimp only
        exact (hr.endsCall _).derefQev _
    | some queue =>
        obtain ⟨-, hitems, -⟩ := CountedQueue.push_some hpush
        refine .inr ?_
        rw [hitems]
        exact followed_closed rfl _
  · have hrest : Sheltered id { s with bc := Function.update s.bc j false } := h.congr rfl rfl
    have hr : Sheltered id r := hleft ▸ (hrest.unregister hj).emit _
    exact hr.postQev (by simp)

theorem uaEnds {closesNow qevOk : Bool} (h : Sheltered id s) (hok : closesNow = true → qevOk = true)
    (hroom : j = id → s.spares 1 id = true) : Sheltered id (s.uaEnds j closesNow qevOk) := by
  unfold CallWrappers.uaEnds
  split
  · rename_i hcloses
    obtain rfl := hok (Bool.and_eq_true_iff.mp hcloses).1
    exact h.beventClosed hroom
  · exact h

theorem pop {queue : CountedQueue Qev} (h : Sheltered id s) (hpop : s.queue.pop = some (ev, queue)) :
    Sheltered id { s with queue } := by
  obtain ⟨hitems, -⟩ := CountedQueue.pop_some hpop
  refine h.imp_right fun hfollowed => ?_
  rw [hitems] at hfollowed
  exact hfollowed.2

theorem takeEvent (h : Sheltered id s) (cloneOk : Bool) (ev : Qev) : Sheltered id (s.takeEvent cloneOk ev) := by
  have hends := h.endsCall ev.kind
  simp only [CallWrappers.takeEvent]
  split
  · exact hends.derefQev _
  · split
    · exact hends.congr rfl rfl
    · split
      · exact hends.derefQev _
      · refine hends.congr ?_ ?_
        · unfold CallWrappers.qevClone
          split <;> rfl
        · unfold CallWrappers.qevClone
          split <;> rfl

theorem incoming (h : Sheltered id s) (htidy : Tidy s) (wrapOk qevOk : Bool) :
    Sheltered id (s.beventIncoming wrapOk qevOk) := by
  -- the number of the new wrapper is in no event yet
  have hnew : ∀ ev ∈ s.wrapNew.queue.items, ev.kind ≠ .sdp s.next := fun ev hmem hkind =>
    Nat.lt_irrefl _ (htidy.sdp ev hmem _ hkind)
  unfold CallWrappers.beventIncoming
  cases wrapOk with
  | false => exact h
  | true =>
      cases qevOk with
      | false => exact h.wrapNew.dropIncoming hnew
      | true =>
          simp only [Bool.not_true, Bool.false_eq_true, if_false]
          unfold CallWrappers.postQev
          cases hpush : s.wrapNew.queue.push { kind := .incoming s.next, derefAfterDeliver := none } with
          | none => exact h.wrapNew.dropIncoming hnew
          | some queue =>
              obtain ⟨-, hitems, -⟩ := CountedQueue.push_some hpush
              exact h.wrapNew.imp_right fun hfollowed => by rw [hitems]; exact hfollowed.append (by simp)

end Sheltered

/-- One event more takes the room of one. -/
theorem spares_visit {n : Nat} (h : s.spares (n + 1) id = true) (qevOk : Bool) :
    (s.visit j .other qevOk).spares n id = true := by
  have hless : s.spares n id = true := by
    rw [CallWrappers.spares, Bool.or_eq_true, decide_eq_true_eq] at h ⊢
    exact h.imp_left fun hroom => by omega
  unfold CallWrappers.visit
  cases qevOk with
  | false => exact hless
  | true =>
      simp only [if_true]
      unfold CallWrappers.postQev
      cases hpush : (s.emit (.touch j)).queue.push { kind := .other, derefAfterDeliver := none } with
      | none => exact hless
      | some queue =>
          obtain ⟨-, hitems, hlen, hmax⟩ := CountedQueue.push_some hpush
          have hle : queue.len ≤ s.queue.len + 1 := hlen ▸ Nat.mod_le _ _
          have hsame : queue.max = s.queue.max := hmax
          rw [CallWrappers.spares, Bool.or_eq_true, decide_eq_true_eq] at h ⊢
          refine h.imp (fun hroom => ?_) fun hall => ?_
          · dsimp only
            omega
          · dsimp only
            rw [hitems, List.all_append, Bool.and_eq_true_iff]
            exact ⟨hall, rfl⟩

/-- A step that is in order, and in which the last event of a call finds room, keeps the wrappers of queued SDP
events sheltered. -/
theorem sheltered_act {a : WrapperAct} (h : Sheltered id s) (htidy : Tidy s) (horder : s.inOrder a = true)
    (hroom : s.hasRoom a = true) (hact : s.act a = some s') : Sheltered id s' := by
  cases a with
  | incoming wrapOk qevOk =>
      obtain rfl := Option.some.inj hact
      exact h.incoming htidy wrapOk qevOk
  | invite wrapOk =>
      obtain rfl := Option.some.inj hact
      cases wrapOk with
      | false => exact h
      | true => exact h.wrapNew
  | closed j qevOk =>
      obtain ⟨-, ⟨⟩⟩ := Option.ite_none_right_eq_some.mp hact
      obtain rfl : qevOk = true := horder
      exact h.beventClosed fun hj => hj ▸ hroom
  | callState j qevOk =>
      obtain ⟨hlist, ⟨⟩⟩ := Option.ite_none_right_eq_some.mp hact
      exact h.visit hlist (by simp) qevOk
  | sdpEvent j qevOk =>
      obtain ⟨hlist, ⟨⟩⟩ := Option.ite_none_right_eq_some.mp hact
      exact h.visit hlist (by simp) qevOk
  | otherEvent kind =>
      simp only [CallWrappers.act] at hact
      split at hact
      · obtain rfl := Option.some.inj hact
        exact h.postQev (by simp)
      · obtain rfl := Option.some.inj hact
        exact h.postQev (by simp)
      · cases hact
  | setupWatch j closesNow qevOk =>
      obtain ⟨-, ⟨⟩⟩ := Option.ite_none_right_eq_some.mp hact
      refine (h.emit _).uaEnds ?_ fun hj => hj ▸ hroom
      simpa [CallWrappers.inOrder, Bool.or_eq_true, imp_iff_not_or] using horder
  | failMigration j emitOk closesNow qevOk =>
      obtain ⟨hlist, ⟨⟩⟩ := Option.ite_none_right_eq_some.mp hact
      refine (h.visit hlist (by simp) emitOk).uaEnds ?_ fun hj => ?_
      · simpa [CallWrappers.inOrder, Bool.or_eq_true, imp_iff_not_or] using horder
      · exact spares_visit (hj ▸ hroom) emitOk
  | hangup j closesNow qevOk =>
      obtain ⟨-, ⟨⟩⟩ := Option.ite_none_right_eq_some.mp hact
      obtain ⟨-, hcloses⟩ := Bool.and_eq_true_iff.mp horder
      obtain rfl : closesNow = false := by simpa using hcloses
      simp only [CallWrappers.hangupFn]
      split
      · exact h.emit _
      · exact (h.emit _).emit _
  | reject j closesNow qevOk =>
      obtain ⟨-, ⟨⟩⟩ := Option.ite_none_right_eq_some.mp hact
      obtain ⟨-, hcloses⟩ := Bool.and_eq_true_iff.mp horder
      obtain rfl : closesNow = false := by simpa using hcloses
      simp only [CallWrappers.rejectFn]
      split <;> exact (h.emit _).emit _
  | answer j closesNow qevOk =>
      obtain ⟨-, ⟨⟩⟩ := Option.ite_none_right_eq_some.mp hact
      obtain ⟨-, hok⟩ := Bool.and_eq_true_iff.mp horder
      simp only [CallWrappers.answerFn]
      split
      · exact h.emit _
      · refine (h.emit _).uaEnds ?_ fun hj => hj ▸ hroom
        simpa [Bool.or_eq_true, imp_iff_not_or] using hok
  | hold j =>
      obtain ⟨-, ⟨⟩⟩ := Option.ite_none_right_eq_some.mp hact
      exact h.emit _
  | setEventHandler cb owned =>
      obtain rfl := Option.some.inj hact
      exact h.congr rfl rfl
  | takeEvent cloneOk =>
      simp only [CallWrappers.act] at hact
      split at hact
      · rename_i ev queue hdelivering hpop
        obtain rfl := Option.some.inj hact
        exact (h.pop hpop).takeEvent cloneOk ev
      · cases hact
  | callbackReturns =>
      obtain ⟨ev, -, rfl⟩ := Option.map_eq_some_iff.mp hact
      have hrest : Sheltered id { s with delivering := none } := h.congr rfl rfl
      exact hrest.derefQev ev
  | eventRelease i =>
      obtain ⟨ev, -, rfl⟩ := Option.map_eq_some_iff.mp hact
      have hrest : Sheltered id { s with kept := s.kept.eraseIdx i } := h.congr rfl rfl
      exact hrest.derefQev ev

/-- The wrapper to which the oldest event in the queue points has a reference. -/
theorem refs_of_sheltered {q : Life} (h : Sheltered id s) (htidy : Tidy s) (howned : (s.share id).Owned q)
    (hitems : s.queue.items = ev :: items) (hkind : ev.kind = .sdp id) : 0 < s.refs id := by
  have hrefs : s.refs id = (if q = .listed ∨ q = .queued ∨ q = .ended then 1 else 0) + (s.share id).clones :=
    howned.refs
  have hq : q = .listed ∨ q = .queued := by
    obtain hlisted | hfollowed := h
    · exact .inl (howned.listed.mp hlisted)
    · rw [hitems] at hfollowed
      obtain ⟨last, hmem, hlast⟩ := hfollowed.1 hkind
      have hqueued : last ∈ s.queue.items := hitems ▸ List.mem_cons_of_mem _ hmem
      have howns : last.owns id = true := by simp [Qev.owns, htidy.deref last hqueued, hlast, QevKind.ends]
      have hpos : 0 < (s.share id).queued := List.countP_pos_iff.mpr ⟨last, hqueued, howns⟩
      rw [howned.queued] at hpos
      exact .inr (by_contra fun hne => by rw [if_neg hne] at hpos; exact Nat.lt_irrefl 0 hpos)
  obtain rfl | rfl := hq
  · rw [hrefs, if_pos (.inl rfl)]
    omega
  · rw [hrefs, if_pos (.inr (.inl rfl))]
    omega

/-- In a run in order, in which no call's last event is lost while one of its SDP events is queued, the wrapper of
an SDP event is there when the event thread comes to it. -/
theorem sdp_call_alive {max : Nat} {t : Trace WrapperAct WrapperOut}
    (hrun : (callWrappers max).Run (fun s a => s.inOrder a = true ∧ s.hasRoom a = true) s t)
    (hitems : s.queue.items = ev :: items) (hkind : ev.kind = .sdp id) : 0 < s.refs id := by
  let I (s : CallWrappers) : Prop := Tidy s ∧ (∃ q, (s.share id).Owned q) ∧ Sheltered id s
  have hinit (s : CallWrappers) (h : (callWrappers max).init s) : I s := by
    obtain ⟨cb, owned, rfl⟩ := h
    refine ⟨⟨by simp [CountedQueue.empty], by simp [CountedQueue.empty], by simp⟩, ⟨.unborn, ?_⟩, .inr trivial⟩
    refine ⟨?_, ?_, rfl, rfl, rfl, fun _ => rfl⟩
    · simp [CallWrappers.share]
    · simp [CallWrappers.share]
  obtain ⟨htidy, ⟨q, howned⟩, hshelter⟩ : I s := by
    refine hrun.stateInvariant hinit fun s a s' os h hC hstep => ?_
    obtain ⟨htidy, ⟨q, howned⟩, hshelter⟩ := h
    obtain ⟨horder, hroom⟩ := hC
    obtain ⟨hact, -⟩ := callWrappers_step hstep
    have hidle : (s.idle.share id).Stands q q :=
      ⟨rfl, howned.born, howned.listed, howned.queued, howned.held, howned.refs, howned.fresh⟩
    have horder' : s.idle.inOrder a = true := by cases a <;> exact horder
    have hroom' : s.idle.hasRoom a = true := by cases a <;> exact hroom
    have htidy' : Tidy s.idle := htidy.of_eq rfl rfl rfl
    have hshelter' : Sheltered id s.idle := hshelter.congr rfl rfl
    obtain ⟨hnext, q', hstands⟩ := act_kept hidle htidy' horder' hact
    exact ⟨hnext, ⟨q', hstands.owned⟩, sheltered_act hshelter' htidy' horder' hroom' hact⟩
  exact refs_of_sheltered hshelter htidy howned hitems hkind

end VoxSdk
