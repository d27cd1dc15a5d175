import VoxSdk.SetupWatch

/-!
# The watchdog misses nobody

While some call waits for its deadline the timer is armed, and due at most one period after the deadline;
the sweep that finds the call past it cancels it. The snapshot has `setupMaxSnap` places: a sweep that
finds more calls past their deadline leaves the others for later, and if no call is left inside its
deadline, for good. `fitsSnapshot` refuses those sweeps.
-/

namespace VoxSdk

open Reactive

namespace SetupCall

/-- baresip's call and its user agent are there. -/
def Live (c : SetupCall) : Prop := c.bc = true ∧ c.ua = true

variable {limit now : Nat} {c : SetupCall}

/-- A visit ends the watch of a call that is not dialling any more, and of any call if there is no limit;
it leaves the others alone. -/
theorem setupVisit_cases (limit : Nat) (c : SetupCall) :
    c.setupVisit limit = c ∨
      (c.setupVisit limit = { c with setupStart := 0 } ∧ (c.state ≠ .calling ∨ limit = 0)) := by
  unfold setupVisit
  split_ifs with hstart hstate hlimit
  · exact .inl rfl
  · exact .inr ⟨rfl, .inl hstate⟩
  · exact .inr ⟨rfl, .inr hlimit⟩
  · exact .inl rfl

@[simp]
theorem setupVisit_frame (limit : Nat) (c : SetupCall) :
    (c.setupVisit limit).id = c.id ∧ (c.setupVisit limit).state = c.state ∧
      (c.setupVisit limit).bc = c.bc ∧ (c.setupVisit limit).ua = c.ua := by
  obtain h | ⟨h, -⟩ := c.setupVisit_cases limit <;> rw [h] <;> exact ⟨rfl, rfl, rfl, rfl⟩

theorem setupVisit_of_calling (hlimit : limit ≠ 0) (hstate : c.state = .calling) :
    c.setupVisit limit = c := by
  obtain h | ⟨-, hnot | hzero⟩ := c.setupVisit_cases limit
  · exact h
  · exact absurd hstate hnot
  · exact absurd hzero hlimit

/-- What a visit leaves under watch is dialling. -/
theorem calling_of_setupVisit (h : (c.setupVisit limit).setupStart ≠ 0) : c.state = .calling := by
  by_contra hstate
  apply h
  unfold setupVisit
  by_cases hstart : c.setupStart = 0
  · rw [if_pos hstart, hstart]
  · rw [if_neg hstart, if_pos hstate]

theorem inDeadline_of_not_overdue (hstart : c.setupStart ≠ 0) (h : c.overdue limit now = false) :
    c.inDeadline limit now = true := by
  simpa [inDeadline, overdue, hstart] using h

/-- A dead call is let go, a live one hung up, and then it may be closed already. -/
theorem cancelSetup_cases (closesNow : Nat → Bool) (c : SetupCall) :
    (¬ c.Live ∧ c.cancelSetup closesNow = ({ c with setupStart := 0 }, [])) ∨
      (c.Live ∧ c.cancelSetup closesNow =
        ({ c with setupStart := 0, bc := false }, [.hangup c.id 408, .closed c.id])) ∨
      (c.Live ∧ c.cancelSetup closesNow = ({ c with setupStart := 0 }, [.hangup c.id 408])) := by
  unfold cancelSetup
  by_cases hdead : (!c.bc || !c.ua) = true
  · have hnot : ¬ c.Live := by
      rintro ⟨hbc, hua⟩
      simp [hbc, hua] at hdead
    exact .inl ⟨hnot, if_pos hdead⟩
  · have hlive : c.Live := by simpa [Live] using hdead
    rw [if_neg hdead]
    cases closesNow c.id with
    | true => exact .inr (.inl ⟨hlive, rfl⟩)
    | false => exact .inr (.inr ⟨hlive, rfl⟩)

@[simp]
theorem cancelSetup_frame (closesNow : Nat → Bool) (c : SetupCall) :
    (c.cancelSetup closesNow).1.id = c.id ∧ (c.cancelSetup closesNow).1.state = c.state ∧
      (c.cancelSetup closesNow).1.setupStart = 0 := by
  obtain ⟨-, h⟩ | ⟨-, h⟩ | ⟨-, h⟩ := c.cancelSetup_cases closesNow <;> rw [h] <;>
    exact ⟨rfl, rfl, rfl⟩

/-- A call that is live after its cancellation was live before, and was hung up. -/
theorem hangup_of_cancelSetup {closesNow : Nat → Bool} (hlive : (c.cancelSetup closesNow).1.Live) :
    c.Live ∧ .hangup c.id 408 ∈ (c.cancelSetup closesNow).2 := by
  obtain ⟨hdead, h⟩ | ⟨-, h⟩ | ⟨hc, h⟩ := c.cancelSetup_cases closesNow
  · rw [h] at hlive
    exact absurd hlive hdead
  · rw [h] at hlive
    cases hlive.1
  · rw [h]
    exact ⟨hc, List.mem_singleton_self _⟩

/-- What the cancellation of a call puts out is about that call. -/
theorem cancelSetup_out {closesNow : Nat → Bool} {o : SetupOut} (ho : o ∈ (c.cancelSetup closesNow).2) :
    o = .hangup c.id 408 ∨ (o = .closed c.id ∧ (c.cancelSetup closesNow).1.bc = false) := by
  obtain ⟨-, h⟩ | ⟨-, h⟩ | ⟨-, h⟩ := c.cancelSetup_cases closesNow <;> rw [h] at ho ⊢
  · cases ho
  · simpa using ho
  · exact .inl (List.mem_singleton.mp ho)

end SetupCall

/-- The call an output is about. -/
def SetupOut.call : SetupOut → Nat
  | .invited id _ | .state id _ | .closed id | .hangup id _ => id

/-- A call's state, or its end. -/
def SetupOut.reports : SetupOut → Bool
  | .state .. | .closed _ => true
  | _ => false

namespace SetupWatch

variable {limit : Nat} {s : SetupWatch} {outs os : List SetupOut} {id : Nat}

/-- What the outputs so far say about the calls on the list. -/
structure Known (s : SetupWatch) (outs : List SetupOut) : Prop where
  ids : ∀ c ∈ s.calls, c.id < s.next
  nodup : (s.calls.map SetupCall.id).Nodup
  calls : ∀ o ∈ outs, o.call < s.next
  state : ∀ c ∈ s.calls, c.state = .calling → ∀ st, .state c.id st ∉ outs
  listed : ∀ c ∈ s.calls, .closed c.id ∉ outs

/-- What the watchdog relies on. A call that dials is under watch since its INVITE, or was hung up; and the
timer is due before a period has passed since the deadline of any call under watch. -/
structure Armed (limit : Nat) (s : SetupWatch) (outs : List SetupOut) : Prop where
  now : s.now ≠ 0
  invited : ∀ c ∈ s.calls, c.Live → c.state = .calling → ∀ sentAt, .invited c.id sentAt ∈ outs →
    c.setupStart = sentAt ∨ .hangup c.id 408 ∈ outs
  sent : ∀ id sentAt, .invited id sentAt ∈ outs → sentAt ≠ 0
  soon : ∀ due, s.tmr = some due → due ≤ s.now + setupTickMs
  due : ∀ c ∈ s.calls, c.Live → c.state = .calling → c.setupStart ≠ 0 →
    ∃ due, s.tmr = some due ∧ due < c.setupStart + limit + setupTickMs

/-! ### A call is created, changes its state, ends -/

theorem Known.wrapNew (h : Known s outs) (acct : Nat) (state : CallState)
    (hos : ∀ o ∈ os, o = .state s.next state ∧ state ≠ .calling) :
    Known (s.wrapNew acct state) (outs ++ os) := by
  have hfresh : ∀ o ∈ outs, o.call ≠ s.next := fun o ho => Nat.ne_of_lt (h.calls o ho)
  refine ⟨?_, ?_, ?_, ?_, ?_⟩
  · intro c hc
    rcases List.mem_append.mp hc with hold | hnew
    · exact Nat.lt_succ_of_lt (h.ids c hold)
    · obtain rfl := List.mem_singleton.mp hnew
      exact Nat.lt_succ_self _
  · rw [SetupWatch.wrapNew, List.map_append, List.nodup_append]
    refine ⟨h.nodup, List.nodup_singleton _, ?_⟩
    intro id hid id' hid'
    obtain ⟨c, hc, rfl⟩ := List.mem_map.mp hid
    obtain rfl := List.mem_singleton.mp hid'
    exact Nat.ne_of_lt (h.ids c hc)
  · intro o ho
    rcases List.mem_append.mp ho with hold | hnew
    · exact Nat.lt_succ_of_lt (h.calls o hold)
    · obtain ⟨rfl, -⟩ := hos o hnew
      exact Nat.lt_succ_self _
  · intro c hc hcalling st hst
    rcases List.mem_append.mp hst with hold | hnew
    · rcases List.mem_append.mp hc with hlisted | hcreated
      · exact h.state c hlisted hcalling st hold
      · obtain rfl := List.mem_singleton.mp hcreated
        exact hfresh _ hold rfl
    · obtain ⟨heq, hno⟩ := hos _ hnew
      obtain ⟨hid, -⟩ := SetupOut.state.inj heq
      rcases List.mem_append.mp hc with hlisted | hcreated
      · exact Nat.ne_of_lt (h.ids c hlisted) hid
      · obtain rfl := List.mem_singleton.mp hcreated
        exact hno hcalling
  · intro c hc hclosed
    rcases List.mem_append.mp hclosed with hold | hnew
    · rcases List.mem_append.mp hc with hlisted | hcreated
      · exact h.listed c hlisted hold
      · obtain rfl := List.mem_singleton.mp hcreated
        exact hfresh _ hold rfl
    · exact SetupOut.noConfusion (hos _ hnew).1

/-- A step that creates no call: each call after it is one from before, dialling only if it was and
nothing else has been said of it. -/
theorem Known.step {s' : SetupWatch} (h : Known s outs) (hnext : s'.next = s.next)
    (hids : (s'.calls.map SetupCall.id).Sublist (s.calls.map SetupCall.id))
    (hos : ∀ o ∈ os, o.call < s.next)
    (hcalls : ∀ c' ∈ s'.calls, .closed c'.id ∉ os ∧ ∃ c ∈ s.calls, c'.id = c.id ∧
      (c'.state = .calling → c.state = .calling ∧ ∀ st, .state c.id st ∉ os)) :
    Known s' (outs ++ os) := by
  refine ⟨?_, h.nodup.sublist hids, ?_, ?_, ?_⟩
  · intro c' hc'
    obtain ⟨-, c, hc, hid, -⟩ := hcalls c' hc'
    rw [hnext, hid]
    exact h.ids c hc
  · intro o ho
    rw [hnext]
    rcases List.mem_append.mp ho with hold | hnew
    · exact h.calls o hold
    · exact hos o hnew
  · intro c' hc' hcalling st hst
    obtain ⟨-, c, hc, hid, hdials⟩ := hcalls c' hc'
    obtain ⟨hstate, hunsaid⟩ := hdials hcalling
    rw [hid] at hst
    rcases List.mem_append.mp hst with hold | hnew
    · exact h.state c hc hstate st hold
    · exact hunsaid st hnew
  · intro c' hc' hclosed
    obtain ⟨hopen, c, hc, hid, -⟩ := hcalls c' hc'
    rcases List.mem_append.mp hclosed with hold | hnew
    · exact h.listed c hc (hid ▸ hold)
    · exact hopen hnew

/-- A step that neither starts a watch nor touches the timer: a live call that dials after it is one from
before, under watch since then if at all. -/
theorem Armed.step {s' : SetupWatch} (h : Armed limit s outs) (hnow : s'.now = s.now)
    (htmr : s'.tmr = s.tmr) (hos : ∀ id sentAt, .invited id sentAt ∉ os)
    (hcalls : ∀ c' ∈ s'.calls, c'.Live → c'.state = .calling →
      ∃ c ∈ s.calls, c'.id = c.id ∧ c.Live ∧ c.state = .calling ∧ c'.setupStart = c.setupStart) :
    Armed limit s' (outs ++ os) := by
  have hinvited : ∀ id sentAt, .invited id sentAt ∈ outs ++ os → .invited id sentAt ∈ outs := by
    intro id sentAt hmem
    exact (List.mem_append.mp hmem).resolve_right (hos id sentAt)
  refine ⟨hnow ▸ h.now, ?_, fun id sentAt hmem => h.sent id sentAt (hinvited id sentAt hmem),
    ?_, ?_⟩
  · intro c' hc' hlive hcalling sentAt hmem
    obtain ⟨c, hc, hid, hlive', hcalling', hstart⟩ := hcalls c' hc' hlive hcalling
    rw [hid, hstart]
    exact (h.invited c hc hlive' hcalling' sentAt (hid ▸ hinvited _ _ hmem)).imp_right
      (List.mem_append_left _)
  · intro due hdue
    rw [hnow]
    exact h.soon due (htmr ▸ hdue)
  · intro c' hc' hlive hcalling hstart
    obtain ⟨c, hc, -, hlive', hcalling', heq⟩ := hcalls c' hc' hlive hcalling
    rw [htmr, heq]
    exact h.due c hc hlive' hcalling' (heq ▸ hstart)

theorem mem_onCall {f : SetupCall → SetupCall} {c' : SetupCall} (hc' : c' ∈ (s.onCall id f).calls) :
    ∃ c ∈ s.calls, (c.id = id ∧ c' = f c) ∨ (c.id ≠ id ∧ c' = c) := by
  obtain ⟨c, hc, rfl⟩ := List.mem_map.mp hc'
  by_cases hid : c.id = id
  · exact ⟨c, hc, .inl ⟨hid, if_pos hid⟩⟩
  · exact ⟨c, hc, .inr ⟨hid, if_neg hid⟩⟩

theorem map_id_onCall {f : SetupCall → SetupCall} (hf : ∀ c, (f c).id = c.id) :
    (s.onCall id f).calls.map SetupCall.id = s.calls.map SetupCall.id := by
  rw [onCall, List.map_map]
  refine List.map_congr_left fun c _ => ?_
  by_cases hid : c.id = id <;> simp [hid, hf]

/-- A call leaves CALLING. -/
theorem Known.leaves {f : SetupCall → SetupCall} {st : CallState} (h : Known s outs) (hid : id < s.next)
    (hf : ∀ c, (f c).id = c.id ∧ (f c).state ≠ .calling) :
    Known (s.onCall id f) (outs ++ [.state id st]) := by
  refine h.step rfl ?_ ?_ ?_
  · rw [map_id_onCall fun c => (hf c).1]
  · intro o ho
    obtain rfl := List.mem_singleton.mp ho
    exact hid
  · intro c' hc'
    refine ⟨by simp, ?_⟩
    obtain ⟨c, hc, ⟨-, rfl⟩ | ⟨hne, rfl⟩⟩ := mem_onCall hc'
    · exact ⟨c, hc, (hf c).1, fun hcalling => absurd hcalling (hf c).2⟩
    · refine ⟨c', hc, rfl, fun hcalling => ⟨hcalling, fun st' hst => hne ?_⟩⟩
      exact (SetupOut.state.inj (List.mem_singleton.mp hst)).1

theorem Armed.leaves {f : SetupCall → SetupCall} {st : CallState} (h : Armed limit s outs)
    (hf : ∀ c, (f c).state ≠ .calling) : Armed limit (s.onCall id f) (outs ++ [.state id st]) := by
  refine h.step rfl rfl (by simp) ?_
  intro c' hc' hlive hcalling
  obtain ⟨c, hc, ⟨-, rfl⟩ | ⟨-, rfl⟩⟩ := mem_onCall hc'
  · exact absurd hcalling (hf c)
  · exact ⟨c', hc, rfl, hlive, hcalling, rfl⟩

/-- A call is taken off the list. -/
theorem Known.unregister (h : Known s outs) (hos : ∀ o ∈ os, o = .closed id) (hid : id < s.next) :
    Known (s.unregister id) (outs ++ os) := by
  refine h.step rfl (List.filter_sublist.map _) ?_ ?_
  · intro o ho
    obtain rfl := hos o ho
    exact hid
  · intro c hc
    obtain ⟨hold, hne⟩ := List.mem_filter.mp hc
    refine ⟨fun hclosed => ?_, c, hold, rfl, fun hcalling => ⟨hcalling, fun st hst => ?_⟩⟩
    · exact of_decide_eq_true hne (SetupOut.closed.inj (hos _ hclosed))
    · exact SetupOut.noConfusion (hos _ hst)

theorem Armed.unregister (h : Armed limit s outs) (hos : ∀ o ∈ os, o = .closed id) :
    Armed limit (s.unregister id) (outs ++ os) := by
  refine h.step rfl rfl (fun _ _ hmem => SetupOut.noConfusion (hos _ hmem)) ?_
  intro c hc hlive hcalling
  exact ⟨c, (List.mem_filter.mp hc).1, rfl, hlive, hcalling, rfl⟩

/-- A new call is not under watch. -/
theorem Armed.wrapNew (h : Armed limit s outs) (hknown : Known s outs) (acct : Nat) (state : CallState)
    (hos : ∀ id sentAt, .invited id sentAt ∉ os) : Armed limit (s.wrapNew acct state) (outs ++ os) := by
  have hinvited : ∀ id sentAt, .invited id sentAt ∈ outs ++ os → .invited id sentAt ∈ outs := by
    intro id sentAt hmem
    exact (List.mem_append.mp hmem).resolve_right (hos id sentAt)
  refine ⟨h.now, ?_, fun id sentAt hmem => h.sent id sentAt (hinvited id sentAt hmem), h.soon, ?_⟩
  · intro c hc hlive hcalling sentAt hmem
    rcases List.mem_append.mp hc with hold | hnew
    · exact (h.invited c hold hlive hcalling sentAt (hinvited _ _ hmem)).imp_right
        (List.mem_append_left _)
    · obtain rfl := List.mem_singleton.mp hnew
      exact absurd (hknown.calls _ (hinvited _ _ hmem)) (Nat.lt_irrefl _)
  · intro c hc hlive hcalling hstart
    rcases List.mem_append.mp hc with hold | hnew
    · exact h.due c hold hlive hcalling hstart
    · obtain rfl := List.mem_singleton.mp hnew
      exact absurd rfl hstart

/-! ### The INVITE -/

theorem setupWatchStart_eq (hlimit : limit ≠ 0) :
    s.setupWatchStart limit id =
      { s.onCall id fun c => { c with setupStart := s.now } with
        tmr := if s.tmr.isRunning then s.tmr else Timer.start s.now setupTickMs } := by
  rw [setupWatchStart, if_neg hlimit]
  change (if s.tmr.isRunning then _ else _) = _
  split_ifs <;> rfl

theorem Known.setupWatchStart (h : Known s outs) (hid : id < s.next) :
    Known (s.setupWatchStart limit id) (outs ++ [.invited id s.now]) := by
  have hos : ∀ o ∈ [SetupOut.invited id s.now], o.call < s.next := by
    intro o ho
    obtain rfl := List.mem_singleton.mp ho
    exact hid
  by_cases hlimit : limit = 0
  · rw [SetupWatch.setupWatchStart, if_pos hlimit]
    refine h.step rfl (List.Sublist.refl _) hos fun c hc => ?_
    exact ⟨by simp, c, hc, rfl, fun hcalling => ⟨hcalling, by simp⟩⟩
  · rw [setupWatchStart_eq hlimit]
    refine h.step rfl ?_ hos ?_
    · change ((s.onCall id fun c => { c with setupStart := s.now }).calls.map SetupCall.id).Sublist _
      rw [map_id_onCall (f := fun c => { c with setupStart := s.now }) fun _ => rfl]
    · intro c' hc'
      obtain ⟨c, hc, ⟨-, rfl⟩ | ⟨-, rfl⟩⟩ := mem_onCall hc'
      · exact ⟨by simp, c, hc, rfl, fun hcalling => ⟨hcalling, by simp⟩⟩
      · exact ⟨by simp, c', hc, rfl, fun hcalling => ⟨hcalling, by simp⟩⟩

/-- The watch starts with the INVITE. The timer is armed for it, or is armed already and due within a
period. -/
theorem Armed.setupWatchStart (hlimit : limit ≠ 0) (h : Armed limit s outs)
    (hfirst : ∀ sentAt, .invited id sentAt ∉ outs) :
    Armed limit (s.setupWatchStart limit id) (outs ++ [.invited id s.now]) := by
  rw [setupWatchStart_eq hlimit]
  refine ⟨h.now, ?_, ?_, ?_, ?_⟩
  · intro c' hc' hlive hcalling sentAt hmem
    obtain ⟨c, hc, ⟨hid, rfl⟩ | ⟨hne, rfl⟩⟩ := mem_onCall hc'
    · rcases List.mem_append.mp hmem with hold | hnew
      · exact absurd (hid ▸ hold) (hfirst sentAt)
      · exact .inl (SetupOut.invited.inj (List.mem_singleton.mp hnew)).2.symm
    · rcases List.mem_append.mp hmem with hold | hnew
      · exact (h.invited c' hc hlive hcalling sentAt hold).imp_right (List.mem_append_left _)
      · exact absurd (SetupOut.invited.inj (List.mem_singleton.mp hnew)).1 hne
  · intro id' sentAt hmem
    rcases List.mem_append.mp hmem with hold | hnew
    · exact h.sent id' sentAt hold
    · rw [(SetupOut.invited.inj (List.mem_singleton.mp hnew)).2]
      exact h.now
  · intro due hdue
    cases htmr : s.tmr with
    | none =>
        rw [htmr] at hdue
        exact (Option.some.inj hdue).ge
    | some due' =>
        rw [htmr] at hdue
        obtain rfl := Option.some.inj hdue
        exact h.soon due' htmr
  · intro c' hc' hlive hcalling hstart
    obtain ⟨c, hc, ⟨-, rfl⟩ | ⟨-, rfl⟩⟩ := mem_onCall hc'
    · cases htmr : s.tmr with
      | none => exact ⟨s.now + setupTickMs, rfl, by simp only; omega⟩
      | some due =>
          have hsoon := h.soon due htmr
          exact ⟨due, rfl, by simp only; omega⟩
    · obtain ⟨due, hdue, hlt⟩ := h.due c' hc hlive hcalling hstart
      exact ⟨due, by rw [hdue]; rfl, hlt⟩

/-! ### The sweep -/

/-- The calls the sweep finds past their deadline and cannot take into its snapshot. -/
def leftOver (limit : Nat) (s : SetupWatch) : List SetupCall :=
  missed (SetupCall.overdue limit s.now) setupMaxSnap (s.calls.map (SetupCall.setupVisit limit))

/-- A call after the sweep is one that was cancelled and is not closed yet, one that is inside its
deadline or no longer under watch, or one that was left over. -/
theorem mem_setupWatchHandler {closesNow : Nat → Bool} {c' : SetupCall}
    (hc' : c' ∈ (s.setupWatchHandler limit closesNow).1.calls) :
    c'.bc = true ∧ ∃ c ∈ s.calls, ∃ x, x = c.setupVisit limit ∧
      ((x ∈ reached (SetupCall.overdue limit s.now) setupMaxSnap
          (s.calls.map (SetupCall.setupVisit limit)) ∧ c' = (x.cancelSetup closesNow).1) ∨
        (c' = x ∧ x.overdue limit s.now = false) ∨ (c' = x ∧ x ∈ s.leftOver limit)) := by
  obtain ⟨hswept, hbc⟩ := List.mem_filter.mp hc'
  refine ⟨hbc, ?_⟩
  rcases mem_sweep hswept with ⟨x, hx, rfl⟩ | ⟨hmem, hfail⟩ | hmissed
  · obtain ⟨c, hc, rfl⟩ := List.mem_map.mp (mem_reached hx).1
    exact ⟨c, hc, _, rfl, .inl ⟨hx, rfl⟩⟩
  · obtain ⟨c, hc, rfl⟩ := List.mem_map.mp hmem
    exact ⟨c, hc, _, rfl, .inr (.inl ⟨rfl, hfail⟩)⟩
  · obtain ⟨c, hc, rfl⟩ := List.mem_map.mp (mem_missed hmissed).1
    exact ⟨c, hc, _, rfl, .inr (.inr ⟨rfl, hmissed⟩)⟩

/-- What the sweep puts out is about a dialling call it has cancelled. -/
theorem setupWatchHandler_out {closesNow : Nat → Bool} {o : SetupOut}
    (ho : o ∈ (s.setupWatchHandler limit closesNow).2) :
    ∃ c ∈ s.calls, c.state = .calling ∧
      c.setupVisit limit ∈ reached (SetupCall.overdue limit s.now) setupMaxSnap
        (s.calls.map (SetupCall.setupVisit limit)) ∧
      (o = .hangup c.id 408 ∨
        (o = .closed c.id ∧ ((c.setupVisit limit).cancelSetup closesNow).1.bc = false)) := by
  have hos : (s.setupWatchHandler limit closesNow).2 = _ := sweep_outs
  rw [hos] at ho
  obtain ⟨x, hx, hox⟩ := List.mem_flatMap.mp ho
  obtain ⟨hmem, hoverdue⟩ := mem_reached hx
  obtain ⟨c, hc, rfl⟩ := List.mem_map.mp hmem
  refine ⟨c, hc, ?_, hx, ?_⟩
  · have hstart : (c.setupVisit limit).setupStart ≠ 0 := by
      simp only [SetupCall.overdue, Bool.and_eq_true, decide_eq_true_eq] at hoverdue
      exact hoverdue.1
    exact SetupCall.calling_of_setupVisit hstart
  · simpa using SetupCall.cancelSetup_out hox

/-- Two calls of the list with one number are one call, so a call that was cancelled is not found
elsewhere. -/
theorem Known.eq_of_id (h : Known s outs) {c c' : SetupCall} (hc : c ∈ s.calls) (hc' : c' ∈ s.calls)
    (hid : c.id = c'.id) : c = c' :=
  List.inj_on_of_nodup_map h.nodup hc hc' hid

theorem Known.setupWatchHandler (h : Known s outs) (closesNow : Nat → Bool) :
    Known (s.setupWatchHandler limit closesNow).1
      (outs ++ (s.setupWatchHandler limit closesNow).2) := by
  have hvisited : (s.calls.map (SetupCall.setupVisit limit)).map SetupCall.id =
      s.calls.map SetupCall.id := by
    rw [List.map_map]
    exact List.map_congr_left fun c _ => (c.setupVisit_frame limit).1
  refine h.step rfl ?_ ?_ ?_
  · refine (List.filter_sublist.map _).trans ?_
    rw [map_sweep fun x => (x.cancelSetup_frame closesNow).1, hvisited]
  · intro o ho
    obtain ⟨c, hc, -, -, rfl | ⟨rfl, -⟩⟩ := setupWatchHandler_out ho <;> exact h.ids c hc
  · intro c' hc'
    obtain ⟨hbc, c, hc, x, rfl, hcases⟩ := mem_setupWatchHandler hc'
    have hsame : c'.id = c.id ∧ c'.state = c.state := by
      rcases hcases with ⟨-, rfl⟩ | ⟨rfl, -⟩ | ⟨rfl, -⟩ <;> simp
    refine ⟨fun hclosed => ?_, c, hc, hsame.1, fun hcalling => ⟨hsame.2 ▸ hcalling, ?_⟩⟩
    · obtain ⟨d, hd, -, hx, hout | ⟨hout, hgone⟩⟩ := setupWatchHandler_out hclosed
      · cases hout
      · have hid : c'.id = d.id := SetupOut.closed.inj hout
        obtain rfl := h.eq_of_id hc hd (hsame.1.symm.trans hid)
        rcases hcases with ⟨-, rfl⟩ | ⟨-, hfail⟩ | ⟨-, hleft⟩
        · rw [hgone] at hbc
          cases hbc
        · rw [(mem_reached hx).2] at hfail
          cases hfail
        · refine absurd hleft (not_mem_missed ?_ hx)
          exact List.Nodup.of_map SetupCall.id (hvisited ▸ h.nodup)
    · intro st hst
      obtain ⟨d, -, -, -, hout | ⟨hout, -⟩⟩ := setupWatchHandler_out hst <;> cases hout

/-- A live call the sweep leaves under watch is inside its deadline, so the timer is armed again. -/
theorem Armed.setupWatchHandler (hlimit : limit ≠ 0) (h : Armed limit s outs) (closesNow : Nat → Bool)
    (hleft : ∀ c ∈ s.leftOver limit, ¬ c.Live) :
    Armed limit (s.setupWatchHandler limit closesNow).1
      (outs ++ (s.setupWatchHandler limit closesNow).2) := by
  have hinvited : ∀ id sentAt, .invited id sentAt ∈ outs ++ (s.setupWatchHandler limit closesNow).2 →
      .invited id sentAt ∈ outs := by
    intro id sentAt hmem
    refine (List.mem_append.mp hmem).resolve_right fun hnew => ?_
    obtain ⟨c, -, -, -, hout | ⟨hout, -⟩⟩ := setupWatchHandler_out hnew <;> cases hout
  -- a live call that dials was visited and left as it is; what became of it then is one of two things
  have hkept : ∀ c' ∈ (s.setupWatchHandler limit closesNow).1.calls, c'.Live → c'.state = .calling →
      ∃ c ∈ s.calls, c.Live ∧ c.state = .calling ∧ c'.id = c.id ∧
        ((c'.setupStart = 0 ∧ .hangup c.id 408 ∈ (s.setupWatchHandler limit closesNow).2) ∨
          (c' = c ∧ c.overdue limit s.now = false)) := by
    intro c' hc' hlive hcalling
    obtain ⟨-, c, hc, x, hx, hcases⟩ := mem_setupWatchHandler hc'
    have hsame : c'.state = x.state := by
      rcases hcases with ⟨-, rfl⟩ | ⟨rfl, -⟩ | ⟨rfl, -⟩ <;> simp
    obtain rfl : x = c := by
      rw [hx]
      refine SetupCall.setupVisit_of_calling hlimit ?_
      rw [← (c.setupVisit_frame limit).2.1, ← hx, ← hsame, hcalling]
    have hdials : x.state = .calling := hsame ▸ hcalling
    rcases hcases with ⟨hreached, rfl⟩ | ⟨rfl, hfail⟩ | ⟨rfl, hmissed⟩
    · obtain ⟨hbefore, hout⟩ := SetupCall.hangup_of_cancelSetup hlive
      refine ⟨x, hc, hbefore, hdials, by simp, .inl ⟨by simp, ?_⟩⟩
      have hos : (s.setupWatchHandler limit closesNow).2 = _ := sweep_outs
      rw [hos]
      exact List.mem_flatMap.mpr ⟨x, hreached, hout⟩
    · exact ⟨c', hc, hlive, hdials, rfl, .inr ⟨rfl, hfail⟩⟩
    · exact absurd hlive (hleft c' hmissed)
  refine ⟨h.now, ?_, fun id sentAt hmem => h.sent id sentAt (hinvited id sentAt hmem), ?_, ?_⟩
  · intro c' hc' hlive hcalling sentAt hmem
    obtain ⟨c, hc, hlive', hcalling', hid, ⟨-, hout⟩ | ⟨rfl, -⟩⟩ := hkept c' hc' hlive hcalling
    · exact .inr (List.mem_append_right _ (hid ▸ hout))
    · exact (h.invited c' hc hlive' hcalling' sentAt (hinvited _ _ hmem)).imp_right
        (List.mem_append_left _)
  · intro due hdue
    change (if _ then Timer.start s.now setupTickMs else none) = some due at hdue
    split_ifs at hdue
    exact (Option.some.inj hdue).ge
  · intro c' hc' hlive hcalling hstart
    obtain ⟨c, hc, hlive', hcalling', hid, ⟨hzero, -⟩ | ⟨rfl, hfail⟩⟩ := hkept c' hc' hlive hcalling
    · exact absurd hzero hstart
    · have hmore : (s.calls.map (SetupCall.setupVisit limit)).any
          (SetupCall.inDeadline limit s.now) = true := by
        refine List.any_eq_true.mpr ⟨c', ?_, SetupCall.inDeadline_of_not_overdue hstart hfail⟩
        exact List.mem_map.mpr ⟨c', hc, SetupCall.setupVisit_of_calling hlimit hcalling⟩
      refine ⟨s.now + setupTickMs, ?_, ?_⟩
      · change (if _ then Timer.start s.now setupTickMs else none) = _
        rw [if_pos hmore]
        rfl
      · have hinside : s.now - c'.setupStart < limit := by
          have hin := SetupCall.inDeadline_of_not_overdue hstart hfail
          simp only [SetupCall.inDeadline, Bool.and_eq_true, decide_eq_true_eq] at hin
          exact hin.2
        omega

/-! ### The other handlers -/

/-- The events of a call: it stays as it is, leaves CALLING, or leaves the list. -/
theorem beventHandler_cases (id : Nat) (ev : SetupEvent) (s : SetupWatch) :
    s.beventHandler id ev = (s, []) ∨
      (s.listed id = true ∧ ∃ f : SetupCall → SetupCall, ∃ st,
        (∀ c, (f c).id = c.id ∧ (f c).state ≠ .calling) ∧
          s.beventHandler id ev = (s.onCall id f, [.state id st])) ∨
      (s.listed id = true ∧ s.beventHandler id ev = (s.unregister id, [.closed id])) := by
  unfold beventHandler
  cases hlisted : s.listed id with
  | false => exact .inl rfl
  | true =>
      rw [if_neg (by simp)]
      cases ev with
      | ringing => exact .inr (.inl ⟨rfl, fun c => { c with state := .ringing }, _, by simp, rfl⟩)
      | answered =>
          refine .inr (.inl ⟨rfl, fun c => { c with state := .established, setupStart := 0 },
            .established, by simp, ?_⟩)
          simp only [setState, onCall, List.map_map]
          congr 2
          refine List.map_congr_left fun c _ => ?_
          by_cases hid : c.id = id <;> simp [hid]
      | hold => exact .inr (.inl ⟨rfl, fun c => { c with state := .held }, _, by simp, rfl⟩)
      | resume => exact .inr (.inl ⟨rfl, fun c => { c with state := .established }, _, by simp, rfl⟩)
      | closed => exact .inr (.inr ⟨rfl, rfl⟩)

theorem Known.lt_of_listed (h : Known s outs) (hlisted : s.listed id = true) : id < s.next := by
  obtain ⟨c, hc, hid⟩ := List.any_eq_true.mp hlisted
  exact of_decide_eq_true hid ▸ h.ids c hc

theorem beventHandler_reports {ev : SetupEvent} {o : SetupOut} (ho : o ∈ (s.beventHandler id ev).2) :
    o.reports = true := by
  obtain heq | ⟨-, f, st, -, heq⟩ | ⟨-, heq⟩ := s.beventHandler_cases id ev <;> rw [heq] at ho
  · cases ho
  · rw [List.mem_singleton.mp ho]
    rfl
  · rw [List.mem_singleton.mp ho]
    rfl

theorem Known.beventHandler (h : Known s outs) (ev : SetupEvent) :
    Known (s.beventHandler id ev).1 (outs ++ (s.beventHandler id ev).2) := by
  obtain heq | ⟨hlisted, f, st, hf, heq⟩ | ⟨hlisted, heq⟩ := s.beventHandler_cases id ev <;> rw [heq]
  · simpa using h
  · exact h.leaves (h.lt_of_listed hlisted) hf
  · exact h.unregister (by simp) (h.lt_of_listed hlisted)

theorem Armed.beventHandler (h : Armed limit s outs) (ev : SetupEvent) :
    Armed limit (s.beventHandler id ev).1 (outs ++ (s.beventHandler id ev).2) := by
  obtain heq | ⟨-, f, st, hf, heq⟩ | ⟨-, heq⟩ := s.beventHandler_cases id ev <;> rw [heq]
  · simpa using h
  · exact h.leaves fun c => (hf c).2
  · exact h.unregister (by simp)

@[simp]
theorem beventHandler_next (ev : SetupEvent) : (s.beventHandler id ev).1.next = s.next := by
  obtain heq | ⟨-, f, st, -, heq⟩ | ⟨-, heq⟩ := s.beventHandler_cases id ev <;> rw [heq] <;> rfl

/-- What every event of a call keeps, several keep. -/
theorem beventHandlers_keep {I : SetupWatch → List SetupOut → Prop} (evs : List SetupEvent)
    (hkeep : ∀ s os ev, I s os → I (s.beventHandler id ev).1 (os ++ (s.beventHandler id ev).2))
    (h : I s []) : I (s.beventHandlers id evs).1 (s.beventHandlers id evs).2 := by
  unfold beventHandlers
  refine List.foldlRecOn (motive := fun p : SetupWatch × List SetupOut => I p.1 p.2) evs _ h ?_
  intro p hp ev _
  exact hkeep p.1 p.2 ev hp

/-- What holds after every handler: what was said of the calls, and, if there is a limit, what the watchdog
relies on. -/
structure Watching (limit : Nat) (s : SetupWatch) (outs : List SetupOut) : Prop where
  known : Known s outs
  armed : limit ≠ 0 → Armed limit s outs

theorem Watching.beventHandler (h : Watching limit s outs) (id : Nat) (ev : SetupEvent) :
    Watching limit (s.beventHandler id ev).1 (outs ++ (s.beventHandler id ev).2) :=
  ⟨h.known.beventHandler ev, fun hlimit => (h.armed hlimit).beventHandler ev⟩

theorem Watching.ended (h : Watching limit s outs) (hid : id < s.next) :
    Watching limit (s.setState id .ended).1 (outs ++ (s.setState id .ended).2) :=
  ⟨h.known.leaves hid (by simp), fun hlimit => (h.armed hlimit).leaves (by simp)⟩

/-- The app ends a call: it may be closed before its state is written. -/
theorem Watching.rejectFn (h : Watching limit s outs) (hid : id < s.next) (closesNow : Bool) :
    Watching limit (s.rejectFn id closesNow).1 (outs ++ (s.rejectFn id closesNow).2) := by
  cases closesNow with
  | false => exact h.ended hid
  | true =>
      change Watching limit (((s.beventHandler id .closed).1.setState id .ended).1)
        (outs ++ ((s.beventHandler id .closed).2 ++ _))
      rw [← List.append_assoc]
      exact (h.beventHandler id .closed).ended (by rwa [beventHandler_next])

theorem hangupFn_eq (id : Nat) (closesNow : Bool) (s : SetupWatch) :
    s.hangupFn id closesNow = if s.listed id then s.rejectFn id closesNow else (s, []) := by
  unfold SetupWatch.hangupFn
  cases s.listed id <;> rfl

theorem Watching.hangupFn (h : Watching limit s outs) (hid : id < s.next) (closesNow : Bool) :
    Watching limit (s.hangupFn id closesNow).1 (outs ++ (s.hangupFn id closesNow).2) := by
  rw [hangupFn_eq]
  split_ifs
  · exact h.rejectFn hid closesNow
  · rwa [List.append_nil]

theorem Watching.destroyFn (h : Watching limit s outs) (acct : Nat) (closesNow : Nat → Bool) :
    Watching limit (s.destroyFn acct closesNow).1 (outs ++ (s.destroyFn acct closesNow).2) := by
  have hclosed : ∀ o ∈ (s.destroyFn acct closesNow).2, ∃ c ∈ s.calls,
      (decide (c.acct = acct) && closesNow c.id) = true ∧ o = .closed c.id := by
    intro o ho
    obtain ⟨c, hc, rfl⟩ := List.mem_map.mp ho
    obtain ⟨hmem, hcloses⟩ := List.mem_filter.mp hc
    exact ⟨c, hmem, hcloses, rfl⟩
  have hstays : ∀ c' ∈ (s.destroyFn acct closesNow).1.calls, ∃ c ∈ s.calls,
      (decide (c.acct = acct) && closesNow c.id) = false ∧
        (c' = c ∨ c' = { c with ua := false }) := by
    intro c' hc'
    obtain ⟨c, hc, rfl⟩ := List.mem_map.mp hc'
    obtain ⟨hmem, hstays⟩ := List.mem_filter.mp hc
    refine ⟨c, hmem, (Bool.not_eq_true' _).mp hstays, ?_⟩
    by_cases hacct : c.acct = acct
    · exact .inr (if_pos hacct)
    · exact .inl (if_neg hacct)
  have hids : ((s.destroyFn acct closesNow).1.calls.map SetupCall.id).Sublist
      (s.calls.map SetupCall.id) := by
    simp only [SetupWatch.destroyFn, List.map_map]
    have hid : (SetupCall.id ∘ fun c => if c.acct = acct then { c with ua := false } else c) =
        SetupCall.id := by
      funext c
      by_cases hacct : c.acct = acct <;> simp [hacct]
    rw [hid]
    exact List.filter_sublist.map _
  refine ⟨h.known.step rfl hids ?_ ?_, fun hlimit => (h.armed hlimit).step rfl rfl ?_ ?_⟩
  · intro o ho
    obtain ⟨c, hc, -, rfl⟩ := hclosed o ho
    exact h.known.ids c hc
  · intro c' hc'
    obtain ⟨c, hc, hopen, hcases⟩ := hstays c' hc'
    have hsame : c'.id = c.id ∧ c'.state = c.state := by
      rcases hcases with rfl | rfl <;> exact ⟨rfl, rfl⟩
    refine ⟨fun hmem => ?_, c, hc, hsame.1, fun hcalling => ⟨hsame.2 ▸ hcalling, fun st hst => ?_⟩⟩
    · obtain ⟨d, hd, hcloses, heq⟩ := hclosed _ hmem
      obtain rfl := h.known.eq_of_id hc hd (hsame.1.symm.trans (SetupOut.closed.inj heq))
      rw [hcloses] at hopen
      cases hopen
    · obtain ⟨d, -, -, heq⟩ := hclosed _ hst
      cases heq
  · intro id sentAt hmem
    obtain ⟨d, -, -, heq⟩ := hclosed _ hmem
    cases heq
  · intro c' hc' hlive hcalling
    obtain ⟨c, hc, -, rfl | rfl⟩ := hstays c' hc'
    · exact ⟨c', hc, rfl, hlive, hcalling, rfl⟩
    · cases hlive.2

theorem Watching.beventIncoming (h : Watching limit s outs) (acct : Nat) :
    Watching limit (s.beventIncoming acct).1 (outs ++ (s.beventIncoming acct).2) := by
  refine ⟨h.known.wrapNew acct .ringing ?_, fun hlimit => (h.armed hlimit).wrapNew h.known acct .ringing ?_⟩
  · intro o ho
    exact ⟨List.mem_singleton.mp ho, by simp⟩
  · simp [SetupWatch.beventIncoming]

/-- The wrapper of an outgoing call, before its watch starts. -/
theorem Watching.wrapNew (h : Watching limit s outs) (acct : Nat) :
    Watching limit (s.wrapNew acct .calling) outs := by
  rw [← List.append_nil outs]
  exact ⟨h.known.wrapNew acct .calling (by simp),
    fun hlimit => (h.armed hlimit).wrapNew h.known acct .calling (by simp)⟩

/-- A wrapper that is given up without an event. -/
theorem Watching.dropped (h : Watching limit s outs) (hid : id < s.next) :
    Watching limit (s.unregister id) outs := by
  rw [← List.append_nil outs]
  exact ⟨h.known.unregister (by simp) hid, fun hlimit => (h.armed hlimit).unregister (by simp)⟩

theorem Watching.setupWatchStart (h : Watching limit s outs) (hid : id < s.next)
    (hfirst : ∀ sentAt, .invited id sentAt ∉ outs) :
    Watching limit (s.setupWatchStart limit id) (outs ++ [.invited id s.now]) :=
  ⟨h.known.setupWatchStart hid, fun hlimit => (h.armed hlimit).setupWatchStart hlimit hfirst⟩

theorem Watching.inviteFn (h : Watching limit s outs) (acct : Nat) :
    Watching limit (s.inviteFn limit acct).1 (outs ++ (s.inviteFn limit acct).2) := by
  refine (h.wrapNew acct).setupWatchStart (Nat.lt_succ_self _) fun sentAt hmem => ?_
  exact Nat.lt_irrefl _ (h.known.calls _ hmem)

theorem Watching.transferAcceptFn (h : Watching limit s outs) (acct : Nat) (evs : List SetupEvent)
    (connected : Bool) :
    Watching limit (s.transferAcceptFn limit acct evs connected).1
      (outs ++ (s.transferAcceptFn limit acct evs connected).2) := by
  have hkeep : ∀ r os ev, (Watching limit r (outs ++ os) ∧ r.next = s.next + 1 ∧
      ∀ o ∈ os, o.reports = true) →
      Watching limit (r.beventHandler s.next ev).1 (outs ++ (os ++ (r.beventHandler s.next ev).2)) ∧
        (r.beventHandler s.next ev).1.next = s.next + 1 ∧
        ∀ o ∈ os ++ (r.beventHandler s.next ev).2, o.reports = true := by
    rintro r os ev ⟨hr, hnext, hreports⟩
    refine ⟨?_, by simpa using hnext, ?_⟩
    · rw [← List.append_assoc]
      exact hr.beventHandler _ ev
    · intro o ho
      rcases List.mem_append.mp ho with hold | hnew
      · exact hreports o hold
      · exact beventHandler_reports hnew
  obtain ⟨hwatching, hnext, hreports⟩ := beventHandlers_keep evs hkeep
    ⟨by simpa using h.wrapNew acct, rfl, by simp⟩
  have hid : s.next < ((s.wrapNew acct .calling).beventHandlers s.next evs).1.next := by omega
  have hfirst : ∀ sentAt, .invited s.next sentAt ∉
      outs ++ ((s.wrapNew acct .calling).beventHandlers s.next evs).2 := by
    intro sentAt hmem
    rcases List.mem_append.mp hmem with hold | hnew
    · exact Nat.lt_irrefl _ (h.known.calls _ hold)
    · exact Bool.noConfusion (hreports _ hnew)
  cases connected with
  | true =>
      change Watching limit (((s.wrapNew acct .calling).beventHandlers s.next evs).1.setupWatchStart
        limit s.next) (outs ++ (_ ++ [_]))
      rw [← List.append_assoc]
      exact hwatching.setupWatchStart hid hfirst
  | false => exact hwatching.dropped hid

/-! ### Runs -/

/-- The condition: a sweep finds no live call past its deadline beyond the first `setupMaxSnap`. -/
def fitsSnapshot (limit : Nat) (s : SetupWatch) : SetupAct → Bool
  | .setupTimer _ => (s.leftOver limit).all fun c => !(c.bc && c.ua)
  | _ => true

theorem Watching.elapse (h : Watching limit s outs) (ms : Nat) :
    Watching limit { s with now := s.now + ms } outs := by
  obtain ⟨⟨hids, hnodup, hcalls, hstate, hlisted⟩, harmed⟩ := h
  refine ⟨⟨hids, hnodup, hcalls, hstate, hlisted⟩, fun hlimit => ?_⟩
  obtain ⟨hnow, hinvited, hsent, hsoon, hdue⟩ := harmed hlimit
  refine ⟨by simp only; omega, hinvited, hsent, fun due htmr => ?_, hdue⟩
  have hle := hsoon due htmr
  simp only
  omega

theorem Watching.act {s' : SetupWatch} (h : Watching limit s outs) (act : SetupAct)
    (hfits : s.fitsSnapshot limit act = true) (hstep : s.act limit act = some (s', os)) :
    Watching limit s' (outs ++ os) := by
  cases act with
  | incoming acct =>
      obtain ⟨rfl, rfl⟩ := Prod.mk.inj (Option.some.inj hstep)
      exact h.beventIncoming acct
  | invite acct =>
      obtain ⟨rfl, rfl⟩ := Prod.mk.inj (Option.some.inj hstep)
      exact h.inviteFn acct
  | transferAccept acct evs connected =>
      obtain ⟨rfl, rfl⟩ := Prod.mk.inj (Option.some.inj hstep)
      exact h.transferAcceptFn acct evs connected
  | bevent id ev =>
      obtain ⟨rfl, rfl⟩ := Prod.mk.inj (Option.some.inj hstep)
      exact h.beventHandler id ev
  | hangup id closesNow =>
      rw [SetupWatch.act] at hstep
      split_ifs at hstep with hid
      obtain ⟨rfl, rfl⟩ := Prod.mk.inj (Option.some.inj hstep)
      exact h.hangupFn hid closesNow
  | reject id closesNow =>
      rw [SetupWatch.act] at hstep
      split_ifs at hstep with hid
      obtain ⟨rfl, rfl⟩ := Prod.mk.inj (Option.some.inj hstep)
      exact h.rejectFn hid closesNow
  | destroyAccount acct closesNow =>
      obtain ⟨rfl, rfl⟩ := Prod.mk.inj (Option.some.inj hstep)
      exact h.destroyFn acct closesNow
  | setupTimer closesNow =>
      rw [SetupWatch.act] at hstep
      split_ifs at hstep
      obtain ⟨rfl, rfl⟩ := Prod.mk.inj (Option.some.inj hstep)
      refine ⟨h.known.setupWatchHandler closesNow, fun hlimit =>
        (h.armed hlimit).setupWatchHandler hlimit closesNow fun c hc hlive => ?_⟩
      have hdead := List.all_eq_true.mp hfits c hc
      simp [hlive.1, hlive.2] at hdead
  | elapse ms =>
      obtain ⟨rfl, rfl⟩ := Prod.mk.inj (Option.some.inj hstep)
      rw [List.append_nil]
      exact h.elapse ms

theorem rejectFn_reports {closesNow : Bool} {o : SetupOut} (ho : o ∈ (s.rejectFn id closesNow).2) :
    o.reports = true := by
  rcases List.mem_append.mp ho with hclosed | hended
  · cases closesNow with
    | false => cases hclosed
    | true => exact beventHandler_reports hclosed
  · rw [List.mem_singleton.mp hended]
    rfl

/-- No handler but the sweep hangs a call up for the watchdog. -/
theorem setupTimer_of_hangup {s' : SetupWatch} (act : SetupAct) {code : Nat}
    (hstep : s.act limit act = some (s', os)) (hout : .hangup id code ∈ os) :
    ∃ closesNow, os = (s.setupWatchHandler limit closesNow).2 := by
  cases act with
  | incoming acct =>
      obtain ⟨rfl, rfl⟩ := Prod.mk.inj (Option.some.inj hstep)
      cases List.mem_singleton.mp hout
  | invite acct =>
      obtain ⟨rfl, rfl⟩ := Prod.mk.inj (Option.some.inj hstep)
      cases List.mem_singleton.mp hout
  | transferAccept acct evs connected =>
      obtain ⟨rfl, rfl⟩ := Prod.mk.inj (Option.some.inj hstep)
      have hreports : ∀ o ∈ ((s.wrapNew acct .calling).beventHandlers s.next evs).2,
          o.reports = true := by
        refine beventHandlers_keep (I := fun _ os => ∀ o ∈ os, o.reports = true) evs ?_ (by simp)
        intro r os ev hos o ho
        rcases List.mem_append.mp ho with hold | hnew
        · exact hos o hold
        · exact beventHandler_reports hnew
      cases connected with
      | true =>
          rcases List.mem_append.mp hout with hout | hout
          · exact Bool.noConfusion (hreports _ hout)
          · cases List.mem_singleton.mp hout
      | false => exact Bool.noConfusion (hreports _ hout)
  | bevent id ev =>
      obtain ⟨rfl, rfl⟩ := Prod.mk.inj (Option.some.inj hstep)
      exact Bool.noConfusion (beventHandler_reports hout)
  | hangup id' closesNow =>
      rw [SetupWatch.act] at hstep
      split_ifs at hstep with hid
      rw [hangupFn_eq] at hstep
      split_ifs at hstep
      · obtain ⟨rfl, rfl⟩ := Prod.mk.inj (Option.some.inj hstep)
        exact Bool.noConfusion (rejectFn_reports hout)
      · obtain ⟨rfl, rfl⟩ := Prod.mk.inj (Option.some.inj hstep)
        cases hout
  | reject id closesNow =>
      rw [SetupWatch.act] at hstep
      split_ifs at hstep with hid
      obtain ⟨rfl, rfl⟩ := Prod.mk.inj (Option.some.inj hstep)
      exact Bool.noConfusion (rejectFn_reports hout)
  | destroyAccount acct closesNow =>
      obtain ⟨rfl, rfl⟩ := Prod.mk.inj (Option.some.inj hstep)
      obtain ⟨c, -, heq⟩ := List.mem_map.mp hout
      cases heq
  | setupTimer closesNow =>
      rw [SetupWatch.act] at hstep
      split_ifs at hstep
      obtain ⟨rfl, rfl⟩ := Prod.mk.inj (Option.some.inj hstep)
      exact ⟨closesNow, rfl⟩
  | elapse ms =>
      obtain ⟨rfl, rfl⟩ := Prod.mk.inj (Option.some.inj hstep)
      cases hout

end SetupWatch

/-- What the watchdog promises in a state a run has reached: while a live call that dials is under watch
the timer is armed; unless the timer is late, a live call that still dials a period after its deadline has
been hung up with 408; and what is hung up by the next handler has been in no other state. -/
structure MissesNobody (limit : Nat) (s : SetupWatch) (t : Trace SetupAct SetupOut) : Prop where
  armed : limit ≠ 0 → (∃ c ∈ s.calls, c.Live ∧ c.state = .calling ∧ c.setupStart ≠ 0) →
    s.tmr.isRunning = true
  cancelled : limit ≠ 0 → (∀ due, s.tmr = some due → s.now ≤ due) →
    ∀ c ∈ s.calls, c.Live → c.state = .calling → ∀ sentAt, .invited c.id sentAt ∈ t.outs →
      sentAt + limit + setupTickMs ≤ s.now → .hangup c.id 408 ∈ t.outs
  spared : ∀ act s' os, (setupWatch limit).step s act = some (s', os) → ∀ id code,
    .hangup id code ∈ os → .closed id ∉ t.outs ∧ ∀ st, .state id st ∉ t.outs

variable {limit : Nat} {s : SetupWatch} {t : Trace SetupAct SetupOut}

theorem watching_of_run (hrun : (setupWatch limit).Run (fun s act => s.fitsSnapshot limit act) s t) :
    s.Watching limit t.outs := by
  refine hrun.invariant (I := fun s t => s.Watching limit (Trace.outs t)) ?_ ?_
  · rintro ⟨now, next, calls, tmr⟩ ⟨hnow, hnext, hcalls, htmr⟩
    obtain ⟨rfl, rfl, rfl⟩ : next = 0 ∧ calls = [] ∧ tmr = none := ⟨hnext, hcalls, htmr⟩
    refine ⟨⟨by simp, by simp, by simp, by simp, by simp⟩, fun _ => ⟨hnow, by simp, by simp, ?_, by simp⟩⟩
    intro due hdue
    cases hdue
  · intro s t act s' os hwatching hfits hstep
    rw [Trace.outs_append, Trace.outs_singleton]
    exact hwatching.act act hfits hstep

/-- **The watchdog misses nobody**, as long as no sweep finds more live calls past their deadline than its
snapshot takes. -/
theorem setup_watch_misses_nobody
    (hrun : (setupWatch limit).Run (fun s act => s.fitsSnapshot limit act) s t) :
    MissesNobody limit s t := by
  obtain ⟨hknown, harmed⟩ := watching_of_run hrun
  refine ⟨?_, ?_, ?_⟩
  · rintro hlimit ⟨c, hc, hlive, hcalling, hstart⟩
    obtain ⟨due, hdue, -⟩ := (harmed hlimit).due c hc hlive hcalling hstart
    rw [hdue]
    rfl
  · intro hlimit hpunctual c hc hlive hcalling sentAt hsent hlate
    have harmed := harmed hlimit
    refine (harmed.invited c hc hlive hcalling sentAt hsent).resolve_left fun hstart => ?_
    have hne : c.setupStart ≠ 0 := hstart ▸ harmed.sent c.id sentAt hsent
    obtain ⟨due, hdue, hlt⟩ := harmed.due c hc hlive hcalling hne
    have hle := hpunctual due hdue
    omega
  · intro act s' os hstep id code hout
    obtain ⟨closesNow, rfl⟩ := SetupWatch.setupTimer_of_hangup act hstep hout
    obtain ⟨c, hc, hcalling, -, heq | ⟨heq, -⟩⟩ := SetupWatch.setupWatchHandler_out hout
    · rw [(SetupOut.hangup.inj heq).1]
      exact ⟨hknown.listed c hc, hknown.state c hc hcalling⟩
    · cases heq

/-- The stack just started. -/
def setupIdle : SetupWatch := { now := 1, next := 0, calls := [], tmr := none }

theorem setupIdle_init (limit : Nat) : (setupWatch limit).init setupIdle := ⟨by decide, rfl, rfl, rfl⟩

/-- A call that nobody answers for a second. -/
theorem setup_watch_misses_nobody_one : ∃ s t, MissesNobody 1000 s t ∧ .hangup 0 408 ∈ t.outs := by
  obtain ⟨s, t, hrun, hend⟩ := Machine.exists_run_of_exec (M := setupWatch 1000)
    (fun s act => s.fitsSnapshot 1000 act) (setupIdle_init 1000)
    [.invite 0, .elapse 500, .setupTimer fun _ => true, .elapse 500, .setupTimer fun _ => true]
    (fun _ t => decide (.hangup 0 408 ∈ t.outs)) (by decide +kernel)
  exact ⟨s, t, setup_watch_misses_nobody hrun, of_decide_eq_true hend⟩

/-- Sixty-five calls that nobody answers: the sweep takes sixty-four of them and stops. -/
theorem setup_watch_misses_one :
    ¬ ∀ (limit : Nat) (s : SetupWatch) (t : Trace SetupAct SetupOut),
      (setupWatch limit).Run Machine.Always s t → MissesNobody limit s t := by
  intro h
  obtain ⟨s, t, hrun, hend⟩ := Machine.exists_run_of_exec (M := setupWatch 500) (fun _ _ => true)
    (setupIdle_init 500)
    (List.replicate 65 (.invite 0) ++ [.elapse 500, .setupTimer fun _ => true])
    (fun s _ => (s.calls.any fun c => c.bc && c.ua && decide (c.state = .calling) &&
      decide (c.setupStart ≠ 0)) && !s.tmr.isRunning) (by decide +kernel)
  obtain ⟨hwaits, hidle⟩ := Bool.and_eq_true_iff.mp hend
  obtain ⟨c, hc, hwatched⟩ := List.any_eq_true.mp hwaits
  simp only [Bool.and_eq_true, decide_eq_true_eq] at hwatched
  obtain ⟨⟨⟨hbc, hua⟩, hcalling⟩, hstart⟩ := hwatched
  have harmed := (h 500 s t hrun.always).armed (by decide) ⟨c, hc, ⟨hbc, hua⟩, hcalling, hstart⟩
  rw [harmed] at hidle
  cases hidle

end VoxSdk
