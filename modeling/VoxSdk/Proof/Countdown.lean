import VoxSdk.Proof.RetryBudget
import VoxSdk.Proof.Stream

/-!
# The countdown the app reads

A RECONNECTING event carries the number and the delay of the retry armed for it, and nothing of either
when none is. Both numbers are kept on the account, and six handlers report with whatever is there.
`Coherent` says what the events of one step have to carry; `countdownFits` is what each handler would
have to check before it reports.
-/

namespace VoxSdk

open Reactive

/-! ### What the numbers say -/

/-- An event beside an armed retry: not RECONNECTING, and no delay on it. -/
def RegEvent.Aside (ev : RegEvent) : Prop := ev.state ≠ .reconnecting ∧ ev.retryDelayMs = 0

/-- An event while no retry is armed: no delay on it, and no number on a RECONNECTING. -/
def RegEvent.Bare (ev : RegEvent) : Prop :=
  ev.retryDelayMs = 0 ∧ (ev.state = .reconnecting → ev.retryAttempt = 0)

theorem RegEvent.Aside.bare {ev : RegEvent} (h : ev.Aside) : ev.Bare :=
  ⟨h.2, fun hst => absurd hst h.1⟩

/-- The last number the app has read in this outage, after one more event. The outage is over for the app
with the first event that is not RECONNECTING. -/
def RegEvent.counts (ev : RegEvent) (last : Nat) : Nat :=
  if ev.state ≠ .reconnecting then 0
  else if ev.retryAttempt = 0 then last
  else ev.retryAttempt

/-- The events of a step that arms a retry for `delay`: one of them announces it as the attempt after
the last one, no retry is armed before it, and none is announced again. -/
def Announces (delay : Nat) : Nat → List RegEvent → Prop
  | _, [] => False
  | last, ev :: evs =>
      (ev.state = .reconnecting ∧ ev.retryAttempt = last + 1 ∧ ev.retryDelayMs = delay ∧
          ∀ ev ∈ evs, ev.Aside) ∨
        (ev.Bare ∧ Announces delay (ev.counts last) evs)

theorem announces_nil (delay last : Nat) : ¬ Announces delay last [] := fun h => h

theorem announces_cons {delay last : Nat} {ev : RegEvent} {evs : List RegEvent} :
    Announces delay last (ev :: evs) ↔
      (ev.state = .reconnecting ∧ ev.retryAttempt = last + 1 ∧ ev.retryDelayMs = delay ∧
          ∀ ev ∈ evs, ev.Aside) ∨
        (ev.Bare ∧ Announces delay (ev.counts last) evs) :=
  Iff.rfl

/-- Events beside a retry do not announce it. -/
theorem not_announces_of_aside {delay last : Nat} {evs : List RegEvent} (hevs : ∀ ev ∈ evs, ev.Aside) :
    ¬ Announces delay last evs := by
  induction evs generalizing last with
  | nil => exact announces_nil delay last
  | cons ev evs ih =>
      rw [announces_cons]
      rintro (⟨hst, -⟩ | ⟨-, hrest⟩)
      · exact (hevs ev List.mem_cons_self).1 hst
      · exact ih (fun ev hev => hevs ev (List.mem_cons_of_mem _ hev)) hrest

/-- The announcement is the last RECONNECTING of its step. -/
theorem announces_announced {delay last : Nat} {ev : RegEvent} {evs : List RegEvent}
    (hst : ev.state = .reconnecting) (hevs : ∀ ev ∈ evs, ev.Aside) :
    Announces delay last (ev :: evs) ↔ ev.retryAttempt = last + 1 ∧ ev.retryDelayMs = delay := by
  rw [announces_cons]
  constructor
  · rintro (⟨-, hattempt, hdelay, -⟩ | ⟨-, hrest⟩)
    · exact ⟨hattempt, hdelay⟩
    · exact absurd hrest (not_announces_of_aside hevs)
  · rintro ⟨hattempt, hdelay⟩
    exact .inl ⟨hst, hattempt, hdelay, hevs⟩

/-- What the events `evs` of a step from `a` to `b` carry, after the number `last`: a retry the step
arms is announced once, one that was armed before is not announced again, and without one no event
counts anything. -/
def Coherent (now last : Nat) (a b : Account) (evs : List RegEvent) : Prop :=
  if b.retryTmr.isRunning then
    if b.retryTmr = a.retryTmr then ∀ ev ∈ evs, ev.Aside
    else ∃ delay, b.retryTmr = Timer.start now delay ∧ Announces delay last evs
  else ∀ ev ∈ evs, ev.Bare

namespace Account

variable (g : Cfg) (now last : Nat) {a b c : Account} {err : VoxError} {ev : RegEvent}
  {evs : List RegEvent}

/-! ### The condition -/

/-- A RECONNECTING with this error is withheld, or there is nothing to count. -/
def reportFits (err : VoxError) (a : Account) : Bool :=
  a.sameReport err || (!a.retryTmr.isRunning && decide (a.retryAttempt = 0) &&
    decide (a.retryDelayMs = 0))

/-- The next attempt is the one after the last the app has read. -/
def nextFits (last : Nat) (a : Account) : Bool := decide (u32 (a.retryAttempt + 1) = last + 1)

/-- The account with its next attempt on it. -/
def counted (rand : Nat) (a : Account) : Account :=
  { a with retryAttempt := u32 (a.retryAttempt + 1), retryDelayMs := a.retryDelay g rand }

/-- The next attempt is announced under its number. -/
def announceFits (last rand : Nat) (err : VoxError) (a : Account) : Bool :=
  a.nextFits last && !(a.counted g rand).sameReport err

/-- The condition, for each event: `last` is the number the app has read last in this outage. -/
def countdownFits (last : Nat) (a : Account) : AcctAct → Bool
  | .retryNow reporting =>
      !(reporting && a.reconnecting) ||
        ({ a with retryTmr := none, retryAttempt := 0 }).reportFits a.regError
  | .setPushToken token dupOk reporting =>
      !(a.reRegisters token dupOk && reporting && a.reconnecting) || a.reportFits a.regError
  | .registerFail reason rand =>
      decide (registerFailError reason = .auth) ||
        if a.retryTmr.isRunning then !a.regWanted || a.sameReport (registerFailError reason)
        else !a.retryBudgetLeft g || a.announceFits g last rand (registerFailError reason)
  | .retryFires reporting =>
      !(reporting && a.reconnecting) || ({ a with retryTmr := none }).reportFits a.regError
  | .watchFires registered rand =>
      !a.failsNow g (.watchFires registered rand) || !a.retryBudgetLeft g ||
        (a.reportFits .timeout && a.nextFits last)
  | .optionsAnswered answered _ _ =>
      answered || !a.regWanted ||
        if g.keepaliveReregister && !a.retryTmr.isRunning then
          !a.retryBudgetLeft g || (a.reportFits .timeout && a.nextFits last)
        else a.reportFits .timeout
  | .handoverMark =>
      (decide (a.regState ≠ .registered) && decide (a.regState ≠ .registering)) ||
        a.reportFits .ok
  | .handoverToRetry rand =>
      decide (a.regState ≠ .reconnecting) || a.retryTmr.isRunning || !a.retryBudgetLeft g ||
        a.announceFits g last rand a.regError
  | .handoverReregister reporting =>
      a.authFailed || !reporting ||
        ({ a with retryTmr := none, retryAttempt := 0 }).reportFits a.regError
  | _ => true

/-! ### What is posted -/

/-- The events posted in the step under way. -/
def posts (a : Account) : List RegEvent := a.out.filterMap AcctOut.event

@[simp]
theorem posts_emit (o : AcctOut) : (a.emit o).posts = a.posts ++ [o].filterMap AcctOut.event :=
  List.filterMap_append

@[simp]
theorem posts_setRegState (st : RegState) : (a.setRegState st).posts = a.posts := by
  simp [posts, setRegState, AcctOut.event]

/-- What `vox_account_reg_ev_prepare` lets through. -/
def report (ev : RegEvent) (reason : ErrStr) (a : Account) : List RegEvent :=
  if ev.state ≠ .reconnecting then [{ a.reconnectReset.stamp ev with errorStr := reason }]
  else if a.sameReport ev.error then []
  else [{ a.stamp ev with errorStr := reason }]

@[simp]
theorem posts_postCopied (ev : RegEvent) (reason : ErrStr) :
    (a.postCopied ev reason).posts = a.posts ++ a.report ev reason := by
  unfold report
  obtain ⟨hst, heq⟩ | ⟨hst, hsame, heq⟩ | ⟨hst, hsame, heq⟩ := a.postCopied_cases ev reason
  · rw [heq, if_pos hst]
    exact posts_emit _
  · rw [heq, if_neg (not_not.mpr hst), if_pos hsame]
    exact posts_emit _
  · rw [heq, if_neg (not_not.mpr hst), if_neg (by simp [hsame])]
    exact posts_emit _

@[simp]
theorem posts_postPrepared (ev : RegEvent) :
    (a.postPrepared ev).posts = a.posts ++ a.report ev ev.errorStr := by
  rw [postPrepared_eq_postCopied, posts_postCopied]

@[simp]
theorem posts_keepaliveArm : (a.keepaliveArm g now).posts = a.posts := by
  simp [posts]

/-- Anything but RECONNECTING goes out without a delay. -/
theorem aside_of_mem_report {reason : ErrStr} (hst : ev.state ≠ .reconnecting) :
    ∀ ev' ∈ a.report ev reason, ev'.Aside := by
  intro ev' hev
  rw [report, if_pos hst, List.mem_singleton] at hev
  subst hev
  exact ⟨hst, rfl⟩

theorem mem_report {reason : ErrStr} (hst : ev.state = .reconnecting) {ev' : RegEvent} :
    ev' ∈ a.report ev reason ↔
      a.sameReport ev.error = false ∧ ev' = { a.stamp ev with errorStr := reason } := by
  rw [report, if_neg (not_not.mpr hst)]
  cases a.sameReport ev.error <;> simp

/-- A report beside an armed retry is withheld, or repeats its number. -/
theorem aside_report_iff {reason : ErrStr} (hst : ev.state = .reconnecting) :
    (∀ ev' ∈ a.report ev reason, ev'.Aside) ↔ a.sameReport ev.error = true := by
  simp only [mem_report hst, and_imp, forall_eq_apply_imp_iff]
  constructor
  · intro haside
    by_contra hsame
    exact (haside (by simpa using hsame)).1 hst
  · intro hsame hno
    rw [hsame] at hno
    cases hno

/-- A report without a retry is withheld, or carries nothing. -/
theorem bare_report_iff {reason : ErrStr} (hst : ev.state = .reconnecting) :
    (∀ ev' ∈ a.report ev reason, ev'.Bare) ↔
      a.sameReport ev.error = true ∨ (a.retryAttempt = 0 ∧ a.retryDelayMs = 0) := by
  simp only [mem_report hst, and_imp]
  constructor
  · intro hbare
    by_cases hsame : a.sameReport ev.error = true
    · exact .inl hsame
    · obtain ⟨hdelay, hattempt⟩ := hbare _ (by simpa using hsame) rfl
      exact .inr ⟨hattempt hst, hdelay⟩
  · rintro (hsame | ⟨hattempt, hdelay⟩) ev' hno rfl
    · rw [hsame] at hno
      cases hno
    · exact ⟨hdelay, fun _ => hattempt⟩

/-! ### A step that arms nothing -/

/-- The timer is left alone or stopped. -/
def Unarmed (a b : Account) : Prop := b.retryTmr = a.retryTmr ∨ b.retryTmr = none

theorem Unarmed.coherent_iff (h : Unarmed a b) :
    Coherent now last a b evs ↔
      if b.retryTmr.isRunning then ∀ ev ∈ evs, ev.Aside else ∀ ev ∈ evs, ev.Bare := by
  unfold Coherent
  obtain heq | hnone := h
  · rw [if_pos heq]
  · rw [hnone, if_neg (by simp), if_neg (by simp)]

/-- Events that are not RECONNECTING are coherent with any retry that is not armed by their step. -/
theorem Unarmed.coherent (h : Unarmed a b) (haside : ∀ ev ∈ evs, ev.Aside) :
    Coherent now last a b evs := by
  rw [h.coherent_iff]
  split
  · exact haside
  · exact fun ev hev => (haside ev hev).bare

/-- A single report, made by an account whose timer is already as the step leaves it. -/
theorem Unarmed.coherent_report {reason : ErrStr} (h : Unarmed a b) (htmr : b.retryTmr = c.retryTmr)
    (hst : ev.state = .reconnecting) :
    Coherent now last a b (c.report ev reason) ↔ c.reportFits ev.error = true := by
  rw [h.coherent_iff, htmr, reportFits]
  cases hrun : c.retryTmr.isRunning with
  | true =>
      rw [if_pos rfl, aside_report_iff hst]
      simp
  | false =>
      rw [if_neg Bool.false_ne_true, bare_report_iff hst]
      simp

/-- `ua_register` goes on with the outage, if there is one. -/
theorem posts_uaRegister (reporting : Bool) :
    (a.uaRegister reporting).posts = a.posts ++
      if reporting then
        (if a.reconnecting then
          a.report (.of .reconnecting a.regError .null)
            (if a.regErrorStr = [] then .null else .buf (strNcpy 4096 a.regErrorStr))
        else [.of .registering .ok .null])
      else [] := by
  cases reporting with
  | false => simp [uaRegister, AcctOut.event]
  | true =>
      cases hrec : a.reconnecting with
      | false => simp [uaRegister, beventRegistering, hrec, AcctOut.event]
      | true =>
          simp only [uaRegister, beventRegistering, emit, hrec, if_true, posts_postCopied,
            posts_setRegState]
          simp only [posts, List.filterMap_append]
          simp [AcctOut.event, report, reconnectReset, sameReport, stamp, setRegState]

/-- A handler that posts what registering an account `c` posts, whose timer is already as the step
leaves it. -/
theorem Unarmed.coherent_registers (h : Unarmed a b) (htmr : b.retryTmr = c.retryTmr)
    (hposts : c.posts = []) {reporting : Bool} (heq : b.posts = (c.uaRegister reporting).posts) :
    Coherent now last a b b.posts ↔
      (!(reporting && c.reconnecting) || c.reportFits c.regError) = true := by
  rw [heq, posts_uaRegister, hposts, List.nil_append]
  cases reporting with
  | false => simpa using h.coherent now last (by simp)
  | true =>
      cases hrec : c.reconnecting with
      | true =>
          rw [if_pos rfl, if_pos rfl, h.coherent_report now last htmr rfl]
          simp [RegEvent.of]
      | false =>
          rw [if_pos rfl, if_neg Bool.false_ne_true]
          have haside : ∀ ev ∈ [RegEvent.of .registering .ok .null], ev.Aside := by
            simp [RegEvent.Aside, RegEvent.of]
          simpa using h.coherent now last haside

/-! ### A step that arms a retry -/

/-- The events of `schedule_retry` for an account without a retry. -/
theorem posts_scheduleRetry (rand : Nat) :
    (a.scheduleRetry g now rand).posts = a.posts ++
      if a.retryTmr.isRunning then []
      else if !a.retryBudgetLeft g then
        (if a.regState ≠ .reconnecting then []
        else a.report (.of .failed a.regError a.errorPtr) a.errorPtr)
      else (a.counted g rand).report (.of .reconnecting a.regError a.errorPtr) a.errorPtr := by
  rw [scheduleRetry_eq]
  split_ifs
  · simp
  · simp [posts]
  · rw [gaveUp, posts_postPrepared, posts_setRegState]
    rfl
  · have hposts : ({ a.announced g rand with
        retryTmr := Timer.start now (a.retryDelay g rand) } : Account).posts =
        (a.announced g rand).posts := rfl
    rw [hposts, announced, posts_postPrepared, posts_setRegState]
    rfl

/-- A step that arms the retry `schedule_retry` has announced. -/
theorem coherent_armed {delay : Nat} (hidle : a.retryTmr.isRunning = false)
    (harmed : b.retryTmr = Timer.start now delay) :
    Coherent now last a b evs ↔ Announces delay last evs := by
  have hmoved : b.retryTmr ≠ a.retryTmr := by
    intro heq
    rw [← heq, harmed] at hidle
    cases hidle
  rw [Coherent, harmed, if_pos (Timer.isRunning_start now delay), if_neg (harmed ▸ hmoved)]
  constructor
  · rintro ⟨delay', hdelay, hannounces⟩
    have heq : delay = delay' := by
      have hdue := Option.some.inj hdelay
      omega
    exact heq ▸ hannounces
  · exact fun hannounces => ⟨delay, rfl, hannounces⟩

/-- The announcement of the next attempt, after which nothing more is reported. -/
theorem announces_report (rand : Nat) {reason : ErrStr} (hst : ev.state = .reconnecting)
    (hevs : ∀ ev ∈ evs, ev.Aside) :
    Announces (a.retryDelay g rand) last ((a.counted g rand).report ev reason ++ evs) ↔
      a.announceFits g last rand ev.error = true := by
  rw [announceFits, nextFits, report, if_neg (not_not.mpr hst)]
  cases hsame : (a.counted g rand).sameReport ev.error with
  | true =>
      rw [if_pos rfl]
      simpa using not_announces_of_aside hevs
  | false =>
      rw [if_neg Bool.false_ne_true]
      have hannounced : ({ (a.counted g rand).stamp ev with errorStr := reason } : RegEvent).state =
          .reconnecting := hst
      exact (announces_announced hannounced hevs).trans (by simp [stamp, counted])

theorem u32_succ_ne (n : Nat) : u32 (n + 1) ≠ n := by
  unfold u32
  omega

/-- After a report the next attempt is news: the signature that was compared or written has the number
before it. -/
theorem sameReport_counted (rand : Nat) (reason : ErrStr) (hst : ev.state = .reconnecting) :
    ((a.postCopied ev reason).counted g rand).sameReport ev.error = false := by
  have hattempt : ∀ b : Account, b.lastRc.attempt = b.retryAttempt →
      (b.counted g rand).sameReport ev.error = false := by
    intro b hb
    have hnews : b.lastRc.attempt ≠ u32 (b.retryAttempt + 1) := hb ▸ (u32_succ_ne _).symm
    simp [sameReport, counted, hnews]
  obtain ⟨hno, -⟩ | ⟨-, hsame, heq⟩ | ⟨-, -, heq⟩ := a.postCopied_cases ev reason
  · exact absurd hst hno
  · rw [heq]
    simp only [sameReport, Bool.and_eq_true, decide_eq_true_eq] at hsame
    exact hattempt _ hsame.1.2
  · rw [heq]
    exact hattempt _ rfl

/-- A report and the announcement after it, for one failure. The report has to be bare, and then the
number is still the one the app has read last. -/
theorem announces_reported {rand : Nat} {reason reason' : ErrStr} {ev' : RegEvent}
    (hidle : a.retryTmr.isRunning = false) (hst : ev.state = .reconnecting)
    (hst' : ev'.state = .reconnecting) (herr : ev'.error = ev.error) :
    Announces (a.retryDelay g rand) last
        (a.report ev reason ++ ((a.postCopied ev reason).counted g rand).report ev' reason') ↔
      (a.reportFits ev.error && a.nextFits last) = true := by
  have hnews := sameReport_counted g (a := a) rand reason hst
  have hdelay : (a.postCopied ev reason).retryDelay g rand = a.retryDelay g rand := by
    simp [retryDelay]
  have hfits : ∀ k, Announces (a.retryDelay g rand) k
      (((a.postCopied ev reason).counted g rand).report ev' reason') ↔ a.nextFits k = true := by
    intro k
    have hnext : Announces ((a.postCopied ev reason).retryDelay g rand) k
        (((a.postCopied ev reason).counted g rand).report ev' reason' ++ []) ↔ _ :=
      announces_report g k rand hst' (by simp)
    rw [List.append_nil, hdelay, announceFits, herr, hnews] at hnext
    rw [hnext]
    simp [nextFits]
  rw [report, if_neg (not_not.mpr hst), reportFits, hidle]
  cases hsame : a.sameReport ev.error with
  | true =>
      rw [if_pos rfl, List.nil_append, hfits]
      simp
  | false =>
      rw [if_neg Bool.false_ne_true, List.singleton_append, announces_cons]
      have hnot : ¬ ∀ e ∈ ((a.postCopied ev reason).counted g rand).report ev' reason', e.Aside := by
        rw [aside_report_iff hst', herr, hnews]
        exact Bool.false_ne_true
      have hcount : a.retryAttempt = 0 →
          ({ a.stamp ev with errorStr := reason } : RegEvent).counts last = last := by
        intro hzero
        simp [RegEvent.counts, stamp, hst, hzero]
      constructor
      · rintro (⟨-, -, -, haside⟩ | ⟨⟨hdelay, hbare⟩, hrest⟩)
        · exact absurd haside hnot
        · have hzero : a.retryAttempt = 0 := hbare hst
          have hdelay : a.retryDelayMs = 0 := hdelay
          rw [hcount hzero, hfits] at hrest
          simp [hzero, hdelay, hrest]
      · intro hall
        simp only [Bool.false_or, Bool.not_false, Bool.true_and, Bool.and_eq_true,
          decide_eq_true_eq] at hall
        obtain ⟨⟨hzero, hdelay⟩, hnext⟩ := hall
        refine .inr ⟨⟨hdelay, fun _ => hzero⟩, ?_⟩
        rwa [hcount hzero, hfits]

/-! ### The handlers -/

/-- What has just been reported, or found reported, would be withheld. -/
theorem sameReport_postCopied (reason : ErrStr) (hst : ev.state = .reconnecting) :
    (a.postCopied ev reason).sameReport ev.error = true := by
  obtain ⟨hno, -⟩ | ⟨-, hsame, heq⟩ | ⟨-, -, heq⟩ := a.postCopied_cases ev reason
  · exact absurd hst hno
  · rw [heq]
    exact hsame
  · rw [heq]
    simp [sameReport, remember]

/-- The reporter's own event, after `schedule_retry` has announced the attempt for the same reason. -/
theorem aside_of_announced {rand : Nat} {reason : ErrStr} (hidle : a.retryTmr.isRunning = false)
    (hbudget : a.retryBudgetLeft g = true) (herr : ev.error = a.regError) :
    ∀ ev' ∈ (a.scheduleRetry g now rand).report ev reason, ev'.Aside := by
  by_cases hst : ev.state = .reconnecting
  · rw [aside_report_iff hst, scheduleRetry_eq, if_neg (by simp [hidle]), if_neg (by simp [hbudget]),
      herr]
    have hsaid : (a.announced g rand).sameReport a.regError = true := by
      rw [announced, postPrepared_eq_postCopied]
      exact sameReport_postCopied _ rfl
    exact hsaid
  · exact aside_of_mem_report hst

theorem coherent_registerFail (reason : Option CStr) (rand : Nat) (halive : a.Alive)
    (hposts : a.posts = []) :
    Coherent now last a (a.beventRegisterFail g now reason rand)
        (a.beventRegisterFail g now reason rand).posts ↔
      a.countdownFits g last (.registerFail reason rand) = true := by
  obtain ⟨text, heq⟩ : ∃ text, a.beventRegisterFail g now reason rand =
      (if registerFailError reason ≠ .auth then (a.refused g reason).scheduleRetry g now rand
        else a.refused g reason).postCopied
          (.of (a.regFailState g (registerFailError reason)).1 (registerFailError reason) .null)
          text := ⟨_, rfl⟩
  rw [heq, posts_postCopied, countdownFits]
  have hrefused : (a.refused g reason).posts = [] := by
    have hjudged : (a.judged g (registerFailError reason)).posts = a.posts := posts_setRegState _
    exact hjudged.trans hposts
  have htmr : ∀ b : Account, (b.postCopied (.of
      (a.regFailState g (registerFailError reason)).1 (registerFailError reason) .null)
        text).retryTmr = b.retryTmr := fun b => b.postCopied_retryTmr _ _
  by_cases hauth : registerFailError reason = .auth
  · have hfailed : (a.regFailState g (registerFailError reason)).1 = .failed := by
      simp [regFailState, willRetry, hauth]
    rw [if_neg (not_not.mpr hauth), hrefused, List.nil_append, decide_eq_true hauth, Bool.true_or]
    refine iff_of_true (Unarmed.coherent now last (.inl (htmr _)) (aside_of_mem_report ?_)) rfl
    simp [RegEvent.of, hfailed]
  · rw [if_pos hauth, decide_eq_false hauth, Bool.false_or]
    cases hrun : a.retryTmr.isRunning with
    | true =>
        rw [scheduleRetry_of_running g now (a.refused g reason) rand hrun, hrefused, List.nil_append,
          if_pos rfl]
        cases hwanted : a.regWanted with
        | false =>
            refine iff_of_true (Unarmed.coherent now last (.inl (htmr _)) (aside_of_mem_report ?_)) rfl
            simp [RegEvent.of, regFailState, willRetry, hwanted]
        | true =>
            have hst : (RegEvent.of (a.regFailState g (registerFailError reason)).1
                (registerFailError reason) .null).state = .reconnecting := by
              simp [RegEvent.of, regFailState_state g halive hwanted hauth, verdict, hrun]
            have hkept := htmr (a.refused g reason)
            rw [Unarmed.coherent_report now last (a := a) (.inl hkept) hkept hst, reportFits]
            have hrun' : (a.refused g reason).retryTmr.isRunning = true := hrun
            simp only [hrun', Bool.not_true, Bool.false_and, Bool.or_false, Bool.false_or]
            rfl
    | false =>
        rw [if_neg Bool.false_ne_true, posts_scheduleRetry, hrefused, List.nil_append]
        have hidle : (a.refused g reason).retryTmr.isRunning = false := hrun
        have htimer := scheduleRetry_retryTmr g now (a := a.refused g reason) rand
        cases hbudget : a.retryBudgetLeft g with
        | false =>
            have hspent : (a.refused g reason).retryBudgetLeft g = false := hbudget
            have hfailed : (a.regFailState g (registerFailError reason)).1 = .failed := by
              simp [regFailState, willRetry, hrun, hbudget]
            have hstate : (a.refused g reason).regState ≠ .reconnecting := by
              have h : (a.refused g reason).regState =
                (a.regFailState g (registerFailError reason)).1 := rfl
              simp [h, hfailed]
            rw [hidle, hspent, if_neg Bool.false_ne_true, if_neg Bool.false_ne_true] at htimer
            rw [if_neg (by simp [hidle]), if_pos (by simp [hspent]), if_pos hstate, List.nil_append]
            refine iff_of_true (Unarmed.coherent now last (.inl ((htmr _).trans htimer))
              (aside_of_mem_report ?_)) rfl
            simp [RegEvent.of, hfailed]
        | true =>
            have hleft : (a.refused g reason).retryBudgetLeft g = true := hbudget
            rw [hidle, hleft, if_neg Bool.false_ne_true, if_pos rfl] at htimer
            rw [if_neg (by simp [hidle]), if_neg (by simp [hleft]),
              coherent_armed now last hrun ((htmr _).trans htimer),
              announces_report g last (a := a.refused g reason) rand rfl
                (aside_of_announced g now hidle hleft rfl)]
            simp only [Bool.not_true, Bool.false_or]
            rfl

/-- A failure that is reported before its retry is scheduled, by the watchdog or for a lost probe. -/
theorem coherent_reported {st : RegState} (rand : Nat) (hposts : c.posts = [])
    (htmr : c.retryTmr = a.retryTmr) (herr : c.regError = err) (hstate : c.regState = st)
    (hst : st = c.verdict g) (text : ErrStr)
    (hb : (c.postPrepared (.of st err text)).scheduleRetry g now rand = b) :
    Coherent now last a b b.posts ↔
      (if c.retryTmr.isRunning then c.reportFits err
      else !c.retryBudgetLeft g || (c.reportFits err && c.nextFits last)) = true := by
  have hkept : (c.postPrepared (.of st err text)).retryTmr = c.retryTmr := postPrepared_retryTmr _ _
  have hbudget : (c.postPrepared (.of st err text)).retryBudgetLeft g = c.retryBudgetLeft g :=
    retryBudgetLeft_of_eq g rfl (postPrepared_retryPolicy _ _) (postPrepared_retryAttempt _ _)
  have htimer := scheduleRetry_retryTmr g now (a := c.postPrepared (.of st err text)) rand
  have hevents := posts_scheduleRetry g now (a := c.postPrepared (.of st err text)) rand
  rw [hb, hkept, hbudget] at htimer hevents
  rw [posts_postPrepared, hposts, List.nil_append] at hevents
  rw [verdict] at hst
  cases hrun : c.retryTmr.isRunning with
  | true =>
      rw [hrun, Bool.true_or, if_pos rfl] at hst
      subst hst
      rw [hrun, if_pos rfl] at htimer hevents
      rw [hevents, List.append_nil, if_pos rfl]
      exact Unarmed.coherent_report now last (.inl (htimer.trans htmr)) htimer rfl
  | false =>
      rw [hrun, Bool.false_or] at hst
      rw [hrun, if_neg Bool.false_ne_true] at htimer hevents
      rw [if_neg Bool.false_ne_true]
      cases hleft : c.retryBudgetLeft g with
      | false =>
          rw [hleft, if_neg Bool.false_ne_true] at hst htimer
          subst hst
          rw [hleft, if_pos (by simp), if_pos (by simp [hstate]), List.append_nil] at hevents
          rw [hevents]
          exact iff_of_true (Unarmed.coherent now last (.inl (htimer.trans htmr))
            (aside_of_mem_report (by simp [RegEvent.of]))) rfl
      | true =>
          rw [hleft, if_pos rfl] at hst htimer
          subst hst
          have hdelay : (c.postPrepared (.of .reconnecting err text)).retryDelay g rand =
              c.retryDelay g rand := by
            simp [retryDelay]
          rw [hleft, if_neg (by simp)] at hevents
          rw [hdelay] at htimer
          rw [coherent_armed now last (htmr ▸ hrun) htimer, hevents, postPrepared_eq_postCopied,
            announces_reported g last hrun rfl rfl (by simpa [RegEvent.of] using herr)]
          simp [RegEvent.of]

/-- The same from where both of them start: the reason is stored, the state not yet decided. -/
theorem coherent_timeout (s : CStr) (rand : Nat) (halive : c.Alive) (hwanted : c.regWanted = true)
    (hposts : c.posts = []) (htmr : c.retryTmr = a.retryTmr) (herr : c.regError = .timeout)
    (hb : ({ c.judged g .timeout with regErrorStr := s }.postPrepared
      (.of (c.regFailState g .timeout).1 .timeout .acct)).scheduleRetry g now rand = b) :
    Coherent now last a b b.posts ↔
      (if c.retryTmr.isRunning then c.reportFits .timeout
      else !c.retryBudgetLeft g || (c.reportFits .timeout && c.nextFits last)) = true := by
  have hjudged : ({ c.judged g .timeout with regErrorStr := s } : Account).posts = [] :=
    (posts_setRegState _).trans hposts
  exact coherent_reported g now last (c := { c.judged g .timeout with regErrorStr := s }) rand hjudged
    htmr herr rfl (regFailState_state g halive hwanted (by simp)) .acct hb

@[simp]
theorem posts_srvResolve (dnsErr : Bool) : (a.srvResolve g dnsErr).posts = a.posts := by
  unfold srvResolve
  split_ifs <;> simp [posts, AcctOut.event]

@[simp]
theorem posts_srvAdvance : a.srvAdvance.posts = a.posts := by
  unfold srvAdvance
  split_ifs <;> simp [posts, AcctOut.event]

theorem reportFits_srvAdvance : a.srvAdvance.reportFits a.srvAdvance.regError = a.reportFits a.regError := by
  unfold srvAdvance
  split_ifs <;> rfl

@[simp]
theorem posts_watchRegistration : (a.watchRegistration now).posts = a.posts := by
  unfold watchRegistration
  split_ifs <;> rfl

@[simp]
theorem posts_storePushToken (token : Option CStr) (dupOk : Bool) :
    (a.storePushToken token dupOk).posts = a.posts := rfl

theorem posts_keepaliveHandler (inCall sendErr : Bool) :
    (a.keepaliveHandler g now inCall sendErr).posts = a.posts := by
  unfold keepaliveHandler
  split_ifs <;> simp [posts, AcctOut.event]

/-- Registered again, or unregistered: the events are aside of any retry. -/
theorem coherent_posted {st : RegState} (hposts : c.posts = []) (hst : st ≠ .reconnecting)
    (h : Unarmed a b) : Coherent now last a b (c.postPrepared (.of st .ok .null)).posts := by
  rw [posts_postPrepared, hposts, List.nil_append]
  exact h.coherent now last (aside_of_mem_report hst)

theorem coherent_watchFires (registered : Bool) (rand : Nat) (halive : a.Alive) (hposts : a.posts = []) :
    Coherent now last a (a.handle g now (.watchFires registered rand))
        (a.handle g now (.watchFires registered rand)).posts ↔
      a.countdownFits g last (.watchFires registered rand) = true := by
  rw [handle, regWatchHandler_eq g now (a := { a with regWatchTmr := none }) registered rand halive,
    watched_regWatchTmr, runsOut_regWatchTmr, countdownFits, failsNow]
  cases hwatched : a.watched with
  | false =>
      rw [if_pos (by simp)]
      refine iff_of_true (Unarmed.coherent now last (.inl rfl) ?_) (by simp)
      have hnone : ({ a with regWatchTmr := none } : Account).posts = [] := hposts
      simp [hnone]
  | true =>
      rw [if_neg (by simp)]
      cases registered with
      | true =>
          rw [if_pos rfl]
          refine iff_of_true (coherent_posted now last
            (c := ({ (({ a with regWatchTmr := none } : Account).emit .registrarWarning).setRegState
              .registered with retryAttempt := 0, reconnecting := false }).keepaliveArm g now) ?_
            (by simp) (.inl ?_)) (by simp)
          · rw [posts_keepaliveArm]
            refine (posts_setRegState _).trans ?_
            rw [posts_emit]
            rw [show ({ a with regWatchTmr := none } : Account).posts = [] from hposts]
            rfl
          · simp [foundRegistered]
      | false =>
          rw [if_neg Bool.false_ne_true]
          cases hout : a.runsOut g with
          | false =>
              rw [if_neg Bool.false_ne_true]
              refine iff_of_true (Unarmed.coherent now last (.inl rfl) ?_) (by simp)
              have hnone : ({ a with
                  regWatchTmr := Timer.start now regWatchIntervalMs
                  regWatchElapsedMs := u32 (a.regWatchElapsedMs + regWatchIntervalMs) } :
                    Account).posts = [] := hposts
              simp [hnone]
          | true =>
              rw [if_pos rfl]
              simp only [watched, Bool.and_eq_true, Bool.not_eq_true'] at hwatched
              obtain ⟨⟨⟨hwanted, -⟩, -⟩, hidle⟩ := hwatched
              have hiff := coherent_timeout g now last (a := a) (c := { a with
                regWatchTmr := none
                regWatchElapsedMs := u32 (a.regWatchElapsedMs + regWatchIntervalMs)
                regError := .timeout }) (strNcpy 256 "registration timed out".toList) rand halive hwanted
                hposts rfl rfl rfl
              refine hiff.trans ?_
              change (if a.retryTmr.isRunning then _
                else !a.retryBudgetLeft g || (a.reportFits .timeout && a.nextFits last)) = true ↔ _
              rw [hidle, if_neg Bool.false_ne_true]
              simp

/-- The lost probe that is not registered for reports the account as it was, but for the error. -/
theorem posts_probeMissed (a : Account) :
    ∃ c : Account, c.reportFits .timeout = a.reportFits .timeout ∧ c.retryTmr = a.retryTmr ∧
      a.probeMissed.posts =
        a.posts ++ c.report (.of (if a.regWanted then .reconnecting else .failed) .timeout .acct) .acct := by
  refine ⟨{ Account.setRegState (if a.regWanted then .reconnecting else .failed)
      { a.emit .registrarWarning with
        kaInFlight := false
        kaFailed := true
        regError := .timeout
        reconnecting := a.regWanted } with
      regErrorStr := strNcpy 256 "keepalive probe timed out".toList }, rfl, rfl, ?_⟩
  rw [probeMissed, posts_postPrepared]
  have hemit : (a.emit .registrarWarning).posts = a.posts := (posts_emit _).trans (List.append_nil _)
  exact congrArg (· ++ _) ((posts_setRegState _).trans hemit)

theorem coherent_optionsAnswered (answered registered : Bool) (rand : Nat) (halive : a.Alive)
    (hposts : a.posts = []) :
    Coherent now last a (a.handle g now (.optionsAnswered answered registered rand))
        (a.handle g now (.optionsAnswered answered registered rand)).posts ↔
      a.countdownFits g last (.optionsAnswered answered registered rand) = true := by
  rw [handle, countdownFits]
  cases answered with
  | true =>
      rw [keepaliveRespHandler_heard g now registered rand halive]
      refine iff_of_true ?_ rfl
      split_ifs
      · rw [posts_keepaliveArm]
        have hquiet : (Account.setRegState .registered
            { a with kaInFlight := false, kaFailed := false }).posts = [] := by
          rw [posts_setRegState]
          exact hposts
        refine coherent_posted now last
          (c := { Account.setRegState .registered { a with kaInFlight := false, kaFailed := false } with
            regError := .ok
            retryAttempt := 0
            reconnecting := false
            regErrorStr := [] }) hquiet (by simp) (.inl ?_)
        simp [heardAgain]
      · refine Unarmed.coherent now last (.inl (by simp)) ?_
        have hnone : ({ a with kaInFlight := false, kaFailed := false } : Account).posts = [] := hposts
        simp [hnone]
  | false =>
      rw [Bool.false_or]
      have hemit : ∀ b : Account, b.out = a.out ++ [.registrarWarning] → b.posts = [] := by
        intro b hb
        rw [posts, hb, List.filterMap_append, show a.out.filterMap AcctOut.event = [] from hposts]
        rfl
      cases hre : (g.keepaliveReregister && a.regWanted) with
      | true =>
          obtain ⟨hreregister, hwanted⟩ := Bool.and_eq_true_iff.mp hre
          have hiff := coherent_timeout g now last (a := a) (c := { a.emit .registrarWarning with
            kaInFlight := false
            kaFailed := true
            regError := .timeout }) (strNcpy 256 "keepalive probe timed out".toList) rand halive hwanted
            (hemit _ rfl) rfl rfl rfl
          rw [keepaliveRespHandler_lost g now registered rand halive hre]
          refine hiff.trans ?_
          change (if a.retryTmr.isRunning then a.reportFits .timeout
            else !a.retryBudgetLeft g || (a.reportFits .timeout && a.nextFits last)) = true ↔ _
          rw [hwanted, hreregister]
          cases a.retryTmr.isRunning <;> simp
      | false =>
          have hkept : (a.probeMissed.keepaliveArm g now).retryTmr = a.retryTmr := by
            simp [probeMissed]
          obtain ⟨c, hfits, htmr, hreport⟩ := a.posts_probeMissed
          rw [keepaliveRespHandler_missed g now registered rand halive hre, posts_keepaliveArm, hreport,
            hposts, List.nil_append]
          cases hwanted : a.regWanted with
          | false =>
              exact iff_of_true (Unarmed.coherent now last (.inl hkept)
                (aside_of_mem_report (by simp [RegEvent.of]))) rfl
          | true =>
              have hreregister : g.keepaliveReregister = false := by simpa [hwanted] using hre
              rw [if_pos rfl, Unarmed.coherent_report now last (.inl hkept) (hkept.trans htmr.symm) rfl]
              simp [RegEvent.of, hfits, hreregister]

theorem coherent_register (dnsErr reporting : Bool) (halive : a.Alive) (hposts : a.posts = []) :
    Coherent now last a (a.registerFn g now dnsErr reporting)
      (a.registerFn g now dnsErr reporting).posts := by
  obtain ⟨hua, hdes⟩ := halive
  have htmr : (a.registerFn g now dnsErr reporting).retryTmr = a.retryTmr := by
    simp [registerFn, hua, hdes]
  have hnone : (({ a with regWanted := true, reconnecting := false } : Account).srvResolve g
      dnsErr).posts = [] := (posts_srvResolve g dnsErr).trans hposts
  have heq : (a.registerFn g now dnsErr reporting).posts = ((({ a with
      regWanted := true, reconnecting := false } : Account).srvResolve g dnsErr).uaRegister
        reporting).posts := by
    simp only [registerFn, hua, if_true, posts_watchRegistration]
  rw [Unarmed.coherent_registers now last (.inl htmr) (htmr.trans (by simp)) hnone heq]
  simp

theorem coherent_retryNow (reporting : Bool) (halive : a.Alive) (hposts : a.posts = []) :
    Coherent now last a (a.retryNowFn now reporting) (a.retryNowFn now reporting).posts ↔
      a.countdownFits g last (.retryNow reporting) = true := by
  obtain ⟨hua, hdes⟩ := halive
  have htmr : (a.retryNowFn now reporting).retryTmr = none := by simp [retryNowFn, hua, hdes]
  have heq : (a.retryNowFn now reporting).posts = (({ a with
      retryTmr := none, retryAttempt := 0, regWanted := true } : Account).uaRegister
        reporting).posts := by
    rw [retryNowFn, if_pos (by simp [hua, hdes]), posts_watchRegistration]
  exact Unarmed.coherent_registers now last (.inr htmr)
    (c := { a with retryTmr := none, retryAttempt := 0, regWanted := true }) htmr hposts heq

theorem coherent_retryFires (reporting : Bool) (halive : a.Alive) (hposts : a.posts = []) :
    Coherent now last a (a.handle g now (.retryFires reporting))
        (a.handle g now (.retryFires reporting)).posts ↔
      a.countdownFits g last (.retryFires reporting) = true := by
  obtain ⟨hua, hdes⟩ := halive
  have htmr : (a.handle g now (.retryFires reporting)).retryTmr = none := by
    simp [handle, retryTimerHandler, hua, hdes]
  have heq : (a.handle g now (.retryFires reporting)).posts =
      (({ a with retryTmr := none } : Account).srvAdvance.uaRegister reporting).posts := by
    rw [handle, retryTimerHandler, if_neg (by simp [hua, hdes]), posts_watchRegistration]
  rw [Unarmed.coherent_registers now last (.inr htmr) (c := ({ a with
    retryTmr := none } : Account).srvAdvance) (by simp [htmr]) (posts_srvAdvance.trans hposts) heq,
    reportFits_srvAdvance, countdownFits]
  simp

theorem coherent_reregister (reporting : Bool) (halive : a.Alive) (hposts : a.posts = []) :
    Coherent now last a (a.reregister now reporting) (a.reregister now reporting).posts ↔
      a.countdownFits g last (.handoverReregister reporting) = true := by
  obtain ⟨hua, hdes⟩ := halive
  cases hauth : a.authFailed with
  | true =>
      have hsame : a.reregister now reporting = a := if_pos hauth
      rw [hsame, hposts, countdownFits, hauth]
      exact iff_of_true (Unarmed.coherent now last (.inl rfl) (by simp)) rfl
  | false =>
      have hdoes : a.reregister now reporting = (({ a with
          retryTmr := none, retryAttempt := 0, reconnecting := true } : Account).uaRegister
            reporting).watchRegistration now := if_neg (by simp [hauth])
      have htmr : (a.reregister now reporting).retryTmr = none := by
        rw [hdoes]
        simp [hua, hdes]
      have heq : (a.reregister now reporting).posts = (({ a with
          retryTmr := none, retryAttempt := 0, reconnecting := true } : Account).uaRegister
            reporting).posts := by
        rw [hdoes, posts_watchRegistration]
      rw [Unarmed.coherent_registers now last (.inr htmr)
        (c := { a with retryTmr := none, retryAttempt := 0, reconnecting := true }) htmr hposts heq,
        countdownFits, hauth, Bool.and_true, Bool.false_or]
      rfl

theorem coherent_setPushToken (token : Option CStr) (dupOk reporting : Bool) (halive : a.Alive)
    (hposts : a.posts = []) :
    Coherent now last a (a.setPushTokenFn token dupOk reporting)
        (a.setPushTokenFn token dupOk reporting).posts ↔
      a.countdownFits g last (.setPushToken token dupOk reporting) = true := by
  obtain ⟨result, hdoes⟩ := setPushTokenFn_eq token dupOk reporting halive
  rw [hdoes, countdownFits]
  cases hre : a.reRegisters token dupOk with
  | false =>
      refine iff_of_true (Unarmed.coherent now last (.inl (by simp)) ?_) rfl
      simp [hposts, AcctOut.event]
  | true =>
      rw [if_pos rfl]
      have htmr : (((a.storePushToken token dupOk).uaRegister reporting).emit
          (.result result)).retryTmr = a.retryTmr := by simp
      have heq : (((a.storePushToken token dupOk).uaRegister reporting).emit
          (.result result)).posts = ((a.storePushToken token dupOk).uaRegister reporting).posts :=
        (posts_emit _).trans (List.append_nil _)
      exact Unarmed.coherent_registers now last (.inl htmr) (c := a.storePushToken token dupOk) htmr
        hposts heq

theorem coherent_unregister (reporting : Bool) (halive : a.Alive) (hout : a.out = []) :
    Coherent now last a (a.unregisterFn reporting) (a.unregisterFn reporting).posts := by
  have htmr : (a.unregisterFn reporting).retryTmr = a.retryTmr :=
    (unregisterFn_spec reporting halive rfl).2.2.2.2.2.1
  cases reporting with
  | false =>
      have hnone : (a.unregisterFn false).posts = [] := by
        simp [unregisterFn, halive.1, uaUnregister, posts, hout, AcctOut.event]
      exact Unarmed.coherent now last (.inl htmr) (by simp [hnone])
  | true =>
      obtain ⟨c, hnone, heq⟩ : ∃ c : Account, c.posts = [] ∧
          (a.unregisterFn true).posts = (c.postPrepared (.of .unregistering .ok .null)).posts := by
        refine ⟨_, ?_, by rw [unregisterFn, if_pos halive.1]; rfl⟩
        refine (posts_setRegState _).trans ?_
        simp [posts, hout, AcctOut.event]
      rw [heq]
      exact coherent_posted now last hnone (by simp) (.inl htmr)

theorem coherent_handoverMark (halive : a.Alive) (hwanted : a.regWanted = true) (hposts : a.posts = []) :
    Coherent now last a a.regReconnecting a.regReconnecting.posts ↔
      a.countdownFits g last .handoverMark = true := by
  have hkept : a.regReconnecting.retryTmr = a.retryTmr := (regReconnecting_spec halive rfl).2.2.2.1
  rw [countdownFits]
  by_cases hst : a.regState ≠ .registered ∧ a.regState ≠ .registering
  · have hsame : a.regReconnecting = a := by
      rw [regReconnecting, if_neg (by simp [halive.2, hwanted]), if_pos hst]
    rw [hsame, hposts, decide_eq_true hst.1, decide_eq_true hst.2]
    exact iff_of_true (Unarmed.coherent now last (.inl rfl) (by simp)) rfl
  · have hnot : (decide (a.regState ≠ .registered) && decide (a.regState ≠ .registering)) = false := by
      simpa [not_and_or] using hst
    obtain ⟨c, hnone, hfits, htmr, heq⟩ : ∃ c : Account, c.posts = [] ∧
        c.reportFits .ok = a.reportFits .ok ∧ c.retryTmr = a.retryTmr ∧
        a.regReconnecting = c.postPrepared (.of .reconnecting .ok .null) := by
      refine ⟨_, ?_, ?_, ?_, by
        rw [regReconnecting, if_neg (by simp [halive.2, hwanted]), if_neg hst]⟩
      · exact (posts_setRegState _).trans hposts
      · rfl
      · rfl
    have hposted : a.regReconnecting.posts = c.report (.of .reconnecting .ok .null) .null := by
      rw [heq, posts_postPrepared, hnone, List.nil_append]
      rfl
    rw [hposted, hnot, Bool.false_or, ← hfits]
    exact Unarmed.coherent_report now last (.inl hkept) (hkept.trans htmr.symm) rfl

/-- What `schedule_retry` posts for an account that reconnects. -/
theorem coherent_handoverToRetry (rand : Nat) (hposts : a.posts = []) :
    Coherent now last a (a.handoverToRetry g now rand) (a.handoverToRetry g now rand).posts ↔
      a.countdownFits g last (.handoverToRetry rand) = true := by
  rw [handoverToRetry, countdownFits]
  by_cases hst : a.regState = .reconnecting
  · rw [if_pos hst, decide_eq_false (not_not.mpr hst), Bool.false_or, posts_scheduleRetry,
      hposts, List.nil_append]
    have htimer := scheduleRetry_retryTmr g now (a := a) rand
    cases hrun : a.retryTmr.isRunning with
    | true =>
        rw [hrun, if_pos rfl] at htimer
        exact iff_of_true (Unarmed.coherent now last (.inl htimer) (by simp)) rfl
    | false =>
        cases hbudget : a.retryBudgetLeft g with
        | false =>
            rw [hrun, hbudget, if_neg Bool.false_ne_true, if_neg Bool.false_ne_true] at htimer
            refine iff_of_true (Unarmed.coherent now last (.inl htimer) ?_) rfl
            rw [if_neg Bool.false_ne_true, if_pos (by simp), if_neg (by simp [hst])]
            exact aside_of_mem_report (by simp [RegEvent.of])
        | true =>
            rw [hrun, hbudget, if_neg Bool.false_ne_true, if_pos rfl] at htimer
            rw [coherent_armed now last hrun htimer, if_neg Bool.false_ne_true, if_neg (by simp)]
            have hnext : Announces (a.retryDelay g rand) last ((a.counted g rand).report
                (.of .reconnecting a.regError a.errorPtr) a.errorPtr ++ []) ↔ _ :=
              announces_report g last rand rfl (by simp)
            rw [List.append_nil] at hnext
            exact hnext.trans (by simp [RegEvent.of])
  · rw [if_neg hst, hposts, decide_eq_true hst]
    exact iff_of_true (Unarmed.coherent now last (.inl rfl) (by simp)) rfl

/-- **One handler.** Its events carry what they should if, and only if, it checks what it should. -/
theorem coherent_handle_iff (act : AcctAct) (halive : a.Alive) (hen : a.enabled now act = true)
    (hout : a.out = []) :
    Coherent now last a (a.handle g now act) (a.handle g now act).posts ↔
      a.countdownFits g last act = true := by
  have hposts : a.posts = [] := by simp [posts, hout]
  cases act with
  | register dnsErr reporting =>
      exact iff_of_true (coherent_register g now last dnsErr reporting halive hposts) rfl
  | retryNow reporting => exact coherent_retryNow g now last reporting halive hposts
  | retryFires reporting => exact coherent_retryFires g now last reporting halive hposts
  | handoverReregister reporting => exact coherent_reregister g now last reporting halive hposts
  | setPushToken token dupOk reporting =>
      exact coherent_setPushToken g now last token dupOk reporting halive hposts
  | unregister reporting =>
      exact iff_of_true (coherent_unregister now last reporting halive hout) rfl
  | cancelRetry =>
      have htmr : a.cancelRetryFn.retryTmr = none := (cancelRetryFn_spec halive rfl).2.2.2.2.2.1
      refine iff_of_true (Unarmed.coherent now last (.inr htmr) ?_) rfl
      by_cases hst : a.regState = .reconnecting <;>
        simp [handle, cancelRetryFn, hst, posts, hout, AcctOut.event, RegEvent.Aside, RegEvent.of]
  | setRetryPolicy initialMs maxMs backoff maxAttempts =>
      refine iff_of_true (Unarmed.coherent now last (.inl rfl) ?_) rfl
      simp [handle, setRetryPolicyFn, posts, hout]
  | keepaliveNow inCall sendErr =>
      have hkept := (retry_keepaliveHandler g now inCall sendErr (a := { a with kaTmr := none })).2
      refine iff_of_true (Unarmed.coherent now last (.inl hkept) ?_) rfl
      have hnone : ({ a with kaTmr := none } : Account).posts = [] := hposts
      simp [handle, keepaliveNowFn, posts_keepaliveHandler, hnone]
  | keepaliveFires inCall sendErr =>
      have hkept := (retry_keepaliveHandler g now inCall sendErr (a := { a with kaTmr := none })).2
      refine iff_of_true (Unarmed.coherent now last (.inl hkept) ?_) rfl
      have hnone : ({ a with kaTmr := none } : Account).posts = [] := hposts
      simp [handle, posts_keepaliveHandler, hnone]
  | registerOk =>
      have hkept := (beventRegisterOk_spec g now halive rfl).2.2.2.2.2.1
      refine iff_of_true (coherent_posted now last ?_ (by simp) (.inl hkept)) rfl
      rw [posts_keepaliveArm]
      exact (posts_setRegState _).trans hposts
  | registerFail reason rand => exact coherent_registerFail g now last reason rand halive hposts
  | srvDone targets =>
      obtain ⟨srv, heq⟩ := srvDoneHandler_spec (a := a) targets rfl
      rw [handle, heq]
      refine iff_of_true (Unarmed.coherent now last (.inl rfl) ?_) rfl
      simp [posts, hout]
  | watchFires registered rand => exact coherent_watchFires g now last registered rand halive hposts
  | optionsAnswered answered registered rand =>
      exact coherent_optionsAnswered g now last answered registered rand halive hposts
  | handoverMark => exact coherent_handoverMark g now last halive (alive_of_inSnapshot hen).2 hposts
  | handoverToRetry rand => exact coherent_handoverToRetry g now last rand hposts
  | elapse ms =>
      refine iff_of_true (Unarmed.coherent now last (.inl rfl) ?_) rfl
      simp [handle, hposts]

theorem countdownFits_idle (act : AcctAct) :
    a.idle.countdownFits g last act = a.countdownFits g last act := by
  cases act <;> rfl

end Account

/-- One account, and the last number its app has read in the outage under way. -/
def countedAccount (g : Cfg) : Machine (OneAccount × Nat) AcctAct AcctOut :=
  (oneAccount g).withHistory 0 fun _ _ os last =>
    (os.filterMap AcctOut.event).foldl (fun last ev => ev.counts last) last

/-- What a step posts counts down what is armed. -/
def CountsDown (g : Cfg) (p : OneAccount × Nat) (act : AcctAct) : Prop :=
  ∀ p' os, (countedAccount g).step p act = some (p', os) →
    Coherent p.1.now p.2 p.1.acct p'.1.acct (os.filterMap AcctOut.event)

variable {g : Cfg} {p p' : OneAccount × Nat} {t : Trace AcctAct AcctOut}

theorem countsDown_iff {act : AcctAct} {os : List AcctOut} (halive : p.1.acct.Alive)
    (hstep : (countedAccount g).step p act = some (p', os)) :
    CountsDown g p act ↔ p.1.acct.countdownFits g p.2 act = true := by
  obtain ⟨hacct, -⟩ := Machine.withHistory_step.mp hstep
  obtain ⟨hen, hafter, -, hos⟩ := oneAccount_step hacct
  have hen' : p.1.acct.idle.enabled p.1.now act = true := by
    rw [← hen]
    cases act <;> rfl
  have hiff := Account.coherent_handle_iff g p.1.now p.2 (a := p.1.acct.idle) act halive hen' rfl
  rw [Account.countdownFits_idle, ← hafter] at hiff
  rw [← hiff]
  constructor
  · intro hcounts
    have hcoherent := hcounts p' os hstep
    rwa [hos] at hcoherent
  · intro hcoherent r os' hstep'
    obtain ⟨rfl, rfl⟩ := Prod.mk.inj (Option.some.inj (hstep.symm.trans hstep'))
    rwa [hos]

theorem countedAccount_alive {C : OneAccount × Nat → AcctAct → Prop}
    (hrun : (countedAccount g).Run C p t) : p.1.acct.Alive := by
  refine hrun.stateInvariant (I := fun p => p.1.acct.Alive) ?_ fun p act p' os halive _ hstep => ?_
  · rintro p ⟨⟨id, cfg, pushToken, h⟩, -⟩
    exact h ▸ Account.alive_create id cfg pushToken
  · obtain ⟨-, hafter, -⟩ := oneAccount_step (Machine.withHistory_step.mp hstep).1
    rw [hafter]
    exact (Account.handle_alive g p.1.now (a := p.1.acct.idle) act halive).1

/-- **A coherent countdown.** The runs in which every event posted carries the number and the delay of the
retry its step arms, and none of either when it does not belong to one, are exactly the runs whose steps
meet the condition. -/
theorem coherent_countdown (g : Cfg) (p : OneAccount × Nat) (t : Trace AcctAct AcctOut) :
    (countedAccount g).Run (CountsDown g) p t ↔
      (countedAccount g).Run (fun p act => p.1.acct.countdownFits g p.2 act = true) p t := by
  constructor
  · intro hrun
    induction hrun with
    | start hinit => exact .start hinit
    | step hprev hcounts hstep ih =>
        exact ih.step ((countsDown_iff (countedAccount_alive hprev) hstep).mp hcounts) hstep
  · intro hrun
    induction hrun with
    | start hinit => exact .start hinit
    | step hprev hfits hstep ih =>
        exact ih.step ((countsDown_iff (countedAccount_alive hprev) hstep).mpr hfits) hstep

/-- Not every run counts down: `retry_now` stops the retry and reports its delay all the same. -/
theorem countdown_incoherent :
    ¬ ∀ (g : Cfg) (p : OneAccount × Nat) (t : Trace AcctAct AcctOut) (act : AcctAct),
      (countedAccount g).Run Machine.Always p t → CountsDown g p act := by
  intro h
  obtain ⟨p, t, hrun, hend⟩ := Machine.exists_run_of_exec (M := countedAccount configInit)
    (s := (justCreated, 0)) (fun _ _ => true) ⟨justCreated_init configInit, rfl⟩
    [.register false true, .registerFail (some "503 Service Unavailable".toList) 0]
    (fun p _ => !p.1.acct.countdownFits configInit p.2 (.retryNow true)) (by decide +kernel)
  have hcounts := h configInit p t (.retryNow true) hrun.always
  have hstep := oneAccount_step_of_enabled (g := configInit) (s := p.1) (.retryNow true) rfl
  have hcounted : (countedAccount configInit).step p (.retryNow true) = some ((_, _), _) :=
    Machine.withHistory_step.mpr ⟨hstep, rfl⟩
  rw [countsDown_iff (countedAccount_alive hrun) hcounted] at hcounts
  rw [hcounts] at hend
  cases hend

end VoxSdk
