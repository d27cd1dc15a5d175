import Mathlib.Data.List.Basic
import VoxSdk.Jobs

/-!
# No job outlives its account

A job holds the bare address of its account. What keeps it from running on freed memory is the order of the queue: the
job that frees an account, or that `voxsdk_shutdown` waits for before it does, is the last one about it. That takes a
loop that runs the jobs of one account in the order in which they were posted, and takes the one `voxsdk_shutdown` waits
for where others are queued; and an application that leaves an account alone once it has asked for its end, and waits
for that end before it shuts down.
-/

namespace VoxSdk

open Reactive Machine

/-- The jobs after which nothing about an account may come. -/
def Job.parts (job : Job) : Prop := job.kind = .destroyFn ∨ job.kind = .hangupUaFn

namespace Jobs

/-- What the application and libre keep to. The application calls no function of an account that it is having
destroyed, none at all once it shuts down, and does not shut down while an account is being destroyed; libre runs the
jobs of one account in order, and refuses the job of `voxsdk_shutdown` only for an account of which none is queued. -/
def inOrder (s : Jobs) : JobAct → Bool
  | .init => true
  | .create => decide (s.down = .up)
  | .call _ acct _ =>
      decide (s.down = .up) && decide (acct ∈ s.live) && !decide ({ kind := .destroyFn, acct : Job } ∈ s.pending)
  | .run i => s.pending[i]?.all fun job => (s.pending.take i).all fun earlier => decide (earlier.acct ≠ job.acct)
  | .shutdown => s.pending.all fun job => decide (job.kind ≠ .destroyFn)
  | .shutdownNext err =>
      decide (err = 0) || s.live.head?.all fun acct => s.pending.all fun job => decide (job.acct ≠ acct)

/-- Each job finds its account. -/
structure InTime (s : Jobs) : Prop where
  live : ∀ job ∈ s.pending, job.acct ∈ s.live
  parting : s.pending.Pairwise fun job later => job.acct = later.acct → ¬job.parts
  nodup : s.live.Nodup
  fresh : ∀ acct ∈ s.live, acct < s.next
  idle : s.initialized = false → s.live = [] ∧ s.pending = [] ∧ s.down = .up
  noDestroy : s.down ≠ .up → ∀ job ∈ s.pending, job.kind ≠ .destroyFn
  hangUps : ∀ job ∈ s.pending, job.kind = .hangupUaFn → s.down = .hangUp job.acct
  underway : ∀ acct, s.down = .hangUp acct ∨ s.down = .free acct →
    acct ∈ s.live ∧ (({ kind := .hangupUaFn, acct } : Job) ∉ s.pending → ∀ job ∈ s.pending, job.acct ≠ acct)

variable {s s' : Jobs} {job : Job} {os : List JobOut}

/-! ### Posting -/

theorem InTime.down_of_parts (h : s.InTime) {acct : Nat} (hup : s.down = .up)
    (hkept : ({ kind := .destroyFn, acct } : Job) ∉ s.pending) (hjob : job ∈ s.pending) (hacct : job.acct = acct) :
    ¬job.parts := by
  subst hacct
  rintro (hdestroy | hhangUp)
  · have heq : job = { kind := .destroyFn, acct := job.acct } := by rw [← hdestroy]
    exact hkept (heq ▸ hjob)
  · have hdown := h.hangUps job hjob hhangUp
    rw [hup] at hdown
    cases hdown

/-- A function of a live account that is not being destroyed posts its job. -/
theorem InTime.post (h : s.InTime) (hup : s.down = .up) (hlive : job.acct ∈ s.live)
    (hkept : ({ kind := .destroyFn, acct := job.acct } : Job) ∉ s.pending) (hkind : job.kind ≠ .hangupUaFn) :
    ({ s with pending := s.pending ++ [job] } : Jobs).InTime where
  live := by
    intro k hk
    rcases List.mem_append.mp hk with hk | hk
    · exact h.live k hk
    · rw [List.mem_singleton.mp hk]
      exact hlive
  parting := by
    refine List.pairwise_append.mpr ⟨h.parting, List.pairwise_singleton _ _, fun k hk later hlater hacct => ?_⟩
    obtain rfl := List.mem_singleton.mp hlater
    exact h.down_of_parts hup hkept hk hacct
  nodup := h.nodup
  fresh := h.fresh
  idle := by
    intro hidle
    rw [(h.idle hidle).1] at hlive
    cases hlive
  noDestroy := fun hdown => absurd hup hdown
  hangUps := by
    intro k hk hhangUp
    rcases List.mem_append.mp hk with hk | hk
    · exact h.hangUps k hk hhangUp
    · rw [List.mem_singleton.mp hk] at hhangUp
      exact absurd hhangUp hkind
  underway := by
    rintro acct (hdown | hdown) <;>
    · rw [hup] at hdown
      cases hdown

theorem InTime.voxDispatch (h : s.InTime) (hup : s.down = .up) (hlive : job.acct ∈ s.live)
    (hkept : ({ kind := .destroyFn, acct := job.acct } : Job) ∉ s.pending) (hkind : job.kind ≠ .hangupUaFn)
    (err : Int) : (s.voxDispatch job err).1.InTime := by
  unfold Jobs.voxDispatch
  split
  · exact h
  · split
    · exact h
    · exact h.post hup hlive hkept hkind

/-! ### Running -/

/-- A job that parts from its account and runs in its turn was the last one about it. -/
theorem others_of_parts {before after : List Job} (hparting : (before ++ job :: after).Pairwise fun k later =>
    k.acct = later.acct → ¬k.parts) (hturn : ∀ k ∈ before, k.acct ≠ job.acct) (hparts : job.parts) :
    ∀ k ∈ before ++ after, k.acct ≠ job.acct := by
  intro k hk
  rcases List.mem_append.mp hk with hk | hk
  · exact hturn k hk
  · have hlast := (List.pairwise_cons.mp (List.pairwise_append.mp hparting).2.1).1
    exact fun heq => hlast k hk heq.symm hparts

theorem mem_of_mem_others {before after : List Job} {k : Job} (hk : k ∈ before ++ after) :
    k ∈ before ++ job :: after :=
  ((List.sublist_cons_self job after).append_left before).mem hk

/-- A job that frees nothing has run. -/
theorem InTime.remove {before after : List Job} (h : s.InTime) (hpending : s.pending = before ++ job :: after)
    (hturn : ∀ k ∈ before, k.acct ≠ job.acct) : ({ s with pending := before ++ after } : Jobs).InTime where
  live := fun k hk => h.live k (hpending ▸ mem_of_mem_others hk)
  parting := by
    have hparting := h.parting
    rw [hpending] at hparting
    exact hparting.sublist ((List.sublist_cons_self job after).append_left before)
  nodup := h.nodup
  fresh := h.fresh
  idle := by
    intro hidle
    have hnil := (h.idle hidle).2.1
    rw [hpending] at hnil
    simp at hnil
  noDestroy := fun hdown k hk => h.noDestroy hdown k (hpending ▸ mem_of_mem_others hk)
  hangUps := fun k hk => h.hangUps k (hpending ▸ mem_of_mem_others hk)
  underway := by
    intro acct hdown
    obtain ⟨hlive, hlast⟩ := h.underway acct hdown
    refine ⟨hlive, fun hran k hk => ?_⟩
    by_cases hjob : job = { kind := .hangupUaFn, acct }
    · subst hjob
      have hparting := h.parting
      rw [hpending] at hparting
      exact others_of_parts hparting hturn (.inr rfl) k hk
    · refine hlast (fun hmem => ?_) k (hpending ▸ mem_of_mem_others hk)
      rw [hpending] at hmem
      rcases List.mem_append.mp hmem with hmem | hmem
      · exact hran (List.mem_append_left _ hmem)
      · rcases List.mem_cons.mp hmem with heq | hmem
        · exact hjob heq.symm
        · exact hran (List.mem_append_right _ hmem)

/-- An account is freed that no job is about. -/
theorem InTime.erase {acct : Nat} (h : s.InTime) (hothers : ∀ k ∈ s.pending, k.acct ≠ acct)
    (hdown : ∀ a, s.down ≠ .hangUp a ∧ s.down ≠ .free a) :
    ({ s with live := s.live.erase acct } : Jobs).InTime where
  live := fun k hk => (List.mem_erase_of_ne (hothers k hk)).mpr (h.live k hk)
  parting := h.parting
  nodup := h.nodup.erase acct
  fresh := fun a ha => h.fresh a (List.mem_of_mem_erase ha)
  idle := by
    intro hidle
    obtain ⟨hlive, hrest⟩ := h.idle hidle
    refine ⟨?_, hrest⟩
    show s.live.erase acct = []
    rw [hlive, List.erase_nil]
  noDestroy := h.noDestroy
  hangUps := h.hangUps
  underway := by
    rintro a (ha | ha)
    · exact absurd ha (hdown a).1
    · exact absurd ha (hdown a).2

/-- The next job of an account runs. -/
theorem InTime.runJob {before after : List Job} (h : s.InTime) (hpending : s.pending = before ++ job :: after)
    (hturn : ∀ k ∈ before, k.acct ≠ job.acct) :
    (({ s with pending := before ++ after } : Jobs).runJob job).1.InTime := by
  have hremoved := h.remove hpending hturn
  have hsame (wanted : Nat → Bool) :
      ({ s with pending := before ++ after, regWanted := wanted } : Jobs).InTime :=
    ⟨hremoved.live, hremoved.parting, hremoved.nodup, hremoved.fresh, hremoved.idle, hremoved.noDestroy,
      hremoved.hangUps, hremoved.underway⟩
  unfold Jobs.runJob
  cases hkind : job.kind with
  | registerFn => exact hsame _
  | unregisterFn => exact hsame _
  | keepaliveNowFn => exact hremoved
  | syncFn => exact hremoved
  | hangupUaFn => exact hremoved
  | destroyFn =>
      have hjob : job ∈ s.pending := hpending ▸ List.mem_append_right before List.mem_cons_self
      have hup : s.down = .up := by
        by_contra hdown
        exact h.noDestroy hdown job hjob hkind
      have hparting := h.parting
      rw [hpending] at hparting
      refine hremoved.erase (others_of_parts hparting hturn (.inl hkind)) fun a => ?_
      show s.down ≠ _ ∧ s.down ≠ _
      rw [hup]
      exact ⟨nofun, nofun⟩

/-! ### Shutting down -/

theorem InTime.goTo {down : JobsDown} (h : s.InTime) (hinit : s.initialized = true)
    (hnone : ∀ job ∈ s.pending, job.kind ≠ .destroyFn ∧ job.kind ≠ .hangupUaFn)
    (hunderway : ∀ acct, down = .hangUp acct ∨ down = .free acct →
      acct ∈ s.live ∧ ∀ job ∈ s.pending, job.acct ≠ acct) : ({ s with down } : Jobs).InTime where
  live := h.live
  parting := h.parting
  nodup := h.nodup
  fresh := h.fresh
  idle := by
    intro hidle
    rw [hinit] at hidle
    cases hidle
  noDestroy := fun _ job hjob => (hnone job hjob).1
  hangUps := fun job hjob hkind => absurd hkind (hnone job hjob).2
  underway := fun acct hdown => ⟨(hunderway acct hdown).1, fun _ => (hunderway acct hdown).2⟩

/-- `voxsdk_shutdown` has an account hung up: the job for it is the last one. -/
theorem InTime.hangUp {acct : Nat} (h : s.InTime) (hdown : s.down = .accounts) (hlive : acct ∈ s.live) :
    ({ s with pending := s.pending ++ [{ kind := .hangupUaFn, acct }], down := .hangUp acct } : Jobs).InTime where
  live := by
    intro k hk
    rcases List.mem_append.mp hk with hk | hk
    · exact h.live k hk
    · rw [List.mem_singleton.mp hk]
      exact hlive
  parting := by
    refine List.pairwise_append.mpr ⟨h.parting, List.pairwise_singleton _ _, fun k hk _ _ _ => ?_⟩
    rintro (hdestroy | hhangUp)
    · exact h.noDestroy (by simp [hdown]) k hk hdestroy
    · have hother := h.hangUps k hk hhangUp
      rw [hdown] at hother
      cases hother
  nodup := h.nodup
  fresh := h.fresh
  idle := by
    intro hidle
    rw [(h.idle hidle).1] at hlive
    cases hlive
  noDestroy := by
    intro _ k hk
    rcases List.mem_append.mp hk with hk | hk
    · exact h.noDestroy (by simp [hdown]) k hk
    · rw [List.mem_singleton.mp hk]
      nofun
  hangUps := by
    intro k hk hhangUp
    rcases List.mem_append.mp hk with hk | hk
    · have hother := h.hangUps k hk hhangUp
      rw [hdown] at hother
      cases hother
    · rw [List.mem_singleton.mp hk]
  underway := by
    rintro a (ha | ha)
    · obtain rfl := JobsDown.hangUp.inj ha
      exact ⟨hlive, fun hran => absurd (List.mem_append_right _ (List.mem_singleton_self _)) hran⟩
    · cases ha

theorem InTime.create (h : s.InTime) (hinit : s.initialized = true) (hup : s.down = .up) :
    ({ s with next := s.next + 1, live := s.live ++ [s.next] } : Jobs).InTime where
  live := fun job hjob => List.mem_append_left _ (h.live job hjob)
  parting := h.parting
  nodup := by
    refine List.nodup_append.mpr ⟨h.nodup, List.pairwise_singleton _ _, fun a ha b hb => ?_⟩
    rw [List.mem_singleton.mp hb]
    exact Nat.ne_of_lt (h.fresh a ha)
  fresh := by
    intro a ha
    rcases List.mem_append.mp ha with ha | ha
    · exact Nat.lt_succ_of_lt (h.fresh a ha)
    · rw [List.mem_singleton.mp ha]
      exact Nat.lt_succ_self _
  idle := by
    intro hidle
    exact absurd hinit (by simp [show s.initialized = false from hidle])
  noDestroy := h.noDestroy
  hangUps := h.hangUps
  underway := by
    rintro a (ha | ha)
    · exact absurd (hup.symm.trans ha) nofun
    · exact absurd (hup.symm.trans ha) nofun

/-- libre has refused that job: the account is freed with nothing queued. -/
theorem InTime.free {acct : Nat} (h : s.InTime) (hdown : s.down = .accounts) (hlive : acct ∈ s.live)
    (hothers : ∀ job ∈ s.pending, job.acct ≠ acct) : ({ s with down := .free acct } : Jobs).InTime := by
  have hinit : s.initialized = true := by
    by_contra hidle
    have hup := (h.idle (eq_false_of_ne_true hidle)).2.2
    rw [hdown] at hup
    cases hup
  refine h.goTo hinit (fun job hjob => ⟨h.noDestroy (by simp [hdown]) job hjob, fun hkind => ?_⟩) ?_
  · have hother := h.hangUps job hjob hkind
    rw [hdown] at hother
    cases hother
  · rintro a (ha | ha)
    · cases ha
    · obtain rfl := JobsDown.free.inj ha
      exact ⟨hlive, hothers⟩

theorem InTime.shutdownNext {err : Int} (h : s.InTime) (horder : s.inOrder (.shutdownNext err) = true)
    (hstep : s.shutdownNext err = some (s', os)) :
    s'.InTime ∧ ∀ acct alive, .touched acct alive ∈ os → alive = true := by
  have hinit : s.down ≠ .up → s.initialized = true := by
    intro hdown
    by_contra hidle
    exact hdown (h.idle (eq_false_of_ne_true hidle)).2.2
  unfold Jobs.shutdownNext at hstep
  cases hdown : s.down with
  | up =>
      rw [hdown] at hstep
      cases hstep
  | accounts =>
      simp only [hdown, Option.some.injEq, Jobs.shutdownAccounts] at hstep
      cases hlive : s.live with
      | nil =>
          simp only [hlive, Prod.mk.injEq] at hstep
          obtain ⟨rfl, rfl⟩ := hstep
          refine ⟨⟨nofun, .nil, by simp, by simp, fun _ => ⟨rfl, rfl, rfl⟩, nofun, nofun, ?_⟩,
            nofun⟩
          rintro a (ha | ha) <;> cases ha
      | cons acct rest =>
          have hacct : acct ∈ s.live := hlive ▸ List.mem_cons_self
          have htouched : ∀ a alive, .touched a alive ∈ [s.touch acct] → alive = true := by
            intro a alive htouched
            obtain ⟨rfl, rfl⟩ := JobOut.touched.inj (List.mem_singleton.mp htouched)
            exact decide_eq_true hacct
          by_cases herr : err = 0
          · simp only [hlive, herr, ne_eq, not_true_eq_false, if_false, Prod.mk.injEq] at hstep
            obtain ⟨rfl, rfl⟩ := hstep
            exact ⟨by simpa [hlive] using h.hangUp hdown hacct, htouched⟩
          · simp only [hlive, herr, ne_eq, not_false_eq_true, if_true, Prod.mk.injEq] at hstep
            obtain ⟨rfl, rfl⟩ := hstep
            have hothers : ∀ job ∈ s.pending, job.acct ≠ acct := by
              simpa [inOrder, herr, hlive] using horder
            exact ⟨by simpa [hlive] using h.free hdown hacct hothers, htouched⟩
  | hangUp acct =>
      simp only [hdown] at hstep
      split at hstep
      · cases hstep
      · rename_i hran
        obtain ⟨rfl, rfl⟩ := Prod.mk.inj (Option.some.inj hstep)
        obtain ⟨hlive, hlast⟩ := h.underway acct (.inl hdown)
        refine ⟨h.goTo (hinit (by simp [hdown])) (fun job hjob => ⟨h.noDestroy (by simp [hdown]) job hjob, ?_⟩) ?_,
          nofun⟩
        · intro hkind
          have hother := h.hangUps job hjob hkind
          rw [hdown] at hother
          exact hlast hran job hjob (JobsDown.hangUp.inj hother).symm
        · rintro a (ha | ha)
          · cases ha
          · obtain rfl := JobsDown.free.inj ha
            exact ⟨hlive, hlast hran⟩
  | free acct =>
      simp only [hdown, Option.some.injEq, Prod.mk.injEq] at hstep
      obtain ⟨rfl, rfl⟩ := hstep
      obtain ⟨hlive, hlast⟩ := h.underway acct (.inr hdown)
      have hnone : ∀ job ∈ s.pending, job.kind ≠ .destroyFn ∧ job.kind ≠ .hangupUaFn := by
        refine fun job hjob => ⟨h.noDestroy (by simp [hdown]) job hjob, fun hkind => ?_⟩
        have hother := h.hangUps job hjob hkind
        rw [hdown] at hother
        cases hother
      have hothers := hlast fun hmem => (hnone _ hmem).2 rfl
      have hdone : ({ s with down := .accounts } : Jobs).InTime := by
        refine h.goTo (hinit (by simp [hdown])) hnone ?_
        rintro a (ha | ha) <;> cases ha
      refine ⟨hdone.erase hothers fun a => ⟨nofun, nofun⟩, fun a alive htouched => ?_⟩
      · obtain ⟨rfl, rfl⟩ := JobOut.touched.inj (List.mem_singleton.mp htouched)
        exact decide_eq_true hlive

/-! ### Runs -/

theorem InTime.call {kind : JobKind} {acct : Nat} (h : s.InTime) (hup : s.down = .up) (hlive : acct ∈ s.live)
    (hkept : ({ kind := .destroyFn, acct } : Job) ∉ s.pending) (hkind : kind ≠ .hangupUaFn) (err : Int) :
    (s.call kind acct err).1.InTime ∧ ∀ a alive, .touched a alive ∈ (s.call kind acct err).2 → alive = true := by
  have hpost : (s.voxDispatch { kind, acct } err).1.InTime := h.voxDispatch hup hlive hkept hkind err
  have hsilent : ∀ a alive, .touched a alive ∉ (s.voxDispatch { kind, acct } err).2 := by
    unfold Jobs.voxDispatch
    intro a alive
    split_ifs <;> simp
  cases kind with
  | keepaliveNowFn =>
      have htouch : ∀ a alive, s.touch acct = .touched a alive → alive = true := by
        intro a alive htouched
        obtain ⟨-, rfl⟩ := JobOut.touched.inj htouched
        exact decide_eq_true hlive
      simp only [Jobs.call, Jobs.keepaliveNow]
      split
      · refine ⟨h, fun a alive htouched => ?_⟩
        simp only [List.mem_cons, List.not_mem_nil, or_false, reduceCtorEq] at htouched
        exact htouch a alive htouched.symm
      · refine ⟨hpost, fun a alive htouched => ?_⟩
        rcases List.mem_cons.mp htouched with heq | hmem
        · exact htouch a alive heq.symm
        · exact absurd hmem (hsilent a alive)
  | registerFn => exact ⟨hpost, fun a alive hmem => absurd hmem (hsilent a alive)⟩
  | unregisterFn => exact ⟨hpost, fun a alive hmem => absurd hmem (hsilent a alive)⟩
  | syncFn => exact ⟨hpost, fun a alive hmem => absurd hmem (hsilent a alive)⟩
  | destroyFn => exact ⟨hpost, fun a alive hmem => absurd hmem (hsilent a alive)⟩
  | hangupUaFn => exact absurd rfl hkind

theorem InTime.step {act : JobAct} (h : s.InTime) (horder : s.inOrder act = true) (hstep : s.act act = some (s', os)) :
    s'.InTime ∧ ∀ acct alive, .touched acct alive ∈ os → alive = true := by
  cases act with
  | init =>
      simp only [Jobs.act] at hstep
      split at hstep
      · cases hstep
      · rename_i hidle
        obtain ⟨rfl, rfl⟩ := Prod.mk.inj (Option.some.inj hstep)
        obtain ⟨hlive, hpending, hup⟩ := h.idle (eq_false_of_ne_true hidle)
        exact ⟨⟨h.live, h.parting, h.nodup, h.fresh, nofun, h.noDestroy, h.hangUps, h.underway⟩, nofun⟩
  | create =>
      simp only [Jobs.act, Option.ite_none_right_eq_some, Option.some.injEq, Prod.mk.injEq] at hstep
      obtain ⟨hinit, rfl, rfl⟩ := hstep
      exact ⟨h.create hinit (of_decide_eq_true horder), nofun⟩
  | call kind acct err =>
      simp only [Jobs.act, Option.ite_none_left_eq_some, Option.some.injEq] at hstep
      obtain ⟨hkind, hcall⟩ := hstep
      simp only [inOrder, Bool.and_eq_true, decide_eq_true_eq, Bool.not_eq_true', decide_eq_false_iff_not] at horder
      obtain ⟨⟨hup, hlive⟩, hkept⟩ := horder
      have hcalled := h.call hup hlive hkept hkind err
      rw [hcall] at hcalled
      exact hcalled
  | run i =>
      simp only [Jobs.act, Option.map_eq_some_iff] at hstep
      obtain ⟨job, hjob, hrun⟩ := hstep
      obtain ⟨hi, hget⟩ := List.getElem?_eq_some_iff.mp hjob
      have hsplit : s.pending = s.pending.take i ++ job :: s.pending.drop (i + 1) := by
        rw [← hget, ← List.drop_eq_getElem_cons hi, List.take_append_drop]
      have hturn : ∀ k ∈ s.pending.take i, k.acct ≠ job.acct := by
        simp only [inOrder, hjob, Option.all_some, List.all_eq_true, decide_eq_true_eq] at horder
        exact horder
      rw [List.eraseIdx_eq_take_drop_succ] at hrun
      have hran := h.runJob hsplit hturn
      rw [hrun] at hran
      refine ⟨hran, fun acct alive htouched => ?_⟩
      have hos : os = [.touched job.acct (decide (job.acct ∈ s.live))] := (congrArg Prod.snd hrun).symm
      rw [hos] at htouched
      obtain ⟨-, rfl⟩ := JobOut.touched.inj (List.mem_singleton.mp htouched)
      exact decide_eq_true (h.live job (List.mem_of_getElem? hjob))
  | shutdown =>
      simp only [Jobs.act, Option.ite_none_right_eq_some, Option.some.injEq, Prod.mk.injEq, Bool.and_eq_true,
        decide_eq_true_eq] at hstep
      obtain ⟨⟨hinit, hup⟩, rfl, rfl⟩ := hstep
      simp only [inOrder, List.all_eq_true, decide_eq_true_eq] at horder
      refine ⟨h.goTo hinit (fun job hjob => ⟨horder job hjob, fun hkind => ?_⟩) ?_, nofun⟩
      · have hother := h.hangUps job hjob hkind
        rw [hup] at hother
        cases hother
      · rintro a (ha | ha) <;> cases ha
  | shutdownNext err => exact h.shutdownNext horder hstep

end Jobs

/-- **No job runs on a freed account.** In a run in which the application and libre keep to the order, whatever is
posted, refused, destroyed and shut down within it: whenever the memory of an account is read, written or freed, the
account is there. -/
theorem touches_live :
    jobs.EveryStep (fun s act => s.inOrder act = true) fun _ _ _ os =>
      ∀ acct alive, .touched acct alive ∈ os → alive = true := by
  refine everyStep_of_invariant (I := Jobs.InTime) ?_ fun s act s' os h horder hstep => h.step horder hstep
  rintro _ rfl
  exact ⟨nofun, .nil, List.nodup_nil, nofun, fun _ => ⟨rfl, rfl, rfl⟩, nofun, nofun, fun acct hdown => by simp at hdown⟩

/-- An account is destroyed while its registration is still in the queue. -/
theorem touches_live_busy :
    ∃ s t s' os, jobs.Run (fun s act => s.inOrder act = true) s t ∧ jobs.step s (.run 0) = some (s', os) ∧
      .touched 0 true ∈ os ∧ (Job.mk .destroyFn 0) ∈ s'.pending := by
  obtain ⟨s, t, hrun, hend⟩ := exists_run_of_exec (M := jobs) Jobs.inOrder rfl
    [.init, .create, .call .registerFn 0 0, .call .destroyFn 0 0]
    (fun s _ => decide (s.pending = [⟨.registerFn, 0⟩, ⟨.destroyFn, 0⟩])) (by decide +kernel)
  have hpending : s.pending = [⟨.registerFn, 0⟩, ⟨.destroyFn, 0⟩] := of_decide_eq_true hend
  have hstep : jobs.step s (.run 0) =
      some (({ s with pending := [⟨.destroyFn, 0⟩] } : Jobs).runJob ⟨.registerFn, 0⟩) := by
    simp only [jobs, Jobs.act, hpending]
    rfl
  have halive := touches_live _ _ _ _ _ hrun (by simp [Jobs.inOrder]) hstep 0 _ (List.mem_singleton_self _)
  refine ⟨s, t, _, _, hrun, hstep, ?_, List.mem_singleton_self _⟩
  rw [← halive]
  exact List.mem_singleton_self _

/-- The two jobs the other way round. -/
example : ((jobs.exec (fun _ _ => true)
    { initialized := false, next := 0, live := [], regWanted := fun _ => false, pending := [], down := .up }
    [.init, .create, .call .registerFn 0 0, .call .destroyFn 0 0, .run 1, .run 0]).any
      fun r => decide (.touched 0 false ∈ Trace.outs r.2)) = true := by
  decide +kernel

end VoxSdk
