import Mathlib.Data.List.Induction

/-!
# Reactive machines

A machine takes one input at a time. In some states it refuses an input; otherwise it moves to a
next state and says what it did on the way. A claim about such a machine is about its runs: what
holds in every state a run reaches, given everything the run has seen so far. The induction over
runs is done here once, in `Run.invariant`; a development that uses it is left with what one step
does.
-/

namespace Reactive

variable {σ α ο τ ε : Type*}

/-- A machine: where a run may start, and what an input does. A refused input answers `none`. -/
structure Machine (σ α ο : Type*) where
  init : σ → Prop
  step : σ → α → Option (σ × List ο)

/-- What a run has seen: each input with the outputs of its step, oldest first. -/
abbrev Trace (α ο : Type*) := List (α × List ο)

/-- Everything a run has put out, oldest first. -/
def Trace.outs (t : Trace α ο) : List ο := t.flatMap Prod.snd

@[simp]
theorem Trace.outs_nil : Trace.outs ([] : Trace α ο) = [] := rfl

@[simp]
theorem Trace.outs_append (t u : Trace α ο) :
    Trace.outs (t ++ u : Trace α ο) = t.outs ++ Trace.outs u :=
  List.flatMap_append

@[simp]
theorem Trace.outs_singleton (a : α) (os : List ο) : Trace.outs [(a, os)] = os := by
  simp [Trace.outs]

namespace Machine

variable (M : Machine σ α ο)

/-- `M.Run C s t`: a run reaches the state `s` having seen `t`, and each of its steps meets `C`, a
condition on the state before the step and on the input. -/
inductive Run (C : σ → α → Prop) : σ → Trace α ο → Prop where
  | start {s : σ} : M.init s → Run C s []
  | step {s s' : σ} {t : Trace α ο} {a : α} {os : List ο} :
      Run C s t → C s a → M.step s a = some (s', os) → Run C s' (t ++ [(a, os)])

/-- The condition every step meets: `M.Run Always` is every run there is. -/
def Always : σ → α → Prop := fun _ _ => True

variable {M} {C D : σ → α → Prop} {s : σ} {t : Trace α ο}

/-- The induction over runs: what holds at the start and is kept by every step that meets the
condition holds of every state reached, together with the trace that led there. -/
theorem Run.invariant {I : σ → Trace α ο → Prop} (hinit : ∀ s, M.init s → I s [])
    (hstep : ∀ s t a s' os, I s t → C s a → M.step s a = some (s', os) → I s' (t ++ [(a, os)]))
    (hrun : M.Run C s t) : I s t := by
  induction hrun with
  | start h => exact hinit _ h
  | step _ hC hs ih => exact hstep _ _ _ _ _ ih hC hs

/-- The same for an invariant that does not look at the trace. -/
theorem Run.stateInvariant {I : σ → Prop} (hinit : ∀ s, M.init s → I s)
    (hstep : ∀ s a s' os, I s → C s a → M.step s a = some (s', os) → I s')
    (hrun : M.Run C s t) : I s :=
  hrun.invariant (I := fun s _ => I s) hinit fun s _ a s' os => hstep s a s' os

theorem Run.mono (hle : ∀ s a, C s a → D s a) (hrun : M.Run C s t) : M.Run D s t := by
  induction hrun with
  | start h => exact .start h
  | step _ hC hs ih => exact .step ih (hle _ _ hC) hs

theorem Run.always (hrun : M.Run C s t) : M.Run Always s t :=
  hrun.mono fun _ _ _ => trivial

/-- A nonempty run ends in a step. -/
theorem Run.last {p : α × List ο} (hrun : M.Run C s (t ++ [p])) :
    ∃ r, M.Run C r t ∧ C r p.1 ∧ M.step r p.1 = some (s, p.2) := by
  generalize hu : t ++ [p] = u at hrun
  cases hrun with
  | start _ => simp at hu
  | step hprev hC hs =>
      obtain ⟨rfl, hp⟩ := List.append_inj' hu rfl
      obtain rfl : p = _ := List.singleton_inj.mp hp
      exact ⟨_, hprev, hC, hs⟩

/-- Every step of every run under `C` is as `Q` says. -/
def EveryStep (M : Machine σ α ο) (C : σ → α → Prop) (Q : σ → α → σ → List ο → Prop) : Prop :=
  ∀ s t a s' os, M.Run C s t → C s a → M.step s a = some (s', os) → Q s a s' os

/-- What a step is like in every state that an invariant of the runs describes. -/
theorem everyStep_of_invariant {I : σ → Prop} {Q : σ → α → σ → List ο → Prop}
    (hinit : ∀ s, M.init s → I s)
    (hstep : ∀ s a s' os, I s → C s a → M.step s a = some (s', os) → I s' ∧ Q s a s' os) :
    M.EveryStep C Q := by
  intro s t a s' os hrun hC hs
  have hI : I s := hrun.stateInvariant hinit fun s a s' os hI hC hs => (hstep s a s' os hI hC hs).1
  exact (hstep s a s' os hI hC hs).2

/-- `M.Steps C s t s'`: steps that meet `C` lead from `s` to `s'`, and `t` is what they see. -/
inductive Steps (M : Machine σ α ο) (C : σ → α → Prop) (s : σ) : Trace α ο → σ → Prop where
  | refl : Steps M C s [] s
  | step {r r' : σ} {t : Trace α ο} {a : α} {os : List ο} :
      Steps M C s t r → C r a → M.step r a = some (r', os) → Steps M C s (t ++ [(a, os)]) r'

/-- A run is a shorter run and the stretch that follows it. -/
theorem Run.split {u : Trace α ο} (hrun : M.Run C s (t ++ u)) :
    ∃ r, M.Run C r t ∧ M.Steps C r u s := by
  induction u using List.reverseRecOn generalizing s with
  | nil => exact ⟨s, by simpa using hrun, .refl⟩
  | append_singleton u p ih =>
      rw [← List.append_assoc] at hrun
      obtain ⟨q, hq, hC, hstep⟩ := hrun.last
      obtain ⟨r, hr, hsteps⟩ := ih hq
      exact ⟨r, hr, hsteps.step hC hstep⟩

/-- A step somewhere in a run, with the run that led to it and the stretch that follows. -/
theorem Run.at_step {p : α × List ο} {u : Trace α ο} (hrun : M.Run C s (t ++ p :: u)) :
    ∃ r r', M.Run C r t ∧ C r p.1 ∧ M.step r p.1 = some (r', p.2) ∧ M.Steps C r' u s := by
  rw [List.append_cons] at hrun
  obtain ⟨r', hr', hsteps⟩ := hrun.split
  obtain ⟨r, hr, hC, hstep⟩ := hr'.last
  exact ⟨r, r', hr, hC, hstep, hsteps⟩

theorem Run.at_index {i : Nat} {p : α × List ο} (hrun : M.Run C s t) (hp : t[i]? = some p) :
    ∃ r r', M.Run C r (t.take i) ∧ C r p.1 ∧ M.step r p.1 = some (r', p.2) ∧
      M.Steps C r' (t.drop (i + 1)) s := by
  obtain ⟨hi, rfl⟩ := List.getElem?_eq_some_iff.mp hp
  rw [← List.take_append_drop i t, List.drop_eq_getElem_cons hi] at hrun
  exact hrun.at_step

theorem Run.trans {u : Trace α ο} {s' : σ} (hrun : M.Run C s t) (hsteps : M.Steps C s u s') :
    M.Run C s' (t ++ u) := by
  induction hsteps with
  | refl => simpa using hrun
  | step _ hC hs ih =>
      rw [← List.append_assoc]
      exact ih.step hC hs

theorem Steps.head {r s' : σ} {a : α} {os : List ο} (hC : C s a) (hs : M.step s a = some (r, os))
    (hsteps : M.Steps C r t s') : M.Steps C s ((a, os) :: t) s' := by
  induction hsteps with
  | refl => exact Steps.step .refl hC hs
  | step _ hC' hs' ih => exact ih.step hC' hs'

/-- Nothing follows a state that refuses every input. -/
theorem Steps.of_stuck {s' : σ} (hstuck : ∀ a, M.step s a = none) (hsteps : M.Steps C s t s') :
    t = [] ∧ s' = s := by
  induction hsteps with
  | refl => exact ⟨rfl, rfl⟩
  | step _ _ hs ih =>
      obtain ⟨-, rfl⟩ := ih
      rw [hstuck] at hs
      cases hs

theorem Steps.mono {s' : σ} (hle : ∀ s a, C s a → D s a) (hsteps : M.Steps C s t s') :
    M.Steps D s t s' := by
  induction hsteps with
  | refl => exact .refl
  | step _ hC hs ih => exact ih.step (hle _ _ hC) hs

/-- A condition on inputs alone can be read off the trace. -/
theorem Steps.of_trace {Q : α → Prop} {s' : σ} (hsteps : M.Steps C s t s')
    (hQ : ∀ p ∈ t, Q p.1) : M.Steps (fun _ a => Q a) s t s' := by
  induction hsteps with
  | refl => exact .refl
  | step _ _ hs ih =>
      exact (ih fun p hp => hQ p (List.mem_append_left _ hp)).step
        (hQ _ (List.mem_append_right _ (List.mem_singleton_self _))) hs

/-- What no step changes, no stretch of a run changes. -/
theorem Steps.keeps {s' : σ} {f : σ → τ}
    (hstep : ∀ s a s' os, C s a → M.step s a = some (s', os) → f s' = f s)
    (hsteps : M.Steps C s t s') : f s' = f s := by
  induction hsteps with
  | refl => rfl
  | step _ hC hs ih => exact (hstep _ _ _ _ hC hs).trans ih

/-- What follows every step follows a stretch. A step is followed by what `script` has of its input, be
it nothing, and `next` reads the script alone: stretches with one script are followed alike. -/
theorem Steps.follows {κ ρ : Type*} {R : σ → ρ → Prop} {script : α → List κ} {next : ρ → κ → ρ}
    (hstep : ∀ s r a s' os, R s r → C s a → M.step s a = some (s', os) →
      R s' ((script a).foldl next r))
    {r : ρ} {s' : σ} (hR : R s r) (hsteps : M.Steps C s t s') :
    R s' (((t.map Prod.fst).flatMap script).foldl next r) := by
  induction hsteps with
  | refl => exact hR
  | step _ hC hs ih =>
      rw [List.map_append, List.flatMap_append, List.foldl_append]
      simpa using hstep _ _ _ _ _ ih hC hs

/-- Feed a list of inputs, stopping at the first one that fails the test or is refused. -/
def exec (M : Machine σ α ο) (test : σ → α → Bool) : σ → List α → Option (σ × Trace α ο)
  | s, [] => some (s, [])
  | s, a :: as =>
      if test s a then
        match M.step s a with
        | none => none
        | some (s', os) => (M.exec test s' as).map fun r => (r.1, (a, os) :: r.2)
      else none

/-- The inputs of the stretch are those of the list. -/
theorem inputs_of_exec {test : σ → α → Bool} {s' : σ} {u : Trace α ο} {as : List α}
    (hexec : M.exec test s as = some (s', u)) :
    u.map Prod.fst = as ∧ M.Steps (fun s a => test s a ∧ a ∈ as) s u s' := by
  induction as generalizing s u with
  | nil =>
      simp only [Machine.exec, Option.some.injEq, Prod.mk.injEq] at hexec
      obtain ⟨rfl, rfl⟩ := hexec
      exact ⟨rfl, .refl⟩
  | cons a as ih =>
      rw [Machine.exec] at hexec
      split at hexec
      · rename_i htest
        split at hexec
        · cases hexec
        · rename_i r os hstep
          simp only [Option.map_eq_some_iff, Prod.mk.injEq] at hexec
          obtain ⟨⟨r', v⟩, hrest, rfl, rfl⟩ := hexec
          obtain ⟨hinputs, hsteps⟩ := ih hrest
          refine ⟨congrArg (a :: ·) hinputs, .head ⟨htest, List.mem_cons_self⟩ hstep ?_⟩
          exact hsteps.mono fun s b hb => ⟨hb.1, List.mem_cons_of_mem a hb.2⟩
      · cases hexec

theorem steps_of_exec {test : σ → α → Bool} {s' : σ} {u : Trace α ο} {as : List α}
    (hexec : M.exec test s as = some (s', u)) : M.Steps (fun s a => test s a) s u s' :=
  (inputs_of_exec hexec).2.mono fun _ _ h => h.1

/-- A list of inputs whose execution can be computed, and ends as `P` says, is a stretch of a run. -/
theorem exists_steps_of_exec (test : σ → α → Bool) (as : List α) (P : σ → Trace α ο → Bool)
    (hexec : (M.exec test s as).any (fun r => P r.1 r.2) = true) :
    ∃ s' u, M.Steps (fun s a => test s a) s u s' ∧ P s' u = true := by
  cases h : M.exec test s as with
  | none => simp [h] at hexec
  | some r => exact ⟨r.1, r.2, steps_of_exec h, by simpa [h] using hexec⟩

/-- And a run, if it begins where one may start. -/
theorem exists_run_of_exec (test : σ → α → Bool) (hinit : M.init s) (as : List α)
    (P : σ → Trace α ο → Bool) (hexec : (M.exec test s as).any (fun r => P r.1 r.2) = true) :
    ∃ s' u, M.Run (fun s a => test s a) s' u ∧ P s' u = true := by
  obtain ⟨s', u, hsteps, hend⟩ := exists_steps_of_exec test as P hexec
  exact ⟨s', u, by simpa using (Run.start hinit).trans hsteps, hend⟩

/-- The machine with a history variable: `next` updates it from the state a step is taken in, the
input and the outputs, and the machine never reads it. -/
def withHistory (M : Machine σ α ο) (start : τ) (next : σ → α → List ο → τ → τ) :
    Machine (σ × τ) α ο where
  init p := M.init p.1 ∧ p.2 = start
  step p a := (M.step p.1 a).map fun r => ((r.1, next p.1 a r.2 p.2), r.2)

theorem withHistory_step {start : τ} {next : σ → α → List ο → τ → τ} {p p' : σ × τ} {a : α}
    {os : List ο} :
    (M.withHistory start next).step p a = some (p', os) ↔
      M.step p.1 a = some (p'.1, os) ∧ p'.2 = next p.1 a os p.2 := by
  simp only [withHistory, Option.map_eq_some_iff, Prod.mk.injEq]
  constructor
  · rintro ⟨⟨s, os'⟩, hstep, rfl, rfl⟩
    exact ⟨hstep, rfl⟩
  · rintro ⟨hstep, hnext⟩
    exact ⟨(p'.1, os), hstep, Prod.ext rfl hnext.symm, rfl⟩

/-- A run with a history is a run. -/
theorem Run.of_withHistory {start : τ} {next : σ → α → List ο → τ → τ} {p : σ × τ}
    (hrun : (M.withHistory start next).Run Always p t) : M.Run Always p.1 t := by
  induction hrun with
  | start h => exact .start h.1
  | step _ _ hs ih => exact ih.step trivial (withHistory_step.mp hs).1

end Machine

/-! ### Monitors

A monitor reads the outputs of a run one by one, or what is of interest in them, and either moves on
or rejects. It says what the outputs of a run may look like without saying anything about the
machine. -/

/-- An automaton that may reject. -/
structure Monitor (τ ε : Type*) where
  start : τ
  next : τ → ε → Option τ

namespace Monitor

variable (N : Monitor τ ε)

/-- Where reading `es` from `q` leads, unless something on the way is rejected. -/
def read (q : τ) (es : List ε) : Option τ := es.foldlM N.next q

@[simp]
theorem read_nil (q : τ) : N.read q [] = some q := rfl

@[simp]
theorem read_cons (q : τ) (e : ε) (es : List ε) :
    N.read q (e :: es) = (N.next q e).bind fun r => N.read r es := by
  simp [read, List.foldlM_cons]

theorem read_append (q : τ) (es es' : List ε) :
    N.read q (es ++ es') = (N.read q es).bind fun r => N.read r es' := by
  simp [read, List.foldlM_append]

end Monitor

/-- The simulation rule: if every step can be followed by the monitor, from related to related
states, then the monitor accepts the whole run, and ends related to the state reached. The monitor
reads what `view` shows of the outputs. -/
theorem Machine.Run.accepted {M : Machine σ α ο} {C : σ → α → Prop} {s : σ} {t : Trace α ο}
    {N : Monitor τ ε} (view : List ο → List ε) (hview : ∀ os os', view (os ++ os') = view os ++ view os')
    {R : σ → τ → Prop} (hinit : ∀ s, M.init s → R s N.start)
    (hstep : ∀ s q a s' os, R s q → C s a → M.step s a = some (s', os) →
      ∃ q', N.read q (view os) = some q' ∧ R s' q')
    (hrun : M.Run C s t) : ∃ q, N.read N.start (view t.outs) = some q ∧ R s q := by
  have hnil : view [] = [] := by
    have h := congrArg List.length (hview [] [])
    rw [List.append_nil, List.length_append] at h
    exact List.length_eq_zero_iff.mp (by omega)
  refine hrun.invariant (I := fun s t => ∃ q, N.read N.start (view (Trace.outs t)) = some q ∧ R s q)
    (fun s h => ⟨N.start, by simp [hnil], hinit s h⟩) ?_
  rintro s t a s' os ⟨q, hq, hR⟩ hC hs
  obtain ⟨q', hq', hR'⟩ := hstep s q a s' os hR hC hs
  exact ⟨q', by simp [hview, Monitor.read_append, hq, hq'], hR'⟩

end Reactive
