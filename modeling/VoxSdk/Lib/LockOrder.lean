import Mathlib.Algebra.BigOperators.Group.Finset.Basic
import Mathlib.Algebra.GroupWithZero.Nat
import Mathlib.Data.List.Perm.Basic
import Mathlib.Logic.Function.Basic
import Mathlib.Logic.Relation
import VoxSdk.Lib.Machine

/-!
# Mutexes, and a thread that works for the others

Threads take and release mutexes, and hand work to one of them, the server: `post` goes on at once, `sync` waits
until the server has done it, and on the server itself does it on the spot. A mutex is not recursive. Between two
of its jobs the server takes up work of its own.

Two things can hold a thread up: a mutex that another has, and the server. If every thread takes its mutexes in an
order, and waits for the server only while it has none, then whoever is held up is held up in the end by one that
can go on. And two things are for ever: a ring of threads that hold each other up, and a thread that waits for
work which needs a mutex the thread has.
-/

namespace Reactive

variable {τ μ φ : Type*}

/-- What a thread does next, as far as it can hold another up. -/
inductive LockOp (μ φ : Type*) where
  | lock (m : μ)
  | unlock (m : μ)
  | sync (fn : φ)
  | post (fn : φ)

/-- Who has what, what everybody is about to do, the work handed to the server with who waits for it, and whose
work the server is at: `some none` is nobody's. -/
structure Threads (τ μ φ : Type*) where
  holder : μ → Option τ
  todo : τ → List (LockOp μ φ)
  waits : τ → Bool
  asked : List (Option τ × φ)
  serving : Option (Option τ)

/-- A thread with nothing to do takes something up, a thread goes on, the server takes up the piece of work at
some place, and is done with it. -/
inductive LockAct (τ μ φ : Type*) where
  | enter (t : τ) (ops : List (LockOp μ φ))
  | run (t : τ)
  | serve (i : Nat)
  | finish

/-- The action takes up something new. -/
def LockAct.isNew : LockAct τ μ φ → Bool
  | .enter _ _ => true
  | _ => false

namespace LockOp

/-- How many steps there may be in it, when there are `size fn` in the work `fn`. -/
def steps (size : φ → Nat) : LockOp μ φ → Nat
  | .lock _ | .unlock _ => 1
  | .sync fn | .post fn => size fn + 3

def cost (size : φ → Nat) (ops : List (LockOp μ φ)) : Nat := (ops.map (steps size)).sum

@[simp]
theorem cost_nil (size : φ → Nat) : cost size ([] : List (LockOp μ φ)) = 0 := rfl

@[simp]
theorem cost_cons (size : φ → Nat) (op : LockOp μ φ) (ops : List (LockOp μ φ)) :
    cost size (op :: ops) = op.steps size + cost size ops := List.sum_cons

@[simp]
theorem cost_append (size : φ → Nat) (ops ops' : List (LockOp μ φ)) :
    cost size (ops ++ ops') = cost size ops + cost size ops' := by
  simp [cost]

theorem cost_eq_length {size : φ → Nat} {ops : List (LockOp μ φ)} (h : ∀ op ∈ ops, op.steps size = 1) :
    cost size ops = ops.length := by
  rw [cost, List.map_congr_left h, List.map_const', List.sum_replicate_nat, Nat.mul_one]

end LockOp

namespace Threads

section Run

variable [DecidableEq τ]

/-- The thread has nothing to do. -/
def isIdle (server : τ) (s : Threads τ μ φ) (t : τ) : Bool :=
  (s.todo t).isEmpty && !s.waits t && !(decide (t = server) && s.serving.isSome)

def doNext (t : τ) (ops : List (LockOp μ φ)) (s : Threads τ μ φ) : Threads τ μ φ :=
  { s with todo := Function.update s.todo t ops }

variable [DecidableEq μ] (server : τ) (body : φ → List (LockOp μ φ))

/-- The next step of a thread, if it has one. Only who has a mutex can release it. -/
def run (t : τ) (s : Threads τ μ φ) : Option (Threads τ μ φ) :=
  if s.waits t then none
  else
    match s.todo t with
    | [] => none
    | .lock m :: ops =>
        if s.holder m = none then
          some { s.doNext t ops with holder := Function.update s.holder m (some t) }
        else none
    | .unlock m :: ops =>
        if s.holder m = some t then
          some { s.doNext t ops with holder := Function.update s.holder m none }
        else none
    | .sync fn :: ops =>
        if t = server then some (s.doNext t (body fn ++ ops))
        else
          some { s.doNext t ops with
            waits := Function.update s.waits t true
            asked := s.asked ++ [(some t, fn)] }
    | .post fn :: ops => some { s.doNext t ops with asked := s.asked ++ [(none, fn)] }

/-- The server takes up the piece of work at the place. -/
def serve (i : Nat) (s : Threads τ μ φ) : Option (Threads τ μ φ) :=
  if s.isIdle server server then
    s.asked[i]?.map fun job =>
      { s.doNext server (body job.2) with asked := s.asked.eraseIdx i, serving := some job.1 }
  else none

/-- The server is done, and whoever waited goes on. -/
def finish (s : Threads τ μ φ) : Option (Threads τ μ φ) :=
  if s.todo server = [] then
    s.serving.map fun who =>
      { s with
        waits := who.elim s.waits fun t => Function.update s.waits t false
        serving := none }
  else none

def act (s : Threads τ μ φ) : LockAct τ μ φ → Option (Threads τ μ φ)
  | .enter t ops => if s.isIdle server t then some (s.doNext t ops) else none
  | .run t => s.run server body t
  | .serve i => s.serve server body i
  | .finish => s.finish server

end Run

end Threads

/-- The runs of the threads, from when nobody does anything. -/
def threadRuns [DecidableEq τ] [DecidableEq μ] (server : τ) (body : φ → List (LockOp μ φ)) :
    Machine (Threads τ μ φ) (LockAct τ μ φ) Empty where
  init s := s =
    { holder := fun _ => none
      todo := fun _ => []
      waits := fun _ => false
      asked := []
      serving := none }
  step s a := (s.act server body a).map fun s' => (s', [])

/-! ### Taking mutexes in an order -/

/-- From `held` on, the last one taken first, the mutexes are taken in the order of their ranks and released like
brackets, none is had while the server is waited for, and none in the end. -/
def Ordered (rank : μ → Nat) : List μ → List (LockOp μ φ) → Prop
  | held, [] => held = []
  | held, .lock m :: ops => (∀ h ∈ held, rank h < rank m) ∧ Ordered rank (m :: held) ops
  | held, .unlock m :: ops => ∃ rest, held = m :: rest ∧ Ordered rank rest ops
  | held, .sync _ :: ops => held = [] ∧ Ordered rank held ops
  | held, .post _ :: ops => Ordered rank held ops

theorem Ordered.append {rank : μ → Nat} {held : List μ} {ops ops' : List (LockOp μ φ)} (h : Ordered rank held ops)
    (h' : Ordered rank [] ops') : Ordered rank held (ops ++ ops') := by
  induction ops generalizing held with
  | nil =>
      obtain rfl : held = [] := h
      exact h'
  | cons op ops ih =>
      cases op with
      | lock m => exact ⟨h.1, ih h.2⟩
      | unlock m =>
          obtain ⟨rest, rfl, hrest⟩ := h
          exact ⟨rest, rfl, ih hrest⟩
      | sync fn => exact ⟨h.1, ih h.2⟩
      | post fn => exact ih h

/-- A mutex is had while something is done. -/
def LockOp.critical (m : μ) (inside : List (LockOp μ φ)) : List (LockOp μ φ) := .lock m :: (inside ++ [.unlock m])

theorem LockOp.critical_append (m : μ) (inside rest : List (LockOp μ φ)) :
    LockOp.critical m inside ++ rest = .lock m :: (inside ++ .unlock m :: rest) := by
  simp [LockOp.critical]

/-- No more is counted for the two ends of it than one step each. -/
theorem LockOp.steps_critical {size : φ → Nat} {m : μ} {inside : List (LockOp μ φ)}
    (h : ∀ op ∈ inside, op.steps size = 1) : ∀ op ∈ critical m inside, op.steps size = 1 := by
  intro op hop
  rcases List.mem_cons.mp hop with rfl | hop
  · rfl
  · rcases List.mem_append.mp hop with hop | hop
    · exact h op hop
    · rw [List.mem_singleton.mp hop, steps]

/-- What is done in order with `held`, and ends with `held`. -/
def Nested (rank : μ → Nat) (held : List μ) (ops : List (LockOp μ φ)) : Prop :=
  ∀ rest, Ordered rank held rest → Ordered rank held (ops ++ rest)

section Nested

variable {rank : μ → Nat} {held : List μ} {ops ops' : List (LockOp μ φ)} {m : μ} {fn : φ}

theorem Nested.nil : Nested rank held ([] : List (LockOp μ φ)) := fun _ => id

theorem Nested.append (h : Nested rank held ops) (h' : Nested rank held ops') : Nested rank held (ops ++ ops') :=
  fun rest hrest => by
    rw [List.append_assoc]
    exact h _ (h' rest hrest)

theorem Nested.post : Nested rank held [(.post fn : LockOp μ φ)] := fun _ => id

/-- The server is waited for with nothing. -/
theorem Nested.sync (hnone : held = []) : Nested rank held [(.sync fn : LockOp μ φ)] := fun _ hrest => ⟨hnone, hrest⟩

theorem Nested.critical (hlt : ∀ h ∈ held, rank h < rank m) (hinside : Nested rank (m :: held) ops) :
    Nested rank held (LockOp.critical m ops) := by
  intro rest hrest
  rw [LockOp.critical_append]
  exact ⟨hlt, hinside _ ⟨held, rfl, hrest⟩⟩

theorem Nested.flatMap {κ : Type*} {f : κ → List (LockOp μ φ)} (h : ∀ k, Nested rank held (f k)) (ks : List κ) :
    Nested rank held (ks.flatMap f) := by
  induction ks with
  | nil => exact .nil
  | cons k ks ih => exact (h k).append ih

theorem Nested.replicate (h : Nested rank held ops) (n : Nat) :
    Nested rank held (List.replicate n ops).flatten := by
  induction n with
  | zero => exact .nil
  | succ n ih => exact h.append ih

theorem Nested.ordered (h : Nested rank [] ops) : Ordered rank [] ops := by
  rw [← List.append_nil ops]
  exact h [] rfl

end Nested

namespace Threads

variable {server : τ} {rank : μ → Nat} {s s' : Threads τ μ φ} {t t' : τ} {m : μ} {held : List μ}
  {ops : List (LockOp μ φ)}

/-- The mutexes of a thread, and that it goes on with them in order. -/
structure Has (rank : μ → Nat) (s : Threads τ μ φ) (t : τ) (held : List μ) : Prop where
  holds : ∀ m, s.holder m = some t ↔ m ∈ held
  sorted : held.Pairwise fun m m' => rank m' < rank m
  ordered : Ordered rank held (s.todo t)

/-- Every thread has its mutexes in order, and who waits for the server has none. -/
structure InOrder (rank : μ → Nat) (s : Threads τ μ φ) : Prop where
  has : ∀ t, ∃ held, s.Has rank t held
  bare : ∀ t, s.waits t = true → ∀ m, s.holder m ≠ some t

theorem Has.ordered_of_todo (h : s.Has rank t held) (htodo : s.todo t = ops) : Ordered rank held ops :=
  htodo ▸ h.ordered

/-- Who has nothing to do has no mutex. -/
theorem Has.eq_nil (h : s.Has rank t held) (hnothing : s.todo t = []) : held = [] := h.ordered_of_todo hnothing

theorem Has.bare (h : s.Has rank t []) (m : μ) : s.holder m ≠ some t := fun hm => by
  cases (h.holds m).mp hm

/-- Nobody takes or releases a mutex, and what a thread is to do goes on from what it has. -/
theorem InOrder.has_of_todo (h : s.InOrder rank) (hholder : s'.holder = s.holder)
    (htodo : ∀ t held, s.Has rank t held → Ordered rank held (s'.todo t)) (t : τ) :
    ∃ held, s'.Has rank t held := by
  obtain ⟨held, hhas⟩ := h.has t
  exact ⟨held, fun m => hholder ▸ hhas.holds m, hhas.sorted, htodo t held hhas⟩

/-! ### Steps -/

variable [DecidableEq τ]

theorem doNext_todo (t' : τ) : (s.doNext t ops).todo t' = if t' = t then ops else s.todo t' :=
  Function.update_apply s.todo t ops t'

theorem isIdle_iff : s.isIdle server t = true ↔
    s.todo t = [] ∧ s.waits t = false ∧ (t = server → s.serving = none) := by
  by_cases heq : t = server
  · simp [isIdle, heq, and_assoc]
  · simp [isIdle, heq]

variable [DecidableEq μ] {body : φ → List (LockOp μ φ)} {a : LockAct τ μ φ}

/-- Everything a step can be. -/
inductive Step (server : τ) (body : φ → List (LockOp μ φ)) (s : Threads τ μ φ) :
    LockAct τ μ φ → Threads τ μ φ → Prop where
  | enters {t : τ} {ops : List (LockOp μ φ)} (hnothing : s.todo t = []) (hwaits : s.waits t = false)
      (hserving : t = server → s.serving = none) : Step server body s (.enter t ops) (s.doNext t ops)
  | locks {t : τ} {m : μ} {ops : List (LockOp μ φ)} (hwaits : s.waits t = false)
      (htodo : s.todo t = .lock m :: ops) (hfree : s.holder m = none) :
      Step server body s (.run t) { s.doNext t ops with holder := Function.update s.holder m (some t) }
  | unlocks {t : τ} {m : μ} {ops : List (LockOp μ φ)} (hwaits : s.waits t = false)
      (htodo : s.todo t = .unlock m :: ops) (hmine : s.holder m = some t) :
      Step server body s (.run t) { s.doNext t ops with holder := Function.update s.holder m none }
  | inlines {fn : φ} {ops : List (LockOp μ φ)} (hwaits : s.waits server = false)
      (htodo : s.todo server = .sync fn :: ops) :
      Step server body s (.run server) (s.doNext server (body fn ++ ops))
  | asks {t : τ} {fn : φ} {ops : List (LockOp μ φ)} (hwaits : s.waits t = false)
      (htodo : s.todo t = .sync fn :: ops) (hclient : t ≠ server) :
      Step server body s (.run t)
        { s.doNext t ops with
          waits := Function.update s.waits t true
          asked := s.asked ++ [(some t, fn)] }
  | posts {t : τ} {fn : φ} {ops : List (LockOp μ φ)} (hwaits : s.waits t = false)
      (htodo : s.todo t = .post fn :: ops) :
      Step server body s (.run t) { s.doNext t ops with asked := s.asked ++ [(none, fn)] }
  | serves {i : Nat} {job : Option τ × φ} (hnothing : s.todo server = []) (hwaits : s.waits server = false)
      (hserving : s.serving = none) (hjob : s.asked[i]? = some job) :
      Step server body s (.serve i)
        { s.doNext server (body job.2) with asked := s.asked.eraseIdx i, serving := some job.1 }
  | finishes {who : Option τ} (hnothing : s.todo server = []) (hserving : s.serving = some who) :
      Step server body s .finish
        { s with
          waits := who.elim s.waits fun t => Function.update s.waits t false
          serving := none }

theorem step_run (hrun : s.run server body t = some s') : Step server body s (.run t) s' := by
  unfold Threads.run at hrun
  split at hrun
  · cases hrun
  · rename_i hwaits
    have hwaits : s.waits t = false := by simpa using hwaits
    split at hrun
    · cases hrun
    · rename_i htodo
      split at hrun
      · rename_i hfree
        cases hrun
        exact .locks hwaits htodo hfree
      · cases hrun
    · rename_i htodo
      split at hrun
      · rename_i hmine
        cases hrun
        exact .unlocks hwaits htodo hmine
      · cases hrun
    · rename_i htodo
      split at hrun
      · rename_i heq
        subst heq
        cases hrun
        exact .inlines hwaits htodo
      · rename_i hclient
        cases hrun
        exact .asks hwaits htodo hclient
    · rename_i htodo
      cases hrun
      exact .posts hwaits htodo

theorem step_act (hact : s.act server body a = some s') : Step server body s a s' := by
  cases a with
  | enter t ops =>
      simp only [Threads.act] at hact
      split at hact
      · rename_i hidle
        obtain ⟨hnothing, hwaits, hserving⟩ := isIdle_iff.mp hidle
        cases hact
        exact .enters hnothing hwaits hserving
      · cases hact
  | run t => exact step_run hact
  | serve i =>
      simp only [Threads.act, Threads.serve] at hact
      split at hact
      · rename_i hidle
        obtain ⟨hnothing, hwaits, hserving⟩ := isIdle_iff.mp hidle
        obtain ⟨job, hjob, rfl⟩ := Option.map_eq_some_iff.mp hact
        exact .serves hnothing hwaits (hserving rfl) hjob
      · cases hact
  | finish =>
      simp only [Threads.act, Threads.finish] at hact
      split at hact
      · rename_i hnothing
        obtain ⟨who, hserving, rfl⟩ := Option.map_eq_some_iff.mp hact
        exact .finishes hnothing hserving
      · cases hact

theorem step_of_machine {os : List Empty} (hstep : (threadRuns server body).step s a = some (s', os)) :
    Step server body s a s' := by
  obtain ⟨s'', hact, hsame⟩ := Option.map_eq_some_iff.mp hstep
  cases hsame
  exact step_act hact

/-- Every such step is one of the machine. -/
theorem Step.machine (hstep : Step server body s a s') : (threadRuns server body).step s a = some (s', []) := by
  refine Option.map_eq_some_iff.mpr ⟨s', ?_, rfl⟩
  cases hstep with
  | enters hnothing hwaits hserving =>
      exact if_pos (isIdle_iff.mpr ⟨hnothing, hwaits, hserving⟩)
  | locks hwaits htodo hfree => simp [Threads.act, Threads.run, hwaits, htodo, hfree]
  | unlocks hwaits htodo hmine => simp [Threads.act, Threads.run, hwaits, htodo, hmine]
  | inlines hwaits htodo => simp [Threads.act, Threads.run, hwaits, htodo]
  | asks hwaits htodo hclient => simp [Threads.act, Threads.run, hwaits, htodo, hclient]
  | posts hwaits htodo => simp [Threads.act, Threads.run, hwaits, htodo]
  | @serves i job hnothing hwaits hserving hjob =>
      have hidle : s.isIdle server server = true := isIdle_iff.mpr ⟨hnothing, hwaits, fun _ => hserving⟩
      simp [Threads.act, Threads.serve, hidle, hjob]
  | finishes hnothing hserving => simp [Threads.act, Threads.finish, hnothing, hserving]

omit [DecidableEq μ] in
/-- Who waits after the server is done has waited before, and not for what was done. -/
theorem waits_of_finish {who : Option τ}
    (hwaits : who.elim s.waits (fun t => Function.update s.waits t false) t = true) :
    s.waits t = true ∧ who ≠ some t := by
  cases who with
  | none => exact ⟨hwaits, by simp⟩
  | some w =>
      by_cases heq : t = w
      · subst heq
        simp at hwaits
      · simp only [Option.elim_some, Function.update_of_ne heq] at hwaits
        exact ⟨hwaits, fun hsame => heq (Option.some.inj hsame).symm⟩

/-! ### What order keeps -/

omit [DecidableEq μ] in
/-- A thread is to do something else, and that goes on from what it has. -/
theorem ordered_doNext (hops : ∀ held, s.Has rank t held → Ordered rank held ops) (t' : τ) (held : List μ)
    (hhas : s.Has rank t' held) : Ordered rank held ((s.doNext t ops).todo t') := by
  rw [doNext_todo]
  split
  · rename_i heq
    exact hops held (heq ▸ hhas)
  · exact hhas.ordered

theorem InOrder.lock (h : s.InOrder rank) (hwaits : s.waits t = false)
    (htodo : s.todo t = .lock m :: ops) (hfree : s.holder m = none) :
    InOrder rank { s.doNext t ops with holder := Function.update s.holder m (some t) } := by
  have hholder (t' : τ) (m' : μ) : Function.update s.holder m (some t) m' = some t' ↔
      (m' = m ∧ t' = t) ∨ s.holder m' = some t' := by
    by_cases heq : m' = m
    · subst heq
      simp [hfree, eq_comm]
    · simp [heq]
  refine ⟨fun t' => ?_, fun t' hwaits' m' => ?_⟩
  · obtain ⟨held, hhas⟩ := h.has t'
    by_cases heq : t' = t
    · subst heq
      have hordered := hhas.ordered_of_todo htodo
      refine ⟨m :: held, fun m' => ?_, List.pairwise_cons.mpr ⟨hordered.1, hhas.sorted⟩, ?_⟩
      · rw [hholder, List.mem_cons, hhas.holds]
        simp
      · show Ordered rank (m :: held) ((s.doNext t' ops).todo t')
        rw [doNext_todo, if_pos rfl]
        exact hordered.2
    · refine ⟨held, fun m' => ?_, hhas.sorted, ?_⟩
      · rw [hholder, hhas.holds]
        simp [heq]
      · show Ordered rank held ((s.doNext t ops).todo t')
        rw [doNext_todo, if_neg heq]
        exact hhas.ordered
  · rw [Ne, hholder]
    rintro (⟨-, rfl⟩ | hm)
    · rw [show s.waits t' = true from hwaits'] at hwaits
      cases hwaits
    · exact h.bare t' hwaits' m' hm

/-- The mutex taken last is the one released. -/
theorem InOrder.unlock (h : s.InOrder rank) (htodo : s.todo t = .unlock m :: ops) :
    InOrder rank { s.doNext t ops with holder := Function.update s.holder m none } := by
  obtain ⟨held, hhas⟩ := h.has t
  have hordered := hhas.ordered_of_todo htodo
  obtain ⟨rest, rfl, hrest⟩ := hordered
  have hmine : s.holder m = some t := (hhas.holds m).mpr List.mem_cons_self
  obtain ⟨hlt, hsorted⟩ := List.pairwise_cons.mp hhas.sorted
  have hholder (t' : τ) (m' : μ) : Function.update s.holder m none m' = some t' ↔
      m' ≠ m ∧ s.holder m' = some t' := by
    by_cases heq : m' = m
    · subst heq
      simp
    · simp [heq]
  refine ⟨fun t' => ?_, fun t' hwaits' m' => ?_⟩
  · by_cases heq : t' = t
    · subst heq
      refine ⟨rest, fun m' => ?_, hsorted, ?_⟩
      · rw [hholder, hhas.holds, List.mem_cons]
        constructor
        · rintro ⟨hne, rfl | hmem⟩
          · exact absurd rfl hne
          · exact hmem
        · intro hmem
          refine ⟨?_, .inr hmem⟩
          rintro rfl
          exact Nat.lt_irrefl _ (hlt m' hmem)
      · show Ordered rank rest ((s.doNext t' ops).todo t')
        rw [doNext_todo, if_pos rfl]
        exact hrest
    · obtain ⟨held', hhas'⟩ := h.has t'
      refine ⟨held', fun m' => ?_, hhas'.sorted, ?_⟩
      · rw [hholder, ← hhas'.holds, and_iff_right_iff_imp]
        rintro hm rfl
        exact heq (Option.some.inj (hm.symm.trans hmine))
      · show Ordered rank held' ((s.doNext t ops).todo t')
        rw [doNext_todo, if_neg heq]
        exact hhas'.ordered
  · rw [Ne, hholder]
    exact fun hm => h.bare t' hwaits' m' hm.2

/-- What is taken up is in order. -/
def Polite (rank : μ → Nat) : LockAct τ μ φ → Prop
  | .enter _ ops => Ordered rank [] ops
  | _ => True

theorem InOrder.step (h : s.InOrder rank) (hbody : ∀ fn, Ordered rank [] (body fn)) (hpolite : Polite rank a)
    (hstep : Step server body s a s') : s'.InOrder rank := by
  cases hstep with
  | enters hnothing hwaits hserving =>
      refine ⟨h.has_of_todo rfl (ordered_doNext fun held hhas => ?_), h.bare⟩
      obtain rfl := hhas.eq_nil hnothing
      exact hpolite
  | locks hwaits htodo hfree => exact h.lock hwaits htodo hfree
  | unlocks hwaits htodo hmine => exact h.unlock htodo
  | @inlines fn ops hwaits htodo =>
      refine ⟨h.has_of_todo rfl (ordered_doNext fun held hhas => ?_), h.bare⟩
      have hordered := hhas.ordered_of_todo htodo
      obtain ⟨rfl, hordered⟩ := hordered
      exact (hbody fn).append hordered
  | @asks t fn ops hwaits htodo hclient =>
      have hnext (held : List μ) (hhas : s.Has rank t held) : held = [] ∧ Ordered rank held ops := by
        have hordered := hhas.ordered_of_todo htodo
        exact hordered
      refine ⟨h.has_of_todo rfl (ordered_doNext fun held hhas => (hnext held hhas).2), fun t' hw m => ?_⟩
      by_cases heq : t' = t
      · subst heq
        obtain ⟨held, hhas⟩ := h.has t'
        obtain ⟨rfl, -⟩ := hnext held hhas
        exact hhas.bare m
      · exact h.bare t' ((Function.update_of_ne heq _ _).symm.trans hw) m
  | posts hwaits htodo =>
      refine ⟨h.has_of_todo rfl (ordered_doNext fun held hhas => ?_), h.bare⟩
      have hordered := hhas.ordered_of_todo htodo
      exact hordered
  | @serves i job hnothing _ hserving hjob =>
      refine ⟨h.has_of_todo rfl (ordered_doNext fun held hhas => ?_), h.bare⟩
      obtain rfl := hhas.eq_nil hnothing
      exact hbody job.2
  | finishes hnothing hserving =>
      exact ⟨h.has_of_todo rfl fun t held hhas => hhas.ordered, fun t hwaits => h.bare t (waits_of_finish hwaits).1⟩

/-! ### Who waits has asked, once -/

omit [DecidableEq μ] in
/-- What the server still owes a thread. -/
def requests (asked : List (Option τ × φ)) (serving : Option (Option τ)) (t : τ) : Nat :=
  asked.countP (fun job => decide (job.1 = some t)) + if serving = some (some t) then 1 else 0

theorem requests_append (asked : List (Option τ × φ)) (serving : Option (Option τ)) (who : Option τ) (fn : φ)
    (t : τ) : requests (asked ++ [(who, fn)]) serving t = requests asked serving t + if who = some t then 1 else 0 := by
  simp only [requests, List.countP_append, List.countP_singleton, decide_eq_true_eq]
  omega

/-- A piece of work taken up is still owed. -/
theorem requests_serve {asked : List (Option τ × φ)} {i : Nat} {job : Option τ × φ} (hjob : asked[i]? = some job)
    (t : τ) : requests (asked.eraseIdx i) (some job.1) t = requests asked none t := by
  obtain ⟨hi, rfl⟩ := List.getElem?_eq_some_iff.mp hjob
  have hperm := (List.getElem_cons_eraseIdx_perm hi).countP_eq fun job => decide (job.1 = some t)
  rw [List.countP_cons] at hperm
  simpa [requests] using hperm

theorem requests_finish (asked : List (Option τ × φ)) (who : Option τ) (t : τ) :
    requests asked (some who) t = requests asked none t + if who = some t then 1 else 0 := by
  simp [requests]

structure Booked (server : τ) (s : Threads τ μ φ) : Prop where
  one : ∀ t, requests s.asked s.serving t = (s.waits t).toNat
  server : s.waits server = false

theorem Booked.step (h : s.Booked server) (hstep : Step server body s a s') : s'.Booked server := by
  cases hstep with
  | enters _ _ _ => exact ⟨h.one, h.server⟩
  | locks _ _ _ => exact ⟨h.one, h.server⟩
  | unlocks _ _ _ => exact ⟨h.one, h.server⟩
  | inlines _ _ => exact ⟨h.one, h.server⟩
  | @asks t fn ops hwaits htodo hclient =>
      refine ⟨fun t' => ?_, (Function.update_of_ne (Ne.symm hclient) _ _).trans h.server⟩
      show requests (s.asked ++ [(some t, fn)]) s.serving t' = (Function.update s.waits t true t').toNat
      rw [requests_append, h.one]
      by_cases heq : t' = t
      · subst heq
        simp [hwaits]
      · rw [Function.update_of_ne heq, if_neg fun hsame => heq (Option.some.inj hsame).symm, Nat.add_zero]
  | @posts t fn ops hwaits htodo =>
      refine ⟨fun t' => ?_, h.server⟩
      show requests (s.asked ++ [(none, fn)]) s.serving t' = (s.waits t').toNat
      rw [requests_append, h.one, if_neg (by simp), Nat.add_zero]
  | serves hnothing _ hserving hjob =>
      refine ⟨fun t => (requests_serve hjob t).trans ?_, h.server⟩
      rw [← hserving]
      exact h.one t
  | @finishes who hnothing hserving =>
      refine ⟨fun t => ?_, ?_⟩
      · show requests s.asked none t = (who.elim s.waits (fun t => Function.update s.waits t false) t).toNat
        have hone := h.one t
        rw [hserving, requests_finish] at hone
        cases who with
        | none => simpa using hone
        | some w =>
            by_cases heq : t = w
            · subst heq
              have hle := Bool.toNat_le (s.waits t)
              simp only [if_true, Option.elim_some, Function.update_self, Bool.toNat_false] at hone ⊢
              omega
            · rw [if_neg fun hsame => heq (Option.some.inj hsame).symm, Nat.add_zero] at hone
              rw [Option.elim_some, Function.update_of_ne heq]
              exact hone
      · by_contra hw
        have hw : who.elim s.waits (fun t => Function.update s.waits t false) server = true := by simpa using hw
        have hserver := h.server
        rw [(waits_of_finish hw).1] at hserver
        cases hserver

/-! ### Runs -/

variable {u : Trace (LockAct τ μ φ) Empty} {C : Threads τ μ φ → LockAct τ μ φ → Prop}

/-- In every run in which what is taken up is in order. -/
theorem inOrder_run (hbody : ∀ fn, Ordered rank [] (body fn))
    (hrun : (threadRuns server body).Run (fun _ a => Polite rank a) s u) : s.InOrder rank := by
  refine hrun.stateInvariant (fun s hs => ?_) fun s a s' os h hpolite hstep => ?_
  · subst hs
    exact ⟨fun t => ⟨[], by simp, .nil, rfl⟩, by simp⟩
  · exact h.step hbody hpolite (step_of_machine hstep)

theorem booked_run (hrun : (threadRuns server body).Run C s u) : s.Booked server := by
  refine hrun.stateInvariant (fun s hs => ?_) fun s a s' os h _ hstep => h.step (step_of_machine hstep)
  subst hs
  exact ⟨fun t => rfl, rfl⟩

/-! ### Who is held up, and by whom -/

/-- The other has the mutex that the thread needs next, or is the server it waits for. -/
inductive HeldUpBy (server : τ) (s : Threads τ μ φ) (t : τ) : τ → Prop where
  | mutex {m : μ} {ops : List (LockOp μ φ)} {t' : τ} : s.waits t = false → s.todo t = .lock m :: ops →
      s.holder m = some t' → HeldUpBy server s t t'
  | server : t ≠ server → s.waits t = true → HeldUpBy server s t server

/-- The thread has a step: one of what it is to do, or, as the server, the next piece of work or the end of one. -/
def CanGo (server : τ) (body : φ → List (LockOp μ φ)) (s : Threads τ μ φ) (t : τ) : Prop :=
  (s.run server body t).isSome = true ∨
    t = server ∧ ((∃ i, (s.serve server body i).isSome = true) ∨ (s.finish server).isSome = true)

/-- The thread is not through with what it has taken up, or what has been handed to it. -/
def IsBusy (server : τ) (s : Threads τ μ φ) (t : τ) : Prop :=
  s.todo t ≠ [] ∨ s.waits t = true ∨ t = server ∧ (s.asked ≠ [] ∨ s.serving.isSome = true)

variable (server body) in
/-- Nothing but a mutex stops a thread at what it is to do. -/
theorem InOrder.canGo_or_lock (h : s.InOrder rank) {op : LockOp μ φ} (htodo : s.todo t = op :: ops)
    (hwaits : s.waits t = false) :
    CanGo server body s t ∨ ∃ m t', op = .lock m ∧ s.holder m = some t' := by
  cases op with
  | lock m =>
      cases hholder : s.holder m with
      | none => exact .inl (.inl (by simp [Threads.run, htodo, hwaits, hholder]))
      | some t' => exact .inr ⟨m, t', rfl, hholder⟩
  | unlock m =>
      obtain ⟨held, hhas⟩ := h.has t
      have hordered := hhas.ordered_of_todo htodo
      obtain ⟨rest, rfl, -⟩ := hordered
      have hmine : s.holder m = some t := (hhas.holds m).mpr List.mem_cons_self
      exact .inl (.inl (by simp [Threads.run, htodo, hwaits, hmine]))
  | sync fn =>
      by_cases heq : t = server
      · subst heq
        exact .inl (.inl (by simp [Threads.run, htodo, hwaits]))
      · exact .inl (.inl (by simp [Threads.run, htodo, hwaits, heq]))
  | post fn => exact .inl (.inl (by simp [Threads.run, htodo, hwaits]))

variable (server body) in
/-- Who has a mutex can go on, or is held up in the end by one that can: each of the next needs one of a higher
rank. -/
theorem InOrder.exists_canGo_of_holder (h : s.InOrder rank) {bound : Nat} (hbound : ∀ m, rank m < bound)
    (hholder : s.holder m = some t) :
    ∃ t', Relation.ReflTransGen (HeldUpBy server s) t t' ∧ CanGo server body s t' := by
  induction hleft : bound - rank m using Nat.strongRecOn generalizing m t with
  | ind left ih =>
      obtain ⟨held, hhas⟩ := h.has t
      have hmem : m ∈ held := (hhas.holds m).mp hholder
      have hwaits : s.waits t = false := by
        by_contra hwaits
        exact h.bare t (by simpa using hwaits) m hholder
      cases htodo : s.todo t with
      | nil =>
          rw [hhas.eq_nil htodo] at hmem
          cases hmem
      | cons op ops =>
          rcases h.canGo_or_lock server body htodo hwaits with hgoes | ⟨m', t', rfl, hholder'⟩
          · exact ⟨t, .refl, hgoes⟩
          · have hordered := hhas.ordered_of_todo htodo
            have hrank : rank m < rank m' := hordered.1 m hmem
            have hlt := hbound m'
            obtain ⟨t'', hchain, hgoes⟩ := ih (bound - rank m') (by omega) hholder' rfl
            exact ⟨t'', .head (.mutex hwaits htodo hholder') hchain, hgoes⟩

/-- The same of a thread that is at something. -/
theorem InOrder.exists_canGo_of_todo (h : s.InOrder rank) {bound : Nat} (hbound : ∀ m, rank m < bound)
    (htodo : s.todo t ≠ []) (hwaits : s.waits t = false) :
    ∃ t', Relation.ReflTransGen (HeldUpBy server s) t t' ∧ CanGo server body s t' := by
  obtain ⟨op, ops, htodo⟩ := List.exists_cons_of_ne_nil htodo
  rcases h.canGo_or_lock server body htodo hwaits with hgoes | ⟨m, t', rfl, hholder⟩
  · exact ⟨t, .refl, hgoes⟩
  · obtain ⟨t'', hchain, hgoes⟩ := h.exists_canGo_of_holder server body hbound hholder
    exact ⟨t'', .head (.mutex hwaits htodo hholder) hchain, hgoes⟩

/-- And of the server, when it has been handed something. -/
theorem InOrder.exists_canGo_of_work (h : s.InOrder rank) (hbooked : s.Booked server) {bound : Nat}
    (hbound : ∀ m, rank m < bound) (hwork : s.asked ≠ [] ∨ s.serving.isSome = true) :
    ∃ t', Relation.ReflTransGen (HeldUpBy server s) server t' ∧ CanGo server body s t' := by
  by_cases htodo : s.todo server = []
  · refine ⟨server, .refl, .inr ⟨rfl, ?_⟩⟩
    cases hserving : s.serving with
    | some who => exact .inr (by simp [Threads.finish, htodo, hserving])
    | none =>
        have hasked : s.asked ≠ [] := by simpa [hserving] using hwork
        obtain ⟨job, jobs, hjobs⟩ := List.exists_cons_of_ne_nil hasked
        have hidle : s.isIdle server server = true := isIdle_iff.mpr ⟨htodo, hbooked.server, fun _ => hserving⟩
        exact .inl ⟨0, by simp [Threads.serve, hidle, hjobs]⟩
  · exact h.exists_canGo_of_todo hbound htodo hbooked.server

/-- **No ring.** If mutexes are taken in order, whoever is not through can go on, or is held up in the end by a
thread that can. -/
theorem InOrder.exists_canGo (h : s.InOrder rank) (hbooked : s.Booked server) {bound : Nat}
    (hbound : ∀ m, rank m < bound) (hbusy : s.IsBusy server t) :
    ∃ t', Relation.ReflTransGen (HeldUpBy server s) t t' ∧ CanGo server body s t' := by
  by_cases hwaits : s.waits t = true
  · have hwork : s.asked ≠ [] ∨ s.serving.isSome = true := by
      have hone := hbooked.one t
      by_contra hnone
      rw [not_or, not_not, Bool.not_eq_true, Option.isSome_eq_false_iff, Option.isNone_iff_eq_none] at hnone
      rw [hnone.1, hnone.2, hwaits] at hone
      simp [requests] at hone
    have hclient : t ≠ server := by
      rintro rfl
      simp [hbooked.server] at hwaits
    obtain ⟨t', hchain, hgoes⟩ := h.exists_canGo_of_work hbooked hbound hwork
    exact ⟨t', .head (.server hclient hwaits) hchain, hgoes⟩
  · rcases hbusy with htodo | hw | ⟨rfl, hwork⟩
    · exact h.exists_canGo_of_todo hbound htodo (by simpa using hwaits)
    · exact absurd hw hwaits
    · exact h.exists_canGo_of_work hbooked hbound hwork

/-! ### What is taken up is done -/

variable {size : φ → Nat} {n : Nat}

/-- What is left in what the threads are to do. -/
def left (size : φ → Nat) (busy : Finset τ) (todo : τ → List (LockOp μ φ)) : Nat :=
  ∑ t ∈ busy, LockOp.cost size (todo t)

/-- What is left in what the server has been handed, apart from what it is to do. -/
def owed (size : φ → Nat) (asked : List (Option τ × φ)) (serving : Option (Option τ)) : Nat :=
  (asked.map fun job => size job.2 + 2).sum + serving.isSome.toNat

/-- At most so many steps are left. -/
def Work (size : φ → Nat) (n : Nat) (s : Threads τ μ φ) : Prop :=
  ∃ busy : Finset τ, (∀ t ∉ busy, s.todo t = []) ∧ left size busy s.todo + owed size s.asked s.serving ≤ n

omit [DecidableEq τ] [DecidableEq μ] in
theorem owed_append (asked : List (Option τ × φ)) (serving : Option (Option τ)) (who : Option τ) (fn : φ) :
    owed size (asked ++ [(who, fn)]) serving = owed size asked serving + size fn + 2 := by
  simp only [owed, List.map_append, List.sum_append, List.map_cons, List.map_nil, List.sum_singleton]
  omega

omit [DecidableEq τ] [DecidableEq μ] in
theorem owed_serve {asked : List (Option τ × φ)} {i : Nat} {job : Option τ × φ} (hjob : asked[i]? = some job) :
    owed size asked none = owed size (asked.eraseIdx i) (some job.1) + size job.2 + 1 := by
  obtain ⟨hi, rfl⟩ := List.getElem?_eq_some_iff.mp hjob
  have hsum := ((List.getElem_cons_eraseIdx_perm hi).map fun job => size job.2 + 2).sum_eq
  rw [List.map_cons, List.sum_cons] at hsum
  simp only [owed, Option.isSome_none, Option.isSome_some, Bool.toNat_false, Bool.toNat_true]
  omega

omit [DecidableEq μ] in
variable (size) in
/-- A thread is to do something else. -/
theorem left_doNext {busy : Finset τ} (hrest : ∀ t ∉ busy, s.todo t = []) (t : τ) (ops : List (LockOp μ φ)) :
    ∃ busy' : Finset τ, (∀ t' ∉ busy', (s.doNext t ops).todo t' = []) ∧
      left size busy' (s.doNext t ops).todo + LockOp.cost size (s.todo t) =
        left size busy s.todo + LockOp.cost size ops := by
  -- the thread is counted among the busy, though it may have nothing to do
  have hmem : t ∈ insert t busy := Finset.mem_insert_self t busy
  have hsame : left size busy s.todo = left size (insert t busy) s.todo :=
    Finset.sum_subset (Finset.subset_insert t busy) fun t' _ hnot => by rw [hrest t' hnot, LockOp.cost_nil]
  have hothers : left size ((insert t busy).erase t) (s.doNext t ops).todo =
      left size ((insert t busy).erase t) s.todo :=
    Finset.sum_congr rfl fun t' ht' => by rw [doNext_todo, if_neg (Finset.ne_of_mem_erase ht')]
  refine ⟨insert t busy, fun t' hnot => ?_, ?_⟩
  · rw [doNext_todo, if_neg fun heq : t' = t => hnot (heq ▸ hmem)]
    exact hrest t' fun hbusy => hnot (Finset.mem_insert_of_mem hbusy)
  · simp only [left] at hsame hothers ⊢
    rw [hsame, ← Finset.add_sum_erase _ _ hmem, ← Finset.add_sum_erase (insert t busy) _ hmem, hothers, doNext_todo,
      if_pos rfl]
    omega

/-- **The work left pays for every step.** -/
theorem Work.step (h : s.Work size n) (hsize : ∀ fn, LockOp.cost size (body fn) ≤ size fn)
    (hstep : Step server body s a s') (hnew : a.isNew = false) : ∃ k, k < n ∧ s'.Work size k := by
  obtain ⟨busy, hrest, hn⟩ := h
  cases hstep with
  | enters => cases hnew
  | @locks t m ops _ htodo _ | @unlocks t m ops _ htodo _ =>
      obtain ⟨busy', hrest', hleft⟩ := left_doNext size hrest t ops
      rw [htodo, LockOp.cost_cons, LockOp.steps] at hleft
      have hlt : left size busy' (s.doNext t ops).todo + owed size s.asked s.serving < n := by omega
      exact ⟨_, hlt, busy', hrest', Nat.le_refl _⟩
  | @inlines fn ops _ htodo =>
      obtain ⟨busy', hrest', hleft⟩ := left_doNext size hrest server (body fn ++ ops)
      have hfn := hsize fn
      rw [htodo, LockOp.cost_cons, LockOp.steps, LockOp.cost_append] at hleft
      have hlt : left size busy' (s.doNext server (body fn ++ ops)).todo + owed size s.asked s.serving < n := by omega
      exact ⟨_, hlt, busy', hrest', Nat.le_refl _⟩
  | @asks t fn ops _ htodo _ | @posts t fn ops _ htodo =>
      obtain ⟨busy', hrest', hleft⟩ := left_doNext size hrest t ops
      rw [htodo, LockOp.cost_cons, LockOp.steps] at hleft
      refine ⟨n - 1, by omega, busy', hrest', ?_⟩
      show left size busy' (s.doNext t ops).todo + owed size (s.asked ++ [(_, fn)]) s.serving ≤ n - 1
      rw [owed_append]
      omega
  | @serves i job hnothing _ hserving hjob =>
      obtain ⟨busy', hrest', hleft⟩ := left_doNext size hrest server (body job.2)
      have hfn := hsize job.2
      rw [hnothing, LockOp.cost_nil] at hleft
      rw [hserving, owed_serve hjob] at hn
      have hlt : left size busy' (s.doNext server (body job.2)).todo +
          owed size (s.asked.eraseIdx i) (some job.1) < n := by omega
      exact ⟨_, hlt, busy', hrest', Nat.le_refl _⟩
  | finishes _ hserving =>
      have hlt : left size busy s.todo + owed size s.asked none < n := by
        rw [hserving] at hn
        simp only [owed, Option.isSome_some, Option.isSome_none, Bool.toNat_true, Bool.toNat_false] at hn ⊢
        omega
      exact ⟨_, hlt, busy, hrest, Nat.le_refl _⟩

/-- What is taken up is added to it. -/
theorem Work.enter (h : s.Work size n) (hstep : Step server body s (.enter t ops) s') :
    s'.Work size (n + LockOp.cost size ops) := by
  cases hstep with
  | enters hnothing _ _ =>
      obtain ⟨busy, hrest, hn⟩ := h
      obtain ⟨busy', hrest', hleft⟩ := left_doNext size hrest t ops
      rw [hnothing, LockOp.cost_nil] at hleft
      have hle : left size busy' (s.doNext t ops).todo + owed size s.asked s.serving ≤ n + LockOp.cost size ops := by
        omega
      exact ⟨busy', hrest', hle⟩

theorem work_run (hsize : ∀ fn, LockOp.cost size (body fn) ≤ size fn)
    (hrun : (threadRuns server body).Run C s u) : ∃ n, s.Work size n := by
  refine hrun.stateInvariant (I := fun s => ∃ n, s.Work size n) (fun s hs => ?_) fun s a s' os hwork _ hstep => ?_
  · subst hs
    exact ⟨0, ∅, fun _ _ => rfl, Nat.le_refl _⟩
  · obtain ⟨n, hwork⟩ := hwork
    have hstep := step_of_machine hstep
    cases hnew : a.isNew with
    | true =>
        cases a with
        | enter t ops => exact ⟨_, hwork.enter hstep⟩
        | run | serve | finish => cases hnew
    | false =>
        obtain ⟨k, -, hk⟩ := hwork.step hsize hstep hnew
        exact ⟨k, hk⟩

/-- **Every schedule ends** that takes up nothing new. -/
theorem Work.length_le (h : s.Work size n) (hsize : ∀ fn, LockOp.cost size (body fn) ≤ size fn)
    {v : Trace (LockAct τ μ φ) Empty}
    (hsteps : (threadRuns server body).Steps (fun _ a => a.isNew = false) s v s') : v.length ≤ n := by
  suffices hleft : ∃ k, v.length + k ≤ n ∧ s'.Work size k by
    obtain ⟨k, hk, -⟩ := hleft
    omega
  induction hsteps with
  | refl => exact ⟨n, by simp, h⟩
  | step _ hnew hstep ih =>
      obtain ⟨k, hk, hwork⟩ := ih
      obtain ⟨k', hlt, hwork'⟩ := hwork.step hsize (step_of_machine hstep) hnew
      refine ⟨k', ?_, hwork'⟩
      rw [List.length_append, List.length_singleton]
      omega

/-- Who can go on does not need anything new for it. -/
theorem CanGo.exists_step (h : CanGo server body s t) :
    ∃ a s', a.isNew = false ∧ (threadRuns server body).step s a = some (s', []) := by
  have hstep (a : LockAct τ μ φ) (ha : (s.act server body a).isSome = true) (hnew : a.isNew = false) :
      ∃ a s', a.isNew = false ∧ (threadRuns server body).step s a = some (s', []) := by
    obtain ⟨s', hs'⟩ := Option.isSome_iff_exists.mp ha
    exact ⟨a, s', hnew, Option.map_eq_some_iff.mpr ⟨s', hs', rfl⟩⟩
  rcases h with hrun | ⟨-, ⟨i, hserve⟩ | hfinish⟩
  · exact hstep (.run t) hrun rfl
  · exact hstep (.serve i) hserve rfl
  · exact hstep .finish hfinish rfl

/-! ### What is for ever -/

/-- A thread that needs a mutex another has does nothing. -/
theorem Step.blocked (hstep : Step server body s a s') (hwaits : s.waits t = false) (htodo : s.todo t = .lock m :: ops)
    (hholder : s.holder m = some t') : s'.waits t = false ∧ s'.todo t = .lock m :: ops := by
  have hother {u : τ} {ops' : List (LockOp μ φ)} (hne : t ≠ u) : (s.doNext u ops').todo t = .lock m :: ops :=
    (Function.update_of_ne hne _ _).trans htodo
  cases hstep with
  | enters hnothing _ _ =>
      refine ⟨hwaits, hother ?_⟩
      rintro rfl
      simp [htodo] at hnothing
  | locks _ htodo' hfree =>
      refine ⟨hwaits, hother ?_⟩
      rintro rfl
      rw [htodo] at htodo'
      cases htodo'
      simp [hfree] at hholder
  | unlocks _ htodo' _ | inlines _ htodo' | posts _ htodo' =>
      refine ⟨hwaits, hother ?_⟩
      rintro rfl
      simp [htodo] at htodo'
  | @asks u _ _ _ htodo' _ =>
      have hne : t ≠ u := by
        rintro rfl
        simp [htodo] at htodo'
      exact ⟨(Function.update_of_ne hne _ _).trans hwaits, hother hne⟩
  | serves hnothing _ _ _ =>
      refine ⟨hwaits, hother ?_⟩
      rintro rfl
      simp [htodo] at hnothing
  | finishes _ _ =>
      refine ⟨?_, htodo⟩
      by_contra hw
      rw [(waits_of_finish (by simpa using hw)).1] at hwaits
      cases hwaits

/-- Who waits goes on waiting while the server is at something. -/
theorem Step.waits_eq (hstep : Step server body s a s') (hwaits : s.waits t = true) (hbusy : s.todo server ≠ []) :
    s'.waits t = true := by
  cases hstep with
  | @asks u _ _ _ _ _ =>
      show Function.update s.waits u true t = true
      rw [Function.update_apply]
      split
      · rfl
      · exact hwaits
  | finishes hnothing _ => exact absurd hnothing hbusy
  | enters | locks | unlocks | inlines | posts | serves => exact hwaits

/-- A mutex stays with the thread that has it, if the thread is not about to release it. -/
theorem Step.holder_eq (hstep : Step server body s a s') (hholder : s.holder m = some t)
    (hkeeps : s.waits t = false → ∀ ops, s.todo t ≠ .unlock m :: ops) : s'.holder m = some t := by
  cases hstep with
  | @locks u m' _ _ _ hfree =>
      refine (Function.update_of_ne ?_ _ _).trans hholder
      rintro rfl
      simp [hfree] at hholder
  | @unlocks u m' _ hwaits htodo hmine =>
      refine (Function.update_of_ne ?_ _ _).trans hholder
      rintro rfl
      obtain rfl : u = t := Option.some.inj (hmine.symm.trans hholder)
      exact hkeeps hwaits _ htodo
  | enters | inlines | asks | posts | serves | finishes => exact hholder

omit [DecidableEq μ] in
theorem HeldUpBy.busy (h : HeldUpBy server s t t') : s.isIdle server t = false := by
  rw [← Bool.not_eq_true, isIdle_iff]
  rintro ⟨hnothing, hidle, -⟩
  cases h with
  | mutex _ htodo _ => simp [hnothing] at htodo
  | server _ hwaits => simp [hidle] at hwaits

/-- Each thread of the ring is held up by one of the ring. -/
def Ring (server : τ) (ring : τ → Prop) (s : Threads τ μ φ) : Prop :=
  ∀ t, ring t → ∃ t', HeldUpBy server s t t' ∧ ring t'

variable {ring : τ → Prop}

/-- **A ring stays one.** -/
theorem Ring.step (h : s.Ring server ring) (hstep : Step server body s a s') : s'.Ring server ring := by
  intro t ht
  obtain ⟨t', hheld, ht'⟩ := h t ht
  refine ⟨t', ?_, ht'⟩
  obtain ⟨t'', hheld', -⟩ := h t' ht'
  cases hheld with
  | mutex hwaits htodo hholder =>
      obtain ⟨hwaits', htodo'⟩ := hstep.blocked hwaits htodo hholder
      refine .mutex hwaits' htodo' (hstep.holder_eq hholder fun hwaits'' ops htodo'' => ?_)
      cases hheld' with
      | mutex _ hlock _ => simp [hlock] at htodo''
      | server _ hwaits => simp [hwaits''] at hwaits
  | server hclient hwaits =>
      refine .server hclient (hstep.waits_eq hwaits fun hnothing => ?_)
      cases hheld' with
      | mutex _ hlock _ => simp [hnothing] at hlock
      | server hclient' _ => exact absurd rfl hclient'

omit [DecidableEq μ] in
theorem Ring.busy (h : s.Ring server ring) (ht : ring t) : s.isIdle server t = false := by
  obtain ⟨t', hheld, -⟩ := h t ht
  exact hheld.busy

theorem Ring.steps {v : Trace (LockAct τ μ φ) Empty} (h : s.Ring server ring)
    (hsteps : (threadRuns server body).Steps C s v s') : s'.Ring server ring := by
  induction hsteps with
  | refl => exact h
  | step _ _ hstep ih => exact ih.step (step_of_machine hstep)

/-- A thread waits for work that needs a mutex the thread has. -/
structure Stranded (server : τ) (body : φ → List (LockOp μ φ)) (m : μ) (t : τ) (s : Threads τ μ φ) : Prop where
  waits : s.waits t = true
  holds : s.holder m = some t
  asked : ∀ fn, (some t, fn) ∈ s.asked → .lock m ∈ body fn
  serving : s.serving = some (some t) → .lock m ∈ s.todo server

/-- **Who is stranded stays so.** The server comes to the mutex and no further. -/
theorem Stranded.step (h : Stranded server body m t s) (hclient : t ≠ server) (hstep : Step server body s a s') :
    Stranded server body m t s' := by
  have hholds : s'.holder m = some t := hstep.holder_eq h.holds fun hwaits => by simp [h.waits] at hwaits
  have hother {u : τ} {ops ops' : List (LockOp μ φ)} (htodo : s.todo u = ops) (hkept : .lock m ∈ ops → .lock m ∈ ops')
      (hserving : s.serving = some (some t)) : .lock m ∈ (s.doNext u ops').todo server := by
    have hmem := h.serving hserving
    rw [doNext_todo]
    split
    · rename_i heq
      exact hkept (htodo ▸ heq ▸ hmem)
    · exact hmem
  cases hstep with
  | enters hnothing _ _ => exact ⟨h.waits, hholds, h.asked, hother hnothing (by simp)⟩
  | @locks u m' ops _ htodo hfree =>
      refine ⟨h.waits, hholds, h.asked, hother htodo fun hmem => ?_⟩
      rcases List.mem_cons.mp hmem with heq | hmem
      · cases heq
        simp [h.holds] at hfree
      · exact hmem
  | unlocks _ htodo _ => exact ⟨h.waits, hholds, h.asked, hother htodo (by simp)⟩
  | inlines _ htodo =>
      refine ⟨h.waits, hholds, h.asked, hother htodo fun hmem => List.mem_append_right _ ?_⟩
      simpa using hmem
  | @asks u fn ops hwaits htodo hne =>
      have hnot : u ≠ t := by
        rintro rfl
        simp [h.waits] at hwaits
      refine ⟨(Function.update_of_ne (Ne.symm hnot) _ _).trans h.waits, hholds, fun fn' hmem => ?_,
        hother htodo (by simp)⟩
      rcases List.mem_append.mp hmem with hmem | hmem
      · exact h.asked fn' hmem
      · simp [Ne.symm hnot] at hmem
  | posts _ htodo =>
      refine ⟨h.waits, hholds, fun fn' hmem => ?_, hother htodo (by simp)⟩
      rcases List.mem_append.mp hmem with hmem | hmem
      · exact h.asked fn' hmem
      · simp at hmem
  | @serves i job _ _ _ hjob =>
      refine ⟨h.waits, hholds, fun fn hmem => h.asked fn (List.mem_of_mem_eraseIdx hmem), fun hserving => ?_⟩
      rw [doNext_todo, if_pos rfl]
      refine h.asked job.2 (List.mem_of_getElem? (i := i) ?_)
      rw [hjob, ← Option.some.inj hserving]
  | @finishes who hnothing hserving =>
      refine ⟨?_, hholds, h.asked, fun hnone => by cases hnone⟩
      have hnot : who ≠ some t := by
        rintro rfl
        simpa [hnothing] using h.serving hserving
      cases who with
      | none => exact h.waits
      | some w =>
          refine (Function.update_of_ne ?_ _ _).trans h.waits
          rintro rfl
          exact hnot rfl

/-- Sooner or later, with the mutexes `held`, the work waited for needs one of them, or one of them is taken
again. -/
def Traps (body : φ → List (LockOp μ φ)) : List μ → List (LockOp μ φ) → Prop
  | _, [] => False
  | held, .lock m :: ops => m ∈ held ∨ Traps body (m :: held) ops
  | held, .unlock m :: ops => Traps body (held.erase m) ops
  | held, .sync fn :: ops => (∃ m ∈ held, .lock m ∈ body fn) ∨ Traps body held ops
  | held, .post _ :: ops => Traps body held ops

section Traps

variable {rest inside : List (LockOp μ φ)} {fn : φ}

theorem Traps.append (h : Traps body held ops) : Traps body held (ops ++ rest) := by
  induction ops generalizing held with
  | nil => cases h
  | cons op ops ih =>
      cases op with
      | lock m => exact h.imp_right ih
      | unlock m => exact ih h
      | sync fn => exact h.imp_right ih
      | post fn => exact ih h

theorem traps_critical (h : m ∈ held ∨ Traps body (m :: held) inside) : Traps body held (LockOp.critical m inside) :=
  h.imp_right Traps.append

/-- A trap that follows is still one. -/
def LeavesTraps (body : φ → List (LockOp μ φ)) (held : List μ) (ops : List (LockOp μ φ)) : Prop :=
  ∀ rest, Traps body held rest → Traps body held (ops ++ rest)

theorem LeavesTraps.nil : LeavesTraps body held [] := fun _ => id

theorem LeavesTraps.append {ops' : List (LockOp μ φ)} (h : LeavesTraps body held ops)
    (h' : LeavesTraps body held ops') :
    LeavesTraps body held (ops ++ ops') := fun rest hrest => by
  rw [List.append_assoc]
  exact h _ (h' rest hrest)

theorem LeavesTraps.sync : LeavesTraps body held [.sync fn] := fun _ => .inr

theorem LeavesTraps.post : LeavesTraps body held [.post fn] := fun _ => id

theorem LeavesTraps.critical (hinside : LeavesTraps body (m :: held) inside) :
    LeavesTraps body held (LockOp.critical m inside) := by
  intro rest hrest
  rw [LockOp.critical_append]
  refine .inr (hinside _ ?_)
  show Traps body ((m :: held).erase m) rest
  rwa [List.erase_cons_head]

theorem LeavesTraps.replicate (h : LeavesTraps body held ops) (n : Nat) :
    LeavesTraps body held (List.replicate n ops).flatten := by
  induction n with
  | zero => exact .nil
  | succ n ih => exact h.append ih

end Traps

/-- A thread is on its way into a trap, or in it. -/
inductive Trapped (server : τ) (body : φ → List (LockOp μ φ)) (t : τ) (s : Threads τ μ φ) : Prop where
  | walks {held : List μ} : (∀ m ∈ held, s.holder m = some t) → held.Nodup → Traps body held (s.todo t) →
      Trapped server body t s
  | stranded {m : μ} : Stranded server body m t s → Trapped server body t s

/-- Who does the step. -/
def actor (server : τ) : LockAct τ μ φ → τ
  | .enter t _ => t
  | .run t => t
  | .serve _ => server
  | .finish => server

/-- What others do leaves a thread what it is to do, and its mutexes. -/
theorem Step.frame (hstep : Step server body s a s') (hother : t ≠ actor server a) :
    s'.todo t = s.todo t ∧ ∀ m, s.holder m = some t → s'.holder m = some t := by
  have hdoNext {u : τ} {ops : List (LockOp μ φ)} (hne : t ≠ u) : (s.doNext u ops).todo t = s.todo t :=
    Function.update_of_ne hne _ _
  cases hstep with
  | enters | inlines | asks | posts | serves => exact ⟨hdoNext hother, fun _ => id⟩
  | finishes => exact ⟨rfl, fun _ => id⟩
  | locks hwaits htodo hfree =>
      refine ⟨hdoNext hother, fun m hm => (Function.update_of_ne ?_ _ _).trans hm⟩
      rintro rfl
      simp [hm] at hfree
  | unlocks hwaits htodo hmine =>
      refine ⟨hdoNext hother, fun m hm => (Function.update_of_ne ?_ _ _).trans hm⟩
      rintro rfl
      exact hother (Option.some.inj (hm.symm.trans hmine))

omit [DecidableEq μ] in
/-- Who is not owed anything and asks for work that needs a mutex it has is stranded. -/
theorem Booked.stranded (h : s.Booked server) {fn : φ} (hwaits : s.waits t = false) (hholds : s.holder m = some t)
    (hneeds : .lock m ∈ body fn) :
    Stranded server body m t { s.doNext t ops with
      waits := Function.update s.waits t true
      asked := s.asked ++ [(some t, fn)] } := by
  have hone := h.one t
  rw [hwaits, requests, Bool.toNat_false, Nat.add_eq_zero_iff, List.countP_eq_zero] at hone
  refine ⟨Function.update_self _ _ _, hholds, fun fn' hmem => ?_, fun hserving => ?_⟩
  · rcases List.mem_append.mp hmem with hmem | hmem
    · exact absurd (by simp) (hone.1 _ hmem)
    · obtain rfl : fn' = fn := by simpa using hmem
      exact hneeds
  · have hserving : s.serving = some (some t) := hserving
    simp [hserving] at hone

theorem Trapped.step (h : Trapped server body t s) (hbooked : s.Booked server) (hclient : t ≠ server)
    (hstep : Step server body s a s') : Trapped server body t s' := by
  cases h with
  | stranded h => exact .stranded (h.step hclient hstep)
  | @walks held hholds hnodup htraps =>
      by_cases hother : t = actor server a
      · cases hstep with
        | @enters u ops hnothing _ _ =>
            obtain rfl : t = u := hother
            rw [hnothing] at htraps
            cases htraps
        | @locks u m ops _ htodo hfree =>
            obtain rfl : t = u := hother
            have hnew : m ∉ held := fun hmem => by simp [hholds m hmem] at hfree
            rw [htodo] at htraps
            have hholds' : ∀ m' ∈ m :: held, Function.update s.holder m (some t) m' = some t := by
              intro m' hm
              by_cases heq : m' = m
              · rw [heq, Function.update_self]
              · exact (Function.update_of_ne heq _ _).trans (hholds m' (List.mem_of_ne_of_mem heq hm))
            refine .walks hholds' (List.nodup_cons.mpr ⟨hnew, hnodup⟩) ?_
            rw [doNext_todo, if_pos rfl]
            exact htraps.resolve_left hnew
        | @unlocks u m ops _ htodo _ =>
            obtain rfl : t = u := hother
            rw [htodo] at htraps
            have hholds' : ∀ m' ∈ held.erase m, Function.update s.holder m none m' = some t := by
              intro m' hm
              obtain ⟨hne, hm⟩ := hnodup.mem_erase_iff.mp hm
              exact (Function.update_of_ne hne _ _).trans (hholds m' hm)
            refine .walks hholds' (hnodup.erase m) ?_
            rw [doNext_todo, if_pos rfl]
            exact htraps
        | @asks u fn ops hwaits htodo _ =>
            obtain rfl : t = u := hother
            rw [htodo] at htraps
            rcases htraps with ⟨m, hm, hneeds⟩ | htraps
            · exact .stranded (hbooked.stranded hwaits (hholds m hm) hneeds)
            · exact .walks hholds hnodup (by rwa [doNext_todo, if_pos rfl])
        | @posts u fn ops _ htodo =>
            obtain rfl : t = u := hother
            rw [htodo] at htraps
            exact .walks hholds hnodup (by rwa [doNext_todo, if_pos rfl])
        | inlines | serves | finishes => exact absurd hother hclient
      · obtain ⟨htodo, hkept⟩ := hstep.frame hother
        exact .walks (fun m hm => hkept m (hholds m hm)) hnodup (htodo ▸ htraps)

theorem Trapped.busy (h : Trapped server body t s) : s.isIdle server t = false := by
  rw [← Bool.not_eq_true, isIdle_iff]
  rintro ⟨hnothing, hwaits, -⟩
  cases h with
  | walks _ _ htraps =>
      rw [hnothing] at htraps
      cases htraps
  | stranded h => simp [h.waits] at hwaits

/-- **A trap is for ever.** A thread that has taken up what leads into one is never through with it. -/
theorem trapped_run (hclient : t ≠ server) (htraps : Traps body [] ops) {os : List Empty}
    (hrun : (threadRuns server body).Run C s u) (henter : (.enter t ops, os) ∈ u) : Trapped server body t s := by
  obtain ⟨u₁, u₂, rfl⟩ := List.append_of_mem henter
  obtain ⟨r, r', hr, -, hstep, hsteps⟩ := hrun.at_step
  have hr' : (threadRuns server body).Run Machine.Always r' (u₁ ++ [(.enter t ops, os)]) :=
    hr.always.step trivial hstep
  have hentered : Trapped server body t r' := by
    cases step_of_machine hstep with
    | enters _ _ _ => exact .walks (List.forall_mem_nil _) .nil (by rwa [doNext_todo, if_pos rfl])
  clear hrun henter
  have hboth : Trapped server body t s ∧ s.Booked server := by
    induction hsteps with
    | refl => exact ⟨hentered, booked_run hr'⟩
    | step _ _ hstep ih =>
        have hstep := step_of_machine hstep
        exact ⟨ih.1.step ih.2 hclient hstep, ih.2.step hstep⟩
  exact hboth.1

end Threads

end Reactive
