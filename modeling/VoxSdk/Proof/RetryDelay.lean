import VoxSdk.Proof.RetryBudget
import Mathlib.Algebra.Order.Floor.Ring
import Mathlib.Tactic.Linarith
import Mathlib.Tactic.Positivity

/-!
# How long a retry waits

The delay of an attempt is the policy's first delay multiplied by the backoff once for each attempt
before it, cut at the cap, and spread by the jitter. The code works in 32 bits, signed where the jitter
is added, and the policy is taken as the app gives it. `idealDelay` is the same without widths;
`delayFits` says when the two agree and every promise about the delay holds.
-/

namespace VoxSdk

open Reactive

namespace RetryPolicy

variable (p : RetryPolicy)

/-- One more attempt, in numbers without a width. -/
def idealStep (delay : Nat) : Nat := min p.maxMs ⌊(delay : ℚ) * p.backoff⌋.toNat

/-- The delay before jitter after `n` attempts, in numbers without a width. -/
def idealDelay (n : Nat) : Nat := p.idealStep^[n] p.initialMs

/-- The delay before jitter after `n` attempts, as the code computes it. -/
def baseDelay (n : Nat) : Nat := Account.backoffDelay p.backoff p.maxMs n p.initialMs

/-- No product of the loop reaches `2 ^ 32`. It follows the loop, with its way out. -/
def BackoffFits (backoff : ℚ) (maxMs : Nat) : Nat → Nat → Prop
  | 0, _ => True
  | n + 1, delay =>
      ⌊(delay : ℚ) * backoff⌋.toNat < 2 ^ 32 ∧
        (castU32 (delay * backoff) < maxMs → BackoffFits backoff maxMs n (castU32 (delay * backoff)))

end RetryPolicy

/-- The window of the jitter, `span`. -/
def jitterSpan (delay : Nat) (jitter : ℚ) : Nat := ⌊(delay : ℚ) * jitter * 2⌋.toNat

/-- No intermediate value of `apply_jitter` wraps: the window and its width fit a `uint32_t`, and the
draw, the delay and their sum an `int32_t`. -/
def JitterFits (delay : Nat) (jitter : ℚ) (rand : Nat) : Prop :=
  jitter ≤ 0 ∨ delay = 0 ∨
    jitterSpan delay jitter < 2 ^ 32 ∧
      (jitterSpan delay jitter = 0 ∨
        jitterSpan delay jitter + 1 < 2 ^ 32 ∧ rand % (jitterSpan delay jitter + 1) < 2 ^ 31 ∧
          (rand % (jitterSpan delay jitter + 1) + delay ≤ jitterSpan delay jitter / 2 ∨
            delay < 2 ^ 31 ∧
              delay + rand % (jitterSpan delay jitter + 1) < 2 ^ 31 + jitterSpan delay jitter / 2))

/-- What is promised of the delay that is armed for the attempt after `n` others: at least a
millisecond; before jitter no shorter than any delay before it, and within the cap; within its jitter;
and no intermediate value wraps. -/
structure DelayKept (p : RetryPolicy) (jitter : ℚ) (n rand delay : Nat) : Prop where
  pos : 1 ≤ delay
  grows : ∀ m ≤ n, p.baseDelay m ≤ p.baseDelay n
  capped : p.baseDelay n ≤ p.maxMs
  spread : |(delay : ℚ) - p.baseDelay n| ≤ jitter * p.baseDelay n
  backoffFits : RetryPolicy.BackoffFits p.backoff p.maxMs n p.initialMs
  jitterFits : JitterFits (p.baseDelay n) jitter rand

/-- When the jitter of a delay is as promised: there is no window, or the delay is below `2 ^ 31`, so
is what the draw makes of it, and the draw is not the last one of a window of odd width, which lies
half a millisecond outside. -/
def jitterHolds (delay : Nat) (jitter : ℚ) (rand : Nat) : Bool :=
  let span := jitterSpan delay jitter
  let draw := rand % (span + 1)
  decide (span = 0) ||
    decide (delay < 2 ^ 31) && decide (delay + draw < 2 ^ 31 + span / 2) &&
      (decide (draw ≠ span) || decide (span % 2 = 0))

/-- The condition on the policy, the attempts so far, the jitter and the draw: the first delay is not
0 and within the cap, no product on the way reaches `2 ^ 32`, and the jitter holds. -/
def delayFits (p : RetryPolicy) (jitter : ℚ) (n rand : Nat) : Prop :=
  1 ≤ p.initialMs ∧ p.initialMs ≤ p.maxMs ∧
    (∀ i < n, i = 0 ∨ p.idealDelay i < p.maxMs →
      ⌊(p.idealDelay i : ℚ) * p.backoff⌋.toNat < 2 ^ 32) ∧
    jitterHolds (p.idealDelay n) jitter rand = true

/-! ### Without widths -/

section Ideal

variable {p : RetryPolicy} {delay : Nat}

theorem le_idealStep (hbackoff : 1 ≤ p.backoff) (hle : delay ≤ p.maxMs) :
    delay ≤ p.idealStep delay := by
  refine Nat.le_min.mpr ⟨hle, ?_⟩
  rw [Int.floor_toNat]
  apply Nat.le_floor
  exact le_mul_of_one_le_right (Nat.cast_nonneg delay) hbackoff

theorem idealStep_le : p.idealStep delay ≤ p.maxMs := Nat.min_le_left _ _

theorem iterate_idealStep_le (hle : delay ≤ p.maxMs) (n : Nat) : p.idealStep^[n] delay ≤ p.maxMs := by
  cases n with
  | zero => exact hle
  | succ n =>
      rw [Function.iterate_succ_apply']
      exact idealStep_le

theorem iterate_idealStep_mono (hbackoff : 1 ≤ p.backoff) (hle : delay ≤ p.maxMs) :
    Monotone fun n => p.idealStep^[n] delay := by
  refine monotone_nat_of_le_succ fun n => ?_
  rw [Function.iterate_succ_apply']
  exact le_idealStep hbackoff (iterate_idealStep_le hle n)

theorem iterate_idealStep_maxMs (hbackoff : 1 ≤ p.backoff) (n : Nat) :
    p.idealStep^[n] p.maxMs = p.maxMs :=
  Nat.le_antisymm (iterate_idealStep_le le_rfl n)
    (iterate_idealStep_mono hbackoff le_rfl (Nat.zero_le n))

end Ideal

/-! ### The loop -/

section Loop

variable {p : RetryPolicy}

/-- The loop's test for the cap, on a product that fits. -/
theorem idealStep_cases {delay : Nat} (hfits : ⌊(delay : ℚ) * p.backoff⌋.toNat < 2 ^ 32) :
    (p.maxMs ≤ castU32 (delay * p.backoff) ∧ p.idealStep delay = p.maxMs) ∨
      (castU32 (delay * p.backoff) < p.maxMs ∧
        p.idealStep delay = castU32 (delay * p.backoff)) := by
  have hcast : castU32 (delay * p.backoff) = ⌊(delay : ℚ) * p.backoff⌋.toNat :=
    Nat.mod_eq_of_lt hfits
  rw [hcast, RetryPolicy.idealStep]
  rcases Nat.lt_or_ge ⌊(delay : ℚ) * p.backoff⌋.toNat p.maxMs with h | h
  · exact .inr ⟨h, Nat.min_eq_right h.le⟩
  · exact .inl ⟨h, Nat.min_eq_left h⟩

/-- The loop computes the ideal delay as long as nothing wraps. -/
theorem backoffDelay_eq (hbackoff : 1 ≤ p.backoff) (n delay : Nat)
    (hfits : RetryPolicy.BackoffFits p.backoff p.maxMs n delay) :
    Account.backoffDelay p.backoff p.maxMs n delay = p.idealStep^[n] delay := by
  induction n generalizing delay with
  | zero => rfl
  | succ n ih =>
      obtain ⟨hnow, hlater⟩ := hfits
      rw [Function.iterate_succ_apply, Account.backoffDelay]
      obtain ⟨hcap, hstep⟩ | ⟨hbelow, hstep⟩ := idealStep_cases hnow
      · rw [hstep, iterate_idealStep_maxMs hbackoff]
        exact if_pos hcap
      · rw [hstep, ← ih _ (hlater hbelow)]
        exact if_neg (Nat.not_le.mpr hbelow)

/-- What wraps can be seen on the ideal delays, and the first product is formed before the cap is
looked at. -/
theorem backoffFits_iff (hbackoff : 1 ≤ p.backoff) (n delay : Nat) :
    RetryPolicy.BackoffFits p.backoff p.maxMs n delay ↔
      ∀ i < n, i = 0 ∨ p.idealStep^[i] delay < p.maxMs →
        ⌊(p.idealStep^[i] delay : ℚ) * p.backoff⌋.toNat < 2 ^ 32 := by
  induction n generalizing delay with
  | zero => simp [RetryPolicy.BackoffFits]
  | succ n ih =>
      constructor
      · rintro ⟨hnow, hlater⟩ i hi hbelow
        cases i with
        | zero => exact hnow
        | succ i =>
            have hbelow : p.idealStep^[i] (p.idealStep delay) < p.maxMs := by
              rcases hbelow with h | h
              · cases h
              · rwa [Function.iterate_succ_apply] at h
            rw [Function.iterate_succ_apply]
            obtain ⟨-, hstep⟩ | ⟨hstill, hstep⟩ := idealStep_cases hnow
            · rw [hstep, iterate_idealStep_maxMs hbackoff] at hbelow
              omega
            · rw [hstep] at hbelow ⊢
              exact (ih _).mp (hlater hstill) i (by omega) (.inr hbelow)
      · intro hall
        have hnow : ⌊(delay : ℚ) * p.backoff⌋.toNat < 2 ^ 32 := hall 0 (Nat.succ_pos n) (.inl rfl)
        refine ⟨hnow, fun hstill => (ih _).mpr fun i hi hbelow => ?_⟩
        obtain ⟨hcap, -⟩ | ⟨-, hstep⟩ := idealStep_cases hnow
        · omega
        · rw [← hstep, ← Function.iterate_succ_apply] at hbelow ⊢
          refine hall (i + 1) (by omega) (.inr ?_)
          rcases hbelow with rfl | hbelow
          · rw [Function.iterate_succ_apply, Function.iterate_zero, id, hstep]
            exact hstill
          · exact hbelow

theorem backoffFits_mono (hbackoff : 1 ≤ p.backoff) {m n delay : Nat} (hmn : m ≤ n)
    (hfits : RetryPolicy.BackoffFits p.backoff p.maxMs n delay) :
    RetryPolicy.BackoffFits p.backoff p.maxMs m delay := by
  rw [backoffFits_iff hbackoff] at hfits ⊢
  exact fun i hi => hfits i (by omega)

theorem backoffDelay_zero (backoff : ℚ) (maxMs n : Nat) :
    Account.backoffDelay backoff maxMs n 0 = 0 := by
  induction n with
  | zero => rfl
  | succ n ih =>
      have hcast : castU32 ((0 : Nat) * backoff) = 0 := by simp [castU32, u32]
      rw [Account.backoffDelay, hcast]
      split
      · omega
      · exact ih

end Loop

/-! ### The jitter -/

section Jitter

variable {delay rand : Nat} {jitter : ℚ}

theorem i32_of_lt {n : Nat} (h : n < 2 ^ 31) : i32 n = n := by
  apply Int.bmod_eq_of_le <;> omega

/-- The window is twice the jitter wide, rounded down, so at most twice the delay. -/
theorem jitterSpan_bounds (delay : Nat) (hjitter : 0 ≤ jitter) :
    (jitterSpan delay jitter : ℚ) ≤ delay * jitter * 2 ∧
      delay * jitter * 2 < (jitterSpan delay jitter : ℚ) + 1 := by
  rw [jitterSpan, Int.floor_toNat]
  exact ⟨Nat.floor_le (by positivity), Nat.lt_floor_add_one _⟩

theorem jitterSpan_le (delay : Nat) (hjitter : 0 ≤ jitter) (hjitter1 : jitter ≤ 1) :
    jitterSpan delay jitter ≤ 2 * delay := by
  have hle := (jitterSpan_bounds delay hjitter).1
  have hone : (delay : ℚ) * jitter ≤ delay := mul_le_of_le_one_right (Nat.cast_nonneg delay) hjitter1
  have hcast : (jitterSpan delay jitter : ℚ) ≤ ((2 * delay : Nat) : ℚ) := by
    push_cast
    linarith
  exact_mod_cast hcast

theorem applyJitter_of_noSpan (hjitter1 : jitter ≤ 1) (hspan : jitterSpan delay jitter = 0) :
    Account.applyJitter delay jitter rand = delay := by
  have hcast : castU32 (delay * jitter * 2) = 0 := by
    rw [castU32]
    change u32 (jitterSpan delay jitter) = 0
    rw [hspan]
    rfl
  unfold Account.applyJitter
  rw [if_neg (not_lt.mpr hjitter1)]
  simp only [hcast, if_true, ite_self]

/-- With one, nothing wrapping, the draw moves the delay by what it is off the middle, and never to 0. -/
theorem applyJitter_of_span (hdelay : 0 < delay) (hjitter : 0 < jitter) (hjitter1 : jitter ≤ 1)
    (hspan : jitterSpan delay jitter ≠ 0) (hdelay31 : delay < 2 ^ 31)
    (hsum : delay + rand % (jitterSpan delay jitter + 1) < 2 ^ 31 + jitterSpan delay jitter / 2) :
    Account.applyJitter delay jitter rand =
      if rand % (jitterSpan delay jitter + 1) + delay ≤ jitterSpan delay jitter / 2 then 1
      else delay + rand % (jitterSpan delay jitter + 1) - jitterSpan delay jitter / 2 := by
  have hle := jitterSpan_le delay hjitter.le hjitter1
  have hcast : castU32 (delay * jitter * 2) = jitterSpan delay jitter := by
    refine Nat.mod_eq_of_lt ?_
    change jitterSpan delay jitter < 2 ^ 32
    omega
  have hwidth : u32 (jitterSpan delay jitter + 1) = jitterSpan delay jitter + 1 :=
    Nat.mod_eq_of_lt (by omega)
  unfold Account.applyJitter
  rw [if_neg (by push Not; exact ⟨hjitter, hdelay.ne'⟩), if_neg (not_lt.mpr hjitter1)]
  simp only [hcast, if_neg hspan, hwidth]
  generalize jitterSpan delay jitter = span at *
  have hdraw : rand % (span + 1) < span + 1 := Nat.mod_lt _ (by omega)
  generalize rand % (span + 1) = draw at *
  rw [i32_of_lt (show draw < 2 ^ 31 by omega), i32_of_lt (show span / 2 < 2 ^ 31 by omega),
    i32_of_lt hdelay31]
  by_cases hearly : draw + delay ≤ span / 2
  · rw [if_pos hearly, if_pos (by omega)]
  · have hlate : ¬ ((draw : Int) - (span / 2 : Nat) < 0 ∧
        delay ≤ (-((draw : Int) - (span / 2 : Nat))).toNat) := by omega
    rw [if_neg hearly, if_neg hlate]
    have hmod : Int.emod ((delay : Int) + ((draw : Int) - (span / 2 : Nat))) (2 ^ 32) =
        (delay : Int) + ((draw : Int) - (span / 2 : Nat)) := Int.emod_eq_of_lt (by omega) (by omega)
    rw [hmod]
    omega

/-- A draw within twice half the window stays within the jitter, and the last draw of an odd window
does not. -/
theorem spread_iff {draw : Nat} (hjitter : 0 ≤ jitter) (hdraw : draw ≤ jitterSpan delay jitter) :
    |(draw : ℚ) - (jitterSpan delay jitter / 2 : Nat)| ≤ jitter * delay ↔
      draw ≤ 2 * (jitterSpan delay jitter / 2) := by
  obtain ⟨hlow, hhigh⟩ := jitterSpan_bounds delay hjitter
  generalize jitterSpan delay jitter = span at *
  have hhalf : (2 * (span / 2) : Nat) ≤ span := Nat.mul_div_le span 2
  have hhalf' : (2 : ℚ) * (span / 2 : Nat) ≤ span := by exact_mod_cast hhalf
  rw [abs_le]
  constructor
  · rintro ⟨-, hup⟩
    by_contra hlast
    -- the window is odd and the draw its last: half a millisecond too many
    have hodd : draw = 2 * (span / 2) + 1 ∧ span = 2 * (span / 2) + 1 := by omega
    have hdraw' : (draw : ℚ) = 2 * (span / 2 : Nat) + 1 := by exact_mod_cast hodd.1
    have hspan' : (span : ℚ) = 2 * (span / 2 : Nat) + 1 := by exact_mod_cast hodd.2
    linarith
  · intro hle
    have hle' : (draw : ℚ) ≤ 2 * (span / 2 : Nat) := by exact_mod_cast hle
    have hnonneg : (0 : ℚ) ≤ draw := Nat.cast_nonneg draw
    constructor <;> linarith

/-- What `jitterHolds` says where there is a window. -/
theorem jitterHolds_of_span (hspan : jitterSpan delay jitter ≠ 0) :
    jitterHolds delay jitter rand = true ↔
      delay < 2 ^ 31 ∧
        delay + rand % (jitterSpan delay jitter + 1) < 2 ^ 31 + jitterSpan delay jitter / 2 ∧
        rand % (jitterSpan delay jitter + 1) ≤ 2 * (jitterSpan delay jitter / 2) := by
  have hdraw : rand % (jitterSpan delay jitter + 1) < jitterSpan delay jitter + 1 :=
    Nat.mod_lt _ (by omega)
  simp only [jitterHolds, hspan, decide_false, Bool.false_or, Bool.and_eq_true, Bool.or_eq_true,
    decide_eq_true_eq, and_assoc]
  refine and_congr_right fun _ => and_congr_right fun _ => ?_
  omega

/-- The early return answers the whole window's first draw, at full jitter. -/
theorem spread_one (hdelay : 0 < delay) (hjitter : 0 ≤ jitter)
    (hearly : delay ≤ jitterSpan delay jitter / 2) : |((1 : Nat) : ℚ) - delay| ≤ jitter * delay := by
  have hlow := (jitterSpan_bounds delay hjitter).1
  have hwide : ((2 * delay : Nat) : ℚ) ≤ jitterSpan delay jitter := by
    exact_mod_cast (show 2 * delay ≤ jitterSpan delay jitter by omega)
  have hone : (1 : ℚ) ≤ delay := by exact_mod_cast hdelay
  push_cast at hwide
  rw [Nat.cast_one, abs_sub_comm, abs_of_nonneg (by linarith)]
  linarith

/-- The jitter's three promises and its condition. -/
theorem jitterHolds_iff (hdelay : 0 < delay) (hjitter : 0 ≤ jitter) (hjitter1 : jitter ≤ 1) :
    (1 ≤ Account.applyJitter delay jitter rand ∧
        |(Account.applyJitter delay jitter rand : ℚ) - delay| ≤ jitter * delay ∧
        JitterFits delay jitter rand) ↔ jitterHolds delay jitter rand = true := by
  by_cases hspan : jitterSpan delay jitter = 0
  · rw [applyJitter_of_noSpan hjitter1 hspan]
    refine iff_of_true ⟨hdelay, ?_, .inr (.inr ⟨by omega, .inl hspan⟩)⟩ (by simp [jitterHolds, hspan])
    rw [sub_self, abs_zero]
    positivity
  · have hpos : 0 < jitter := by
      refine hjitter.lt_of_ne' fun h => hspan ?_
      simp [jitterSpan, h]
    have hle := jitterSpan_le delay hjitter hjitter1
    have hdraw : rand % (jitterSpan delay jitter + 1) ≤ jitterSpan delay jitter :=
      Nat.le_of_lt_succ (Nat.mod_lt _ (by omega))
    rw [jitterHolds_of_span hspan, ← spread_iff hjitter hdraw]
    -- either way the widths suffice for the value to be what it looks like
    suffices h : delay < 2 ^ 31 →
        delay + rand % (jitterSpan delay jitter + 1) < 2 ^ 31 + jitterSpan delay jitter / 2 →
        (1 ≤ Account.applyJitter delay jitter rand ∧
          (|(Account.applyJitter delay jitter rand : ℚ) - delay| ≤ jitter * delay ↔
            |((rand % (jitterSpan delay jitter + 1) : Nat) : ℚ) - (jitterSpan delay jitter / 2 : Nat)| ≤
              jitter * delay)) by
      constructor
      · rintro ⟨-, hspread, hoff | hoff | ⟨-, hoff | ⟨hwidth, -, hfits⟩⟩⟩
        · exact absurd hoff (not_le.mpr hpos)
        · omega
        · exact absurd hoff hspan
        · have hdelay31 : delay < 2 ^ 31 := by omega
          have hsum : delay + rand % (jitterSpan delay jitter + 1) <
              2 ^ 31 + jitterSpan delay jitter / 2 := by omega
          exact ⟨hdelay31, hsum, (h hdelay31 hsum).2.mp hspread⟩
      · rintro ⟨hdelay31, hsum, hspread⟩
        obtain ⟨hone, hiff⟩ := h hdelay31 hsum
        refine ⟨hone, hiff.mpr hspread, .inr (.inr ⟨by omega, .inr ⟨by omega, by omega, ?_⟩⟩)⟩
        exact .inr ⟨hdelay31, hsum⟩
    intro hdelay31 hsum
    rw [applyJitter_of_span hdelay hpos hjitter1 hspan hdelay31 hsum]
    split_ifs with hearly
    · have hfirst : rand % (jitterSpan delay jitter + 1) = 0 := by omega
      refine ⟨le_rfl, iff_of_true (spread_one hdelay hjitter (by omega)) ?_⟩
      rw [spread_iff hjitter hdraw, hfirst]
      exact Nat.zero_le _
    · refine ⟨by omega, ?_⟩
      have hmoved : ((delay + rand % (jitterSpan delay jitter + 1) - jitterSpan delay jitter / 2 : Nat) :
            ℚ) - delay =
          ((rand % (jitterSpan delay jitter + 1) : Nat) : ℚ) - (jitterSpan delay jitter / 2 : Nat) := by
        rw [Nat.cast_sub (by omega), Nat.cast_add]
        ring
      rw [hmoved]

end Jitter

/-! ### The delay that is armed -/

section Delay

variable {p : RetryPolicy} {jitter : ℚ} {n rand : Nat}

/-- What is promised of the delay holds exactly under the condition. -/
theorem delayKept_iff (hbackoff : 1 ≤ p.backoff) (hjitter : 0 ≤ jitter) (hjitter1 : jitter ≤ 1) :
    DelayKept p jitter n rand (Account.applyJitter (p.baseDelay n) jitter rand) ↔
      delayFits p jitter n rand := by
  have hloop := backoffFits_iff hbackoff n p.initialMs
  have hideal (hfits : RetryPolicy.BackoffFits p.backoff p.maxMs n p.initialMs) (m : Nat)
      (hm : m ≤ n) : p.baseDelay m = p.idealDelay m :=
    backoffDelay_eq hbackoff m p.initialMs (backoffFits_mono hbackoff hm hfits)
  constructor
  · rintro ⟨hpos, hgrows, hcapped, hspread, hbackoffFits, hjitterFits⟩
    have hinitial : 1 ≤ p.initialMs := by
      by_contra hzero
      have hbase : p.baseDelay n = 0 := by
        rw [RetryPolicy.baseDelay, show p.initialMs = 0 by omega, backoffDelay_zero]
      rw [hbase] at hpos
      simp [Account.applyJitter] at hpos
    have hmax : p.initialMs ≤ p.maxMs := (hgrows 0 (Nat.zero_le n)).trans hcapped
    have hbase : 0 < p.baseDelay n := hinitial.trans (hgrows 0 (Nat.zero_le n))
    refine ⟨hinitial, hmax, hloop.mp hbackoffFits, ?_⟩
    rw [← hideal hbackoffFits n le_rfl]
    exact (jitterHolds_iff hbase hjitter hjitter1).mp ⟨hpos, hspread, hjitterFits⟩
  · rintro ⟨hinitial, hmax, hproducts, hholds⟩
    have hbackoffFits := hloop.mpr hproducts
    have hmono := iterate_idealStep_mono hbackoff hmax
    have hbase : 0 < p.idealDelay n := hinitial.trans (hmono (Nat.zero_le n))
    rw [hideal hbackoffFits n le_rfl]
    obtain ⟨hpos, hspread, hjitterFits⟩ := (jitterHolds_iff hbase hjitter hjitter1).mpr hholds
    refine ⟨hpos, fun m hm => ?_, ?_, ?_, hbackoffFits, ?_⟩
    · rw [hideal hbackoffFits m hm, hideal hbackoffFits n le_rfl]
      exact hmono hm
    · rw [hideal hbackoffFits n le_rfl]
      exact iterate_idealStep_le hmax n
    · rw [hideal hbackoffFits n le_rfl]
      exact hspread
    · rw [hideal hbackoffFits n le_rfl]
      exact hjitterFits

end Delay

/-- What `set_retry_policy_fn` stores. -/
def RetryPolicy.given (initialMs maxMs : Nat) (backoff : ℚ) (maxAttempts : Nat) : RetryPolicy :=
  { isSet := true, initialMs, maxMs, backoff, maxAttempts }

/-- `schedule_retry` arms a delay for an account with the app's policy. -/
def SchedulesKept (g : Cfg) (now : Nat) (p : RetryPolicy) (rand : Nat) (a : Account) : Prop :=
  ∃ delay,
    ((a.setRetryPolicyFn p.initialMs p.maxMs p.backoff p.maxAttempts).scheduleRetry g now rand).retryTmr =
        Timer.start now delay ∧
      DelayKept p g.regRetryJitter a.retryAttempt rand delay

variable {g : Cfg} {now rand : Nat} {a : Account} {initialMs maxMs maxAttempts : Nat} {backoff : ℚ}

theorem schedulesKept_iff (hidle : a.retryTmr.isRunning = false)
    (hbudget : maxAttempts = 0 ∨ a.retryAttempt < maxAttempts) :
    SchedulesKept g now (.given initialMs maxMs backoff maxAttempts) rand a ↔
      DelayKept (.given initialMs maxMs backoff maxAttempts) g.regRetryJitter a.retryAttempt rand
        (Account.applyJitter
          ((RetryPolicy.given initialMs maxMs backoff maxAttempts).baseDelay a.retryAttempt)
          g.regRetryJitter rand) := by
  have hleft : (a.setRetryPolicyFn initialMs maxMs backoff maxAttempts).retryBudgetLeft g = true := by
    rw [Account.retryBudgetLeft_iff]
    exact hbudget
  have harmed : ((a.setRetryPolicyFn initialMs maxMs backoff maxAttempts).scheduleRetry g now
      rand).retryTmr = Timer.start now (Account.applyJitter
        ((RetryPolicy.given initialMs maxMs backoff maxAttempts).baseDelay a.retryAttempt)
        g.regRetryJitter rand) := by
    rw [Account.scheduleRetry_retryTmr, if_neg (by simp [Account.setRetryPolicyFn, hidle]), if_pos hleft]
    rfl
  constructor
  · rintro ⟨delay, harms, hkept⟩
    have hdelay := Nat.add_left_cancel (Option.some.inj (harms.symm.trans harmed))
    exact hdelay ▸ hkept
  · intro hkept
    exact ⟨_, harmed, hkept⟩

/-- **The retry delay.** For a policy as the app gives it, the delay that is armed keeps every promise
about it exactly under the condition. -/
theorem retryDelay_kept_iff (hidle : a.retryTmr.isRunning = false)
    (hbudget : maxAttempts = 0 ∨ a.retryAttempt < maxAttempts) (hbackoff : 1 ≤ backoff)
    (hjitter : 0 ≤ g.regRetryJitter) (hjitter1 : g.regRetryJitter ≤ 1) :
    SchedulesKept g now (.given initialMs maxMs backoff maxAttempts) rand a ↔
      delayFits (.given initialMs maxMs backoff maxAttempts) g.regRetryJitter a.retryAttempt rand := by
  rw [schedulesKept_iff hidle hbudget]
  exact delayKept_iff hbackoff hjitter hjitter1

/-- The fourth attempt under the default policy, with the default jitter. -/
theorem retryDelay_kept_default :
    SchedulesKept configInit 0 (.given 2000 300000 2 0) 7
      { justCreated.acct with retryAttempt := 3 } := by
  refine (retryDelay_kept_iff rfl (.inl rfl) (by decide +kernel) (by decide +kernel)
    (by decide +kernel)).mpr ⟨by decide, by decide, ?_, by decide +kernel⟩
  decide +kernel

/-- A first delay of 0 arms a retry of 0 ms. -/
theorem retryDelay_zero :
    ¬ ∀ (g : Cfg) (now rand initialMs maxMs maxAttempts : Nat) (backoff : ℚ) (a : Account),
      initialMs < 2 ^ 32 → maxMs < 2 ^ 32 → rand < 2 ^ 32 → a.retryTmr.isRunning = false →
        maxAttempts = 0 ∨ a.retryAttempt < maxAttempts → 1 ≤ backoff → 0 ≤ g.regRetryJitter →
          g.regRetryJitter ≤ 1 →
            SchedulesKept g now (.given initialMs maxMs backoff maxAttempts) rand a := by
  intro h
  have hkept := h configInit 0 0 0 300000 0 2 justCreated.acct (by decide) (by decide) (by decide) rfl
    (.inl rfl) (by decide +kernel) (by decide +kernel) (by decide +kernel)
  have hpos := ((schedulesKept_iff rfl (.inl rfl)).mp hkept).pos
  exact absurd hpos (by decide +kernel)

end VoxSdk
