import Mathlib.Tactic.Linarith
import Mathlib.Tactic.NormNum
import Mathlib.Tactic.Positivity
import Mathlib.Order.Interval.Set.Defs
import VoxSdk.Stats

/-!
# The loss window

Every loss rate is a part of a whole in percent, taken of two counters' growth since the last tick. The
growth of a counter is exact, resets and decreasing losses counting as none, and the sending direction
cuts its part down to the whole. The receiving direction and the jitter buffer add their two parts up to
the whole instead, in 32 bits, and that sum is the whole only while it does not wrap.
-/

namespace VoxSdk

open Reactive Reactive.Machine

/-! ### Growth of a counter -/

/-- A loss rate: a percentage. -/
abbrev Percentage : Set ℚ := Set.Icc 0 100

/-- Division where the divisor is asked for: nothing is divided by zero. -/
def checkedDiv (a b : ℚ) : Option ℚ := if b = 0 then none else some (a / b)

/-- `pctOf` with a division that fails on zero. -/
def checkedPctOf (part whole : UInt32) : Option ℚ :=
  if 0 < whole then checkedDiv ((part.toNat : ℚ) * 100) whole.toNat else some 0

namespace LossWindow

/-- What a window is divided by, the three divisions as ones that fail on zero, and what comes out for the
score of the receiving direction. -/
structure Sound (w : LossWindow) : Prop where
  rxExpected : w.dRxExpected.toNat = w.dRxRecv.toNat + w.dRxLost.toNat
  jbTotal : w.dJbTotal.toNat = w.dJbGet.toNat + w.dJbDisc.toNat
  tx_divisor : checkedPctOf w.dTxLost w.dTxSent = some w.lossPct
  rx_divisor : checkedPctOf w.dRxLost w.dRxExpected = some w.lossPctRx
  jb_divisor : checkedPctOf w.dJbDisc w.dJbTotal = some w.discardPct
  effLossRx_mem : w.effLossRx ∈ Percentage

/-- Neither sum of the window wraps. -/
def Fits (w : LossWindow) : Prop :=
  w.dRxRecv.toNat + w.dRxLost.toNat < 2 ^ 32 ∧ w.dJbGet.toNat + w.dJbDisc.toNat < 2 ^ 32

variable {w : LossWindow}

end LossWindow

end VoxSdk
