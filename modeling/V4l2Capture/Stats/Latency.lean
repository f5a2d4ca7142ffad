import Mathlib.Algebra.Order.Field.Rat
import Mathlib.Tactic.Positivity

/-!
# Latency samples

A `double` is read as an exact rational, with the values that are not finite kept
apart. `LatencyStats` holds the accepted samples in the order of their arrival.
-/
namespace V4l2Capture.Stats

inductive Double where
  | finite (value : ℚ)
  | notFinite
  deriving DecidableEq, Repr

/-- The vector `samples_us_`. -/
abbrev LatencyStats := List ℚ

def addSampleUs (samples : LatencyStats) : Double → LatencyStats
  -- Neither kind of unusable sample changes the statistics.
  | .notFinite => samples
  | .finite value => if value < 0 then samples else samples ++ [value]

/-- `static_cast<double>(later - earlier) / 1000.0` for readings with `earlier ≤ later`;
the conversion and the division yield a finite value that is not negative. -/
def latencyUs (later earlier : UInt64) : Double :=
  .finite (((later - earlier).toNat : ℚ) / 1000)

/-- A difference of clock readings is always recorded. -/
@[simp] theorem addSampleUs_latencyUs_length (samples : LatencyStats) (later earlier : UInt64) :
    (addSampleUs samples (latencyUs later earlier)).length = samples.length + 1 := by
  have nonneg : ¬ (((later - earlier).toNat : ℚ) / 1000) < 0 := by
    rw [not_lt]
    positivity
  simp [addSampleUs, latencyUs, nonneg]

end V4l2Capture.Stats
