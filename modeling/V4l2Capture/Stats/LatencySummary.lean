import Mathlib.Algebra.Order.BigOperators.Group.List
import Mathlib.Data.List.GetD
import Mathlib.Data.List.Sort
import Mathlib.Data.Rat.Floor
import V4l2Capture.Library.Interpolation
import V4l2Capture.Stats.Latency

/-!
# The summary of the latency samples

`LatencyStats::snapshot` over exact rationals, where the sums and products of the source are
rounded. A lookup that could be out of range is an option, so a summary says that none was.
-/
namespace V4l2Capture.Stats

open Interpolation

structure LatencySummary where
  sampleCount : Nat := 0
  minUs : ℚ := 0
  meanUs : ℚ := 0
  p50Us : ℚ := 0
  p95Us : ℚ := 0
  p99Us : ℚ := 0
  maxUs : ℚ := 0
  jitterUs : ℚ := 0
  deriving DecidableEq, Repr

def percentile (sortedSamples : List ℚ) (quantile : ℚ) : Option ℚ :=
  match sortedSamples with
  | [] => some 0
  | [only] => some only
  | samples => do
    let rank := quantile * ((samples.length - 1 : Nat) : ℚ)
    -- The rank is not negative, so the casts to `std::size_t` keep its floor and ceiling.
    let lower := ⌊rank⌋₊
    let upper := ⌈rank⌉₊
    let fraction := rank - lower
    let low ← samples[lower]?
    let high ← samples[upper]?
    return low + (high - low) * fraction

/-- The sum of the squares under the root of `jitter_us`. -/
def squaredDeviationSum (samples : List ℚ) (mean : ℚ) : ℚ :=
  samples.foldl (fun sum sample => sum + (sample - mean) * (sample - mean)) (0 : ℚ)

/-- `std::sqrt` is a parameter, as a root need not be rational. -/
def snapshot (sqrt : ℚ → ℚ) (samples : LatencyStats) : Option LatencySummary :=
  if samples.isEmpty then some { sampleCount := samples.length }
  else do
    let sorted := samples.insertionSort (· ≤ ·)
    let mean := sorted.foldl (· + ·) (0 : ℚ) / sorted.length
    return {
      sampleCount := samples.length
      minUs := ← sorted.head?
      maxUs := ← sorted.getLast?
      meanUs := mean
      p50Us := ← percentile sorted (1 / 2)
      p95Us := ← percentile sorted (19 / 20)
      p99Us := ← percentile sorted (99 / 100)
      jitterUs := sqrt (squaredDeviationSum sorted mean / sorted.length) }

example : snapshot id [10, 20, 30, 40, 50] = some {
    sampleCount := 5, minUs := 10, meanUs := 30, p50Us := 30, p95Us := 48, p99Us := 248 / 5,
    maxUs := 50, jitterUs := 200 } := by decide +kernel

/-! ### The sorted samples -/

/-- The samples as a sequence by rank. -/
def ranked (sorted : List ℚ) (rank : ℕ) : ℚ :=
  sorted.getD rank 0

theorem getElem?_ranked {sorted : List ℚ} {rank : ℕ} (within : rank < sorted.length) :
    sorted[rank]? = some (ranked sorted rank) := by
  rw [ranked, List.getD_eq_getElem?_getD, List.getElem?_eq_getElem within, Option.getD_some]

theorem ranked_rising {sorted : List ℚ} (rising : sorted.SortedLE) {last : ℕ}
    (length : sorted.length = last + 1) : MonotoneOn (ranked sorted) (Set.Iic last) := by
  intro first firstWithin second secondWithin le
  have secondIn : second < sorted.length := by
    rw [length]
    exact Nat.lt_succ_of_le secondWithin
  have firstIn : first < sorted.length := le.trans_lt secondIn
  rw [ranked, ranked, List.getD_eq_getElem _ _ firstIn, List.getD_eq_getElem _ _ secondIn]
  exact rising.getElem_le_getElem_of_le le

/-- Every lookup of a percentile is in range. -/
theorem percentile_eq {sorted : List ℚ} {last : ℕ} (length : sorted.length = last + 1)
    {quantile : ℚ} (le_one : quantile ≤ 1) :
    percentile sorted quantile = some (interpolate (ranked sorted) (quantile * last)) := by
  have within : quantile * last ≤ last := mul_le_of_le_one_left (Nat.cast_nonneg last) le_one
  match sorted with
  | [only] =>
    obtain rfl : last = 0 := by simpa using length.symm
    simp [percentile, interpolate, ranked]
  | first :: second :: rest =>
    have floorIn : ⌊quantile * last⌋₊ < (first :: second :: rest).length := by
      rw [length]
      exact Nat.lt_succ_of_le (floor_le_last within)
    have ceilIn : ⌈quantile * last⌉₊ < (first :: second :: rest).length := by
      rw [length]
      exact Nat.lt_succ_of_le (Nat.ceil_le.mpr within)
    have rank : (first :: second :: rest).length - 1 = last := by rw [length]; rfl
    simp only [percentile, rank, getElem?_ranked floorIn, getElem?_ranked ceilIn]
    rfl

theorem ranked_mem {sorted : List ℚ} {rank : ℕ} (within : rank < sorted.length) :
    ranked sorted rank ∈ sorted := by
  rw [ranked, List.getD_eq_getElem _ _ within]
  exact List.getElem_mem within

theorem exists_rank {sorted : List ℚ} {last : ℕ} (length : sorted.length = last + 1) {sample : ℚ}
    (member : sample ∈ sorted) : ∃ rank ≤ last, ranked sorted rank = sample := by
  obtain ⟨rank, within, rfl⟩ := List.mem_iff_getElem.mp member
  exact ⟨rank, by omega, List.getD_eq_getElem _ _ within⟩

/-- The least and the greatest sample are the values at the first and the last rank. -/
theorem ranked_extremes {sorted : List ℚ} {last : ℕ} (length : sorted.length = last + 1)
    (rising : sorted.SortedLE) :
    IsLeast {sample | sample ∈ sorted} (ranked sorted 0) ∧
      IsGreatest {sample | sample ∈ sorted} (ranked sorted last) := by
  have mono := ranked_rising rising length
  refine ⟨⟨ranked_mem (by omega), fun sample member => ?_⟩,
    ⟨ranked_mem (by omega), fun sample member => ?_⟩⟩
  · obtain ⟨rank, within, rfl⟩ := exists_rank length member
    exact mono (Nat.zero_le last) within (Nat.zero_le rank)
  · obtain ⟨rank, within, rfl⟩ := exists_rank length member
    exact mono within (Set.mem_Iic.mpr le_rfl) within

theorem mean_bounds {samples : List ℚ} {least greatest : ℚ} (nonempty : samples ≠ [])
    (below : ∀ sample ∈ samples, least ≤ sample) (above : ∀ sample ∈ samples, sample ≤ greatest) :
    least ≤ samples.sum / samples.length ∧ samples.sum / samples.length ≤ greatest := by
  have positive : (0 : ℚ) < samples.length := Nat.cast_pos.mpr (List.length_pos_iff.mpr nonempty)
  constructor
  · rw [le_div_iff₀ positive, mul_comm, ← nsmul_eq_mul]
    exact List.card_nsmul_le_sum samples _ below
  · rw [div_le_iff₀ positive, mul_comm, ← nsmul_eq_mul]
    exact List.sum_le_card_nsmul samples _ above

theorem squaredDeviationSum_eq (samples : List ℚ) (mean : ℚ) :
    squaredDeviationSum samples mean =
      (samples.map fun sample => (sample - mean) * (sample - mean)).sum := by
  rw [squaredDeviationSum, List.sum_eq_foldl, List.foldl_map]

/-! ### The summary -/

/-- What the regression script checks of a summary. -/
structure LatencySummary.Ordered (summary : LatencySummary) : Prop where
  min_le_p50 : summary.minUs ≤ summary.p50Us
  p50_le_p95 : summary.p50Us ≤ summary.p95Us
  p95_le_p99 : summary.p95Us ≤ summary.p99Us
  p99_le_max : summary.p99Us ≤ summary.maxUs
  min_le_mean : summary.minUs ≤ summary.meanUs
  mean_le_max : summary.meanUs ≤ summary.maxUs

/-- The value between the two sorted samples next to the rank. -/
def quantileOf (samples : List ℚ) (quantile : ℚ) : ℚ :=
  interpolate (ranked (samples.insertionSort (· ≤ ·))) (quantile * ((samples.length - 1 : Nat) : ℚ))

/-- What the summary says of the samples, whose order it does not look at. -/
structure LatencySummary.Describes (sqrt : ℚ → ℚ) (samples : LatencyStats)
    (summary : LatencySummary) : Prop where
  count : summary.sampleCount = samples.length
  least : IsLeast {sample | sample ∈ samples} summary.minUs
  greatest : IsGreatest {sample | sample ∈ samples} summary.maxUs
  mean : summary.meanUs = samples.sum / samples.length
  p50 : summary.p50Us = quantileOf samples (1 / 2)
  p95 : summary.p95Us = quantileOf samples (19 / 20)
  p99 : summary.p99Us = quantileOf samples (99 / 100)
  jitter : summary.jitterUs = sqrt ((samples.map fun sample =>
    (sample - summary.meanUs) * (sample - summary.meanUs)).sum / samples.length)

theorem sorted_length {samples : List ℚ} (nonempty : samples ≠ []) :
    (samples.insertionSort (· ≤ ·)).length = samples.length - 1 + 1 := by
  rw [List.length_insertionSort, Nat.sub_one_add_one (List.length_pos_iff.mpr nonempty).ne']

theorem sorted_extremes {samples : List ℚ} (nonempty : samples ≠ []) :
    IsLeast {sample | sample ∈ samples} (ranked (samples.insertionSort (· ≤ ·)) 0) ∧
      IsGreatest {sample | sample ∈ samples}
        (ranked (samples.insertionSort (· ≤ ·)) (samples.length - 1)) := by
  have members : {sample | sample ∈ samples} =
      {sample | sample ∈ samples.insertionSort (· ≤ ·)} := by
    ext sample
    exact (List.perm_insertionSort _ _).mem_iff.symm
  rw [members]
  exact ranked_extremes (sorted_length nonempty) List.sortedLE_insertionSort

theorem quantileOf_mono {samples : List ℚ} (nonempty : samples ≠ []) {low high : ℚ}
    (nonneg : 0 ≤ low) (le : low ≤ high) (le_one : high ≤ 1) :
    quantileOf samples low ≤ quantileOf samples high := by
  have last : (0 : ℚ) ≤ ((samples.length - 1 : Nat) : ℚ) := Nat.cast_nonneg _
  exact interpolate_mono (ranked_rising List.sortedLE_insertionSort (sorted_length nonempty))
    (mul_nonneg nonneg last) (mul_le_mul_of_nonneg_right le last)
    (mul_le_of_le_one_left last le_one)

/-- A quantile lies between the extremes, which are those at the ends. -/
theorem quantileOf_bounds {samples : List ℚ} (nonempty : samples ≠ []) {quantile : ℚ}
    (nonneg : 0 ≤ quantile) (le_one : quantile ≤ 1) {least greatest : ℚ}
    (least_spec : IsLeast {sample | sample ∈ samples} least)
    (greatest_spec : IsGreatest {sample | sample ∈ samples} greatest) :
    least ≤ quantileOf samples quantile ∧ quantileOf samples quantile ≤ greatest := by
  obtain ⟨first, final⟩ := sorted_extremes nonempty
  rw [least_spec.unique first, greatest_spec.unique final]
  constructor
  · calc _ = quantileOf samples 0 := by simp [quantileOf, interpolate]
      _ ≤ _ := quantileOf_mono nonempty le_rfl nonneg le_one
  · calc _ ≤ quantileOf samples 1 := quantileOf_mono nonempty nonneg le_one le_rfl
      _ = _ := by rw [quantileOf, one_mul, interpolate_natCast]

theorem snapshot_described (sqrt : ℚ → ℚ) {samples : LatencyStats} (nonempty : samples ≠ []) :
    ∃ summary, snapshot sqrt samples = some summary ∧ summary.Describes sqrt samples := by
  set sorted := samples.insertionSort (· ≤ ·) with sorted_eq
  have perm : sorted.Perm samples := List.perm_insertionSort _ _
  have length : sorted.length = samples.length - 1 + 1 := sorted_length nonempty
  have p50 := percentile_eq length (show (1 / 2 : ℚ) ≤ 1 by norm_num)
  have p95 := percentile_eq length (show (19 / 20 : ℚ) ≤ 1 by norm_num)
  have p99 := percentile_eq length (show (99 / 100 : ℚ) ≤ 1 by norm_num)
  have front : sorted.head? = some (ranked sorted 0) := by
    rw [List.head?_eq_getElem?]
    exact getElem?_ranked (by omega)
  have back : sorted.getLast? = some (ranked sorted (samples.length - 1)) := by
    rw [List.getLast?_eq_getElem?, length, Nat.add_sub_cancel]
    exact getElem?_ranked (by omega)
  have mean : sorted.foldl (· + ·) (0 : ℚ) = samples.sum :=
    List.sum_eq_foldl.symm.trans perm.sum_eq
  obtain ⟨least, greatest⟩ := sorted_extremes nonempty
  refine ⟨_, by
    rw [snapshot, if_neg (by simpa using nonempty), ← sorted_eq]
    simp only [front, back, p50, p95, p99, mean, perm.length_eq]
    rfl, rfl, least, greatest, rfl, rfl, rfl, rfl, ?_⟩
  rw [squaredDeviationSum_eq, (perm.map _).sum_eq]

theorem LatencySummary.Describes.ordered {sqrt : ℚ → ℚ} {samples : LatencyStats}
    {summary : LatencySummary} (nonempty : samples ≠ [])
    (described : summary.Describes sqrt samples) : summary.Ordered := by
  obtain ⟨min_le_mean, mean_le_max⟩ := mean_bounds nonempty (fun _ member =>
    described.least.2 member) fun _ member => described.greatest.2 member
  constructor
  · rw [described.p50]
    exact (quantileOf_bounds nonempty (by norm_num) (by norm_num) described.least
      described.greatest).1
  · rw [described.p50, described.p95]
    exact quantileOf_mono nonempty (by norm_num) (by norm_num) (by norm_num)
  · rw [described.p95, described.p99]
    exact quantileOf_mono nonempty (by norm_num) (by norm_num) (by norm_num)
  · rw [described.p99]
    exact (quantileOf_bounds nonempty (by norm_num) (by norm_num) described.least
      described.greatest).2
  · rw [described.mean]
    exact min_le_mean
  · rw [described.mean]
    exact mean_le_max

/-- The summary of any samples is found; that of none is all zero. -/
theorem snapshot_total (sqrt : ℚ → ℚ) (samples : LatencyStats) :
    ∃ summary, snapshot sqrt samples = some summary ∧ summary.Ordered ∧
      summary.sampleCount = samples.length ∧
      ((∀ variance, 0 ≤ sqrt variance) → 0 ≤ summary.jitterUs) := by
  by_cases empty : samples = []
  · subst empty
    exact ⟨{}, rfl, ⟨le_rfl, le_rfl, le_rfl, le_rfl, le_rfl, le_rfl⟩, rfl, fun _ => le_rfl⟩
  · obtain ⟨summary, found, described⟩ := snapshot_described sqrt empty
    refine ⟨summary, found, described.ordered empty, described.count, fun nonneg => ?_⟩
    rw [described.jitter]
    exact nonneg _

/-- Sorting forgets the order, and nothing else of the summary reads it. -/
theorem snapshot_perm (sqrt : ℚ → ℚ) {samples others : LatencyStats} (perm : samples.Perm others) :
    snapshot sqrt samples = snapshot sqrt others := by
  have sorted : samples.insertionSort (· ≤ ·) = others.insertionSort (· ≤ ·) := by
    apply List.Perm.eq_of_sortedLE List.sortedLE_insertionSort List.sortedLE_insertionSort
    exact (List.perm_insertionSort _ _).trans (perm.trans (List.perm_insertionSort _ _).symm)
  have empty : samples.isEmpty = others.isEmpty := perm.isEmpty_eq
  rw [snapshot, snapshot, sorted, empty, perm.length_eq]

/-! ### The samples that were added -/

/-- The sample that a value stands for, if it is finite and not negative. -/
def Double.sample? : Double → Option ℚ
  | .finite value => if value < 0 then none else some value
  | .notFinite => none

theorem addSampleUs_eq (samples : LatencyStats) (value : Double) :
    addSampleUs samples value = samples ++ value.sample?.toList := by
  cases value with
  | finite value =>
    rw [addSampleUs, Double.sample?]
    split <;> simp
  | notFinite => simp [addSampleUs, Double.sample?]

theorem foldl_addSampleUs (values : List Double) (samples : LatencyStats) :
    values.foldl addSampleUs samples = samples ++ values.filterMap Double.sample? := by
  induction values generalizing samples with
  | nil => simp
  | cons value values ih =>
    rw [List.foldl_cons, ih, addSampleUs_eq, List.append_assoc, List.filterMap_cons]
    cases value.sample? <;> rfl

/-- A finite value that is not negative. -/
def Double.usable : Double → Bool
  | .finite value => 0 ≤ value
  | .notFinite => false

theorem Double.sample?_isSome (value : Double) : value.sample?.isSome = value.usable := by
  cases value with
  | finite value =>
    rw [Double.sample?, Double.usable]
    split
    next negative => simp [negative]
    next nonneg => simpa using nonneg
  | notFinite => rfl

/-- A summary exists, so every lookup behind it was in range. -/
theorem snapshot_added (sqrt : ℚ → ℚ) (values : List Double)
    (accepted : values.foldl addSampleUs [] ≠ []) :
    ∃ summary, snapshot sqrt (values.foldl addSampleUs []) = some summary ∧ summary.Ordered
      ∧ summary.sampleCount = values.countP Double.usable
      ∧ (∀ reordered : List Double, reordered.Perm values →
        snapshot sqrt (reordered.foldl addSampleUs []) = some summary)
      ∧ summary.Describes sqrt (values.filterMap Double.sample?) := by
  obtain ⟨summary, result, described⟩ := snapshot_described sqrt accepted
  have samples : values.foldl addSampleUs [] = values.filterMap Double.sample? := by
    rw [foldl_addSampleUs, List.nil_append]
  refine ⟨summary, result, described.ordered accepted, ?_, ?_, samples ▸ described⟩
  · rw [described.count, foldl_addSampleUs, List.nil_append, List.length_filterMap_eq_countP]
    simp only [Double.sample?_isSome]
  · intro reordered perm
    rw [← result]
    apply snapshot_perm
    rw [foldl_addSampleUs, foldl_addSampleUs]
    exact perm.filterMap _

theorem snapshot_added_two_usable :
    ∃ summary, snapshot id ([.finite 30, .notFinite, .finite 10, .finite (-1)].foldl addSampleUs [])
        = some summary ∧ summary.Ordered
      ∧ summary.sampleCount
        = [.finite 30, .notFinite, .finite 10, .finite (-1)].countP Double.usable
      ∧ (∀ reordered : List Double,
        reordered.Perm [.finite 30, .notFinite, .finite 10, .finite (-1)] →
          snapshot id (reordered.foldl addSampleUs []) = some summary)
      ∧ summary.Describes id
        ([.finite 30, .notFinite, .finite 10, .finite (-1)].filterMap Double.sample?) :=
  snapshot_added id [.finite 30, .notFinite, .finite 10, .finite (-1)] (by decide)

end V4l2Capture.Stats
