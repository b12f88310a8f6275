import HttpLoad.Proofs.Report.Histogram
import HttpLoad.Proofs.Stats.Rank

/-!
# Every sample that is asked for is there

A percentile reads the samples around its position. The position is rounded twice, and is no number
at all if the percentile is none; its whole parts are cut down to indices without a check. Here the
reads are checked, and so are the difference and the counts of a report, which must fit 64 bits. No
check ever fails: the results are those of the definitions without checks.

## Main definitions

* `percentile?`: a percentile, if the samples that it reads are there
* `Histogram.ofNames?`: how often each name occurs, if the counts fit 64 bits
* `LatencyStats.ofSamples?`, `Report.ofSamples?`: statistics, if nothing in them fails

## Main results

* `Rank.truncate_position_lt`: the indices around a position are those of samples
* `Rank.exists_value`: at indices of samples, a rank has a value
* `percentile_reads_in_bounds`: no check fails
-/

namespace HttpLoad

open Double

/-! ## Checked statistics -/

/-- **A percentile**, if every sample that it reads is there; zero if there are no samples. -/
def percentile? (samples : List Double) (p : Double) : Option Double :=
  if samples.isEmpty then some (Double.ofNat 0) else (Rank.of samples.length p).value? samples

/-- **The distribution of latencies**, if every sample that a percentile reads is there. -/
def LatencyStats.ofSamples? (samples : List Double) : Option LatencyStats := do
  let values := HttpLoad.ascending samples
  let median ← percentile? values (Double.ofNat 50)
  let p90 ← percentile? values (Double.ofNat 90)
  let p95 ← percentile? values (Double.ofNat 95)
  let p99 ← percentile? values (Double.ofNat 99)
  some { LatencyStats.ofAscending values with median, p90, p95, p99 }

/-- The difference of two counts, if it is one. -/
def difference? (m n : Nat) : Option Nat := if n ≤ m then some (m - n) else none

namespace Histogram

/-- One more under a name, if the count then still fits 64 bits. -/
def bump? (h : Histogram) (name : String) : Option Histogram :=
  if h.count name + 1 < Nat.pow 2 64 then some (h.bump name) else none

/-- **How often each name occurs**, if the counts fit 64 bits all along. -/
def ofNames? (names : List String) : Option Histogram := names.foldlM bump? []

end Histogram

/-- **The report of a run**, if nothing fails while it is put together. -/
def Report.ofSamples? (samples : List Sample) (wall : WallTime) : Option Report := do
  let failures ← difference? samples.length (successes samples).length
  let latency ← LatencyStats.ofSamples? (samples.map Sample.latency)
  let statuses ← Histogram.ofNames? (samples.map Sample.statusKey)
  let causes ← Histogram.ofNames? (samples.filterMap Sample.cause?)
  let report := Report.ofSamples samples wall
  some { report with summary := { report.summary with failures }, latency, statuses, causes }

/-! ## The indices around a position -/

namespace Rank

section

variable {n : Nat} {p k : Double}

theorem truncate_of_isNaN (hk : k.isNaN = true) : k.truncate = 0 := by
  simp only [truncate, hk, Bool.true_or, if_true]

/-- No number has no whole number below or above it, and stays what it is. -/
theorem mapWhole_of_isNaN (whole : Nat → Nat → Nat) (hk : k.isNaN = true) :
    k.mapWhole whole = k := by
  refine if_neg fun hfinite => ?_
  rw [not_isNaN_of_isFinite hfinite] at hk
  cases hk

/-- A percentile that is no number has a position that is none. -/
theorem isNaN_position (n : Nat) (hp : p.isNaN = true) : (position n p).isNaN = true := by
  have hpart : (p / Double.ofNat 100) = Double.nan := by
    refine if_pos ?_
    rw [hp, Bool.true_or]
  have hproduct : position n p = Double.nan := by
    have hnan : Double.nan.isNaN = true := rfl
    have hor : ((Double.ofNat (n - 1)).isNaN || Double.nan.isNaN) = true := by
      rw [hnan, Bool.or_true]
    rw [position_eq, hpart]
    exact if_pos hor
  rw [hproduct]
  rfl

/-- **The indices around a position are those of samples**, whether or not it is a number. -/
theorem truncate_position_lt (hpos : 0 < n) (hn : n - 1 ≤ 2 ^ 53)
    (hzero : p.atMost (Double.ofNat 0) = false) (hhundred : (Double.ofNat 100).atMost p = false) :
    (position n p).truncate < n ∧ (position n p).floor.truncate < n ∧
      (position n p).ceil.truncate < n := by
  cases hp : p.isNaN with
  | true =>
    have hk := isNaN_position n hp
    rw [floor, ceil, mapWhole_of_isNaN _ hk, mapWhole_of_isNaN _ hk, truncate_of_isNaN hk]
    exact ⟨hpos, hpos, hpos⟩
  | false =>
    obtain ⟨-, hneg, hfinite, hle⟩ := (inside_of hp hzero hhundred).position hn
    have hbelow : (position n p).units / one ≤ n - 1 :=
      Nat.div_le_of_le_mul (by rwa [Nat.mul_comm])
    have habove : ((position n p).units + (one - 1)) / one ≤ n - 1 := by
      have honeunits := oneUnits_pos
      refine Nat.le_of_lt_succ ((Nat.div_lt_iff_lt_mul honeunits).mpr ?_)
      rw [Nat.succ_mul]
      omega
    rw [truncate_of_units_le hn hfinite hneg hle, floor_eq_ofNat hfinite hneg,
      ceil_eq_ofNat hfinite hneg, truncate_ofNat (hbelow.trans hn),
      truncate_ofNat (habove.trans hn)]
    omega

/-- **A rank reads samples that are there.** -/
theorem indices_lt (hpos : 0 < n) (hn : n - 1 ≤ 2 ^ 53) (p : Double) :
    ∀ i ∈ (Rank.of n p).indices, i < n := by
  intro i hi
  rw [of_eq_ite] at hi
  split at hi
  next =>
    rw [indices, List.mem_singleton] at hi
    omega
  next hzero =>
    split at hi
    next =>
      rw [indices, List.mem_singleton] at hi
      omega
    next hhundred =>
      obtain ⟨hwhole, hlower, hupper⟩ :=
        truncate_position_lt hpos hn (by simpa using hzero) (by simpa using hhundred)
      rw [atPosition_eq] at hi
      split at hi
      next =>
        rw [indices, List.mem_singleton] at hi
        exact hi ▸ hwhole
      next =>
        rw [indices, List.mem_pair] at hi
        rcases hi with hi | hi
        · exact hi ▸ hlower
        · exact hi ▸ hupper

/-- **At indices of samples a rank has a value.** -/
theorem exists_value {samples : List Double} {r : Rank Double}
    (hr : ∀ i ∈ r.indices, i < samples.length) : ∃ x, r.value? samples = some x := by
  cases r with
  | on i =>
    have hi := hr i (List.mem_singleton_self i)
    exact ⟨_, List.getElem?_eq_getElem hi⟩
  | between i j lower upper =>
    have hi := hr i List.mem_cons_self
    have hj := hr j (List.mem_cons_of_mem i (List.mem_singleton_self j))
    refine ⟨RankArithmetic.add (RankArithmetic.mul samples[i] lower)
      (RankArithmetic.mul samples[j] upper), ?_⟩
    simp only [value?, List.getElem?_eq_getElem hi, List.getElem?_eq_getElem hj]

end

end Rank

/-! ## No check fails -/

/-- A percentile finds all samples that it reads. -/
theorem percentile?_eq {samples : List Double} (hlength : samples.length ≤ 2 ^ 53) (p : Double) :
    percentile? samples p = some (percentile samples p) := by
  rw [percentile?]
  split
  next hempty =>
    have hnone : percentile ([] : List Double) p = Double.ofNat 0 := by
      rw [percentile]
      cases Rank.of ([] : List Double).length p with
      | on i => rfl
      | between i j lower upper => rfl
    rw [List.isEmpty_iff.mp hempty, hnone]
  next hne =>
    have hpos : 0 < samples.length :=
      List.length_pos_iff.mpr fun hnil => hne (List.isEmpty_iff.mpr hnil)
    obtain ⟨x, hx⟩ := Rank.exists_value (Rank.indices_lt hpos (by omega) p)
    rw [percentile, hx, Option.getD_some]

theorem LatencyStats.ofSamples?_eq {samples : List Double} (hlength : samples.length ≤ 2 ^ 53) :
    LatencyStats.ofSamples? samples = some (LatencyStats.ofSamples samples) := by
  have hvalues : (HttpLoad.ascending samples).length ≤ 2 ^ 53 := by
    rwa [HttpLoad.ascending, List.length_mergeSort]
  simp only [LatencyStats.ofSamples?, percentile?_eq hvalues, Option.bind_eq_bind,
    Option.bind_some]
  rfl

/-- The counts of fewer than `2 ^ 64` names fit 64 bits. -/
theorem Histogram.ofNames?_eq {names : List String} (hlength : names.length < Nat.pow 2 64) :
    Histogram.ofNames? names = some (Histogram.ofNames names) := by
  -- from the end, so that the induction is over what has been counted
  induction names using List.reverseRecOn with
  | nil => rfl
  | append_singleton names name ih =>
    rw [List.length_append, List.length_singleton] at hlength
    have hcount : (Histogram.ofNames names).count name ≤ names.length :=
      (Histogram.count_ofNames names name).trans_le List.count_le_length
    have hfits : (Histogram.ofNames names).count name + 1 < Nat.pow 2 64 :=
      (Nat.succ_le_succ hcount).trans_lt hlength
    have hbefore := ih (Nat.lt_of_succ_lt hlength)
    rw [Histogram.ofNames?] at hbefore ⊢
    rw [List.foldlM_append, hbefore, Histogram.ofNames_snoc, Option.bind_eq_bind, Option.bind_some,
      List.foldlM_cons, Histogram.bump?, if_pos hfits]
    rfl

theorem Report.ofSamples?_eq {samples : List Sample} (hlength : samples.length ≤ 2 ^ 53)
    (wall : WallTime) : Report.ofSamples? samples wall = some (Report.ofSamples samples wall) := by
  have hlimit : (2 : Nat) ^ 53 < Nat.pow 2 64 := by decide
  have hdifference : difference? samples.length (successes samples).length =
      some (samples.length - (successes samples).length) :=
    if_pos (List.length_filter_le _ _)
  have hlatency : LatencyStats.ofSamples? (samples.map Sample.latency) =
      some (LatencyStats.ofSamples (samples.map Sample.latency)) := by
    apply LatencyStats.ofSamples?_eq
    rwa [List.length_map]
  have hstatuses : Histogram.ofNames? (samples.map Sample.statusKey) =
      some (Histogram.ofNames (samples.map Sample.statusKey)) := by
    apply Histogram.ofNames?_eq
    rw [List.length_map]
    exact hlength.trans_lt hlimit
  have hcauses : Histogram.ofNames? (samples.filterMap Sample.cause?) =
      some (Histogram.ofNames (samples.filterMap Sample.cause?)) := by
    apply Histogram.ofNames?_eq
    exact (List.length_filterMap_le _ _).trans_lt (hlength.trans_lt hlimit)
  simp only [Report.ofSamples?, hdifference, hlatency, hstatuses, hcauses, Option.bind_eq_bind,
    Option.bind_some, Report.ofSamples]

/-- **No read of a percentile is out of bounds.** Of up to `2 ^ 53` samples in any order, whatever
they are, the indices that any percentile between zero and a hundred is cut down to are those of
samples, and so are those of a percentile that is no number. Therefore percentiles, statistics and
reports are always found, and are those without checks. -/
theorem percentile_reads_in_bounds {samples : List Double} (hlength : samples.length ≤ 2 ^ 53) :
    (∀ p : Double, samples ≠ [] → p.atMost (Double.ofNat 0) = false →
      (Double.ofNat 100).atMost p = false →
      (Rank.position samples.length p).truncate < samples.length ∧
      (Rank.position samples.length p).floor.truncate < samples.length ∧
      (Rank.position samples.length p).ceil.truncate < samples.length) ∧
    (∀ p : Double, samples ≠ [] → ∀ i ∈ (Rank.of samples.length p).indices, i < samples.length) ∧
    (∀ p : Double, percentile? samples p = some (percentile samples p)) ∧
    LatencyStats.ofSamples? samples = some (LatencyStats.ofSamples samples) ∧
    ∀ (requests : List Sample) (wall : WallTime), requests.length ≤ 2 ^ 53 →
      Report.ofSamples? requests wall = some (Report.ofSamples requests wall) := by
  have hn : samples.length - 1 ≤ 2 ^ 53 := by omega
  refine ⟨?_, ?_, ?_, ?_, ?_⟩
  · intro p hne hzero hhundred
    exact Rank.truncate_position_lt (List.length_pos_iff.mpr hne) hn hzero hhundred
  · intro p hne
    exact Rank.indices_lt (List.length_pos_iff.mpr hne) hn p
  · exact percentile?_eq hlength
  · exact LatencyStats.ofSamples?_eq hlength
  · intro requests wall hrequests
    exact Report.ofSamples?_eq hrequests wall

/-- Two samples out of order have a percentile even where what is asked for is no number, and a
report of one failed request is complete. -/
theorem percentile_reads_in_bounds_nan :
    percentile? [Double.ofNat 2, Double.zero] Double.nan =
        some (percentile [Double.ofNat 2, Double.zero] Double.nan) ∧
      Report.ofSamples? [⟨Double.nan, .failed .timeout⟩] ⟨1, 0⟩ =
        some (Report.ofSamples [⟨Double.nan, .failed .timeout⟩] ⟨1, 0⟩) := by
  have hlength : [Double.ofNat 2, Double.zero].length ≤ 2 ^ 53 := by decide
  have hreads := percentile_reads_in_bounds hlength
  exact ⟨hreads.2.2.1 Double.nan,
    hreads.2.2.2.2 [⟨Double.nan, .failed .timeout⟩] ⟨1, 0⟩ (by decide)⟩

end HttpLoad
