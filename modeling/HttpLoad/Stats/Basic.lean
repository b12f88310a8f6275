import HttpLoad.Json.Basic

/-!
# Statistics of samples

Latencies are summed up in ascending order, so the result does not depend on the order in which
requests were finished. Sizes are summed up as they come.

## Main definitions

* `RankArithmetic`: the operations that ranks are computed with
* `Rank.of`: the rank of a percentile among a number of samples
* `percentile`: the value at that rank
* `mean`, `deviation`: the average, and the spread around it
* `twoPlaces`: a double rounded to two decimal places
* `ascending`: samples in the total order
* `LatencyStats`, `SizeStats`: the statistics of a report
-/

namespace HttpLoad

/-!
## Percentiles

A percentile of ascending samples stands at a rank: on one sample, or between two neighbours, whose
values are then weighted by the distance to the other one. Ranks are computed in the arithmetic of
the samples, so the definitions are stated for any numbers that have the operations; over doubles
each operation rounds, over the rationals none does.
-/

/-- **The operations that ranks are computed with.** -/
class RankArithmetic (α : Type) where
  ofNat : Nat → α
  add : α → α → α
  sub : α → α → α
  mul : α → α → α
  div : α → α → α
  floor : α → α
  ceil : α → α
  atMost : α → α → Bool
  same : α → α → Bool
  /-- The index that a whole number stands for. -/
  index : α → Nat

instance : RankArithmetic Double where
  ofNat := Double.ofNat
  add := Double.add
  sub x y := x - y
  mul := Double.mul
  div := Double.div
  floor := Double.floor
  ceil := Double.ceil
  atMost := Double.atMost
  same := Double.sameValue
  index := Double.truncate

/-- **A rank among samples**: on one of them, or between two with a weight for each. -/
inductive Rank (α : Type) where
  | on (index : Nat)
  | between (lower upper : Nat) (lowerWeight upperWeight : α)

namespace Rank

variable {α : Type} [RankArithmetic α]

open RankArithmetic

/-- The position of `p` percent among `n` samples, counted from zero. -/
def position (n : Nat) (p : α) : α := mul (ofNat (n - 1)) (div p (ofNat 100))

/-- The rank at a position: on a sample if the position is whole. -/
def atPosition (k : α) : Rank α :=
  if same (floor k) (ceil k) then .on (index k)
  else .between (index (floor k)) (index (ceil k)) (sub (ceil k) k) (sub k (floor k))

/-- The rank of `p` percent among `n` samples. Zero and less is the first sample, a hundred and
more the last. -/
def of (n : Nat) (p : α) : Rank α :=
  if atMost p (ofNat 0) then .on 0
  else if atMost (ofNat 100) p then .on (n - 1)
  else .atPosition (position n p)

/-- The value at a rank, if the samples it refers to are there. -/
def value? (samples : List α) : Rank α → Option α
  | on i => samples[i]?
  | between i j wi wj =>
    match samples[i]?, samples[j]? with
    | some x, some y => some (add (mul x wi) (mul y wj))
    | _, _ => none

/-- The samples that a rank refers to. -/
def indices : Rank α → List Nat
  | on i => [i]
  | between i j _ _ => [i, j]

end Rank

/-- **The percentile** `p` of ascending samples; zero if there are none. -/
def percentile [RankArithmetic α] (samples : List α) (p : α) : α :=
  ((Rank.of samples.length p).value? samples).getD (RankArithmetic.ofNat 0)

/-! ## Sums and statistics -/

/-- The average; zero if there are no values. -/
def mean (values : List Double) : Double :=
  if values.isEmpty then Double.zero else Double.sum values / Double.ofNat values.length

/-- The standard deviation of a whole population; zero below two values. -/
def deviation (values : List Double) : Double :=
  if values.length < 2 then Double.zero
  else
    let m := mean values
    (Double.sum (values.map fun v => (v - m) * (v - m)) / Double.ofNat values.length).sqrt

/-- A hundred. -/
def hundred : Double := Double.ofNat 100

/-- **Two decimal places**: the hundredths rounded to a whole number, a half away from zero. -/
def twoPlaces (x : Double) : Double := (x * hundred).roundHalfAway / hundred

/-- Values in the total order of doubles. -/
def ascending (values : List Double) : List Double := values.mergeSort Double.totalLe

/-- A double as it is written in a report. -/
def roundedReal (x : Double) : Json := .real (twoPlaces x)

/-- **The distribution of latencies**, in milliseconds. -/
structure LatencyStats where
  min : Double
  avg : Double
  median : Double
  p90 : Double
  p95 : Double
  p99 : Double
  max : Double
  stdev : Double
deriving DecidableEq

namespace LatencyStats

/-- The statistics of samples that are in ascending order already. -/
def ofAscending (values : List Double) : LatencyStats where
  min := values.head?.getD Double.zero
  avg := mean values
  median := percentile values (Double.ofNat 50)
  p90 := percentile values (Double.ofNat 90)
  p95 := percentile values (Double.ofNat 95)
  p99 := percentile values (Double.ofNat 99)
  max := values.getLast?.getD Double.zero
  stdev := deviation values

/-- **The statistics of samples** in any order. -/
def ofSamples (samples : List Double) : LatencyStats := ofAscending (ascending samples)

def toJson (s : LatencyStats) : Json :=
  .object [
    ("min", roundedReal s.min),
    ("avg", roundedReal s.avg),
    ("median", roundedReal s.median),
    ("p90", roundedReal s.p90),
    ("p95", roundedReal s.p95),
    ("p99", roundedReal s.p99),
    ("max", roundedReal s.max),
    ("stdev", roundedReal s.stdev)]

end LatencyStats

/-- **The distribution of sizes**, in bytes. -/
structure SizeStats where
  min : Nat
  avg : Double
  max : Nat
deriving DecidableEq

namespace SizeStats

/-- The statistics of sizes; each is made a double before it is added. -/
def ofSizes (sizes : List Nat) : SizeStats where
  min := sizes.min?.getD 0
  avg := mean (sizes.map Double.ofNat)
  max := sizes.max?.getD 0

def toJson (s : SizeStats) : Json :=
  .object [("min", .count s.min), ("avg", roundedReal s.avg), ("max", .count s.max)]

end SizeStats

end HttpLoad
