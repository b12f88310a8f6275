import HttpLoad.Proofs.Report.Histogram
import HttpLoad.Report.Posting

/-!
# Reports and their samples

What a report keeps of the order in which requests are finished, and how a report of posted bills
agrees with its samples.

## Main definitions

* `Sample.created`: whether a sample created a bill
* `creations`: the positions of the samples that created one
* `statusCountName status`: the name under which a report counts a status

## Main results

* `ascending_congr`: the ascending order of samples is one and the same for every order of them
* `Report.ofSamples_perm`: what two orders of the same samples have in common
* `createdIds_eq_creations`: the listed ids are those at the positions, in their order
* `PostReport.of_agrees`: a report of posted bills agrees with its samples
-/

namespace HttpLoad

/-!
## The order of completion

Requests are finished in any order, and samples are reported in the order in which they are
finished. A report does not show it: latencies are put into the total order of doubles before
anything is computed from them, and the rest of a report is made of counts and extremes. Only the
ids of created bills stay in their order.
-/

section

open scoped List

/-! ### The total order of doubles -/

theorem Double.totalLe_iff {x y : Double} : x.totalLe y = true ↔ x.totalKey ≤ y.totalKey :=
  decide_eq_true_iff

theorem ascending_perm (values : List Double) : ascending values ~ values :=
  List.mergeSort_perm values _

theorem pairwise_ascending (values : List Double) :
    (ascending values).Pairwise fun x y => x.totalKey ≤ y.totalKey := by
  have hsorted : (ascending values).Pairwise fun x y => x.totalLe y = true := by
    refine List.pairwise_mergeSort (fun x y z hxy hyz => ?_) (fun x y => ?_) values
    · rw [Double.totalLe_iff] at hxy hyz ⊢
      exact hxy.trans hyz
    · rw [Bool.or_eq_true, Double.totalLe_iff, Double.totalLe_iff]
      exact le_total ..
  exact hsorted.imp Double.totalLe_iff.mp

/-- **One ascending order**: doubles at one place of the total order are the same, bit for bit, so
the order in which they came is lost. -/
theorem ascending_congr {values others : List Double} (h : values ~ others) :
    ascending values = ascending others := by
  have hperm : ascending values ~ ascending others :=
    (ascending_perm values).trans (h.trans (ascending_perm others).symm)
  refine hperm.eq_of_pairwise (fun x y _ _ hxy hyx => ?_) (pairwise_ascending values)
    (pairwise_ascending others)
  exact Double.eq_of_totalKey_eq (le_antisymm hxy hyx)

theorem LatencyStats.ofSamples_congr {values others : List Double} (h : values ~ others) :
    ofSamples values = ofSamples others :=
  congrArg ofAscending (ascending_congr h)

/-! ### Counts and extremes -/

theorem Histogram.ofNames_perm_congr {names others : List String} (h : names ~ others) :
    ofNames names = ofNames others :=
  ofNames_congr fun name => h.count_eq name

theorem min?_congr {sizes others : List Nat} (h : sizes ~ others) : sizes.min? = others.min? := by
  refine Option.ext fun n => ?_
  simp only [List.min?_eq_some_iff, h.mem_iff]

theorem max?_congr {sizes others : List Nat} (h : sizes ~ others) : sizes.max? = others.max? := by
  refine Option.ext fun n => ?_
  simp only [List.max?_eq_some_iff, h.mem_iff]

/-! ### Reports -/

variable {samples others : List Sample}

theorem successes_perm (h : samples ~ others) : successes samples ~ successes others :=
  h.filter _

theorem createdIds_perm (h : samples ~ others) : createdIds samples ~ createdIds others :=
  (successes_perm h).filterMap _

namespace Report

theorem summary_congr (h : samples ~ others) (wall : WallTime) :
    (ofSamples samples wall).summary = (ofSamples others wall).summary := by
  have htotal : samples.length = others.length := h.length_eq
  have hgood : (successes samples).length = (successes others).length :=
    (successes_perm h).length_eq
  simp only [ofSamples, htotal, hgood]

/-- **The order of completion does not show.** Two orders of the same samples have one summary, one
distribution of latencies, one least and one greatest size, and one histogram of statuses and one of
causes, bit for bit. The created ids are the same in some order, so what a report of posted bills
counts is the same. -/
theorem ofSamples_perm (h : samples ~ others) (wall : WallTime) :
    let r := ofSamples samples wall
    let r' := ofSamples others wall
    r.summary = r'.summary ∧ r.latency = r'.latency ∧
      r.sizes.min = r'.sizes.min ∧ r.sizes.max = r'.sizes.max ∧
      r.statuses = r'.statuses ∧ r.causes = r'.causes ∧
      createdIds samples ~ createdIds others ∧
      ∀ target parameters cleanup,
        let p := PostReport.of target parameters samples wall cleanup
        let p' := PostReport.of target parameters others wall cleanup
        p.createdCount = p'.createdCount ∧ p.createdRate = p'.createdRate ∧
          ∀ status, p.statusCount status = p'.statusCount status := by
  intro r r'
  have hsummary : r.summary = r'.summary := summary_congr h wall
  have hsizes : (successes samples).map Sample.bytes ~ (successes others).map Sample.bytes :=
    (successes_perm h).map _
  have hstatuses : r.statuses = r'.statuses := Histogram.ofNames_perm_congr (h.map _)
  refine ⟨hsummary, LatencyStats.ofSamples_congr (h.map _), ?_, ?_, hstatuses,
    Histogram.ofNames_perm_congr (h.filterMap _), createdIds_perm h,
    fun target parameters cleanup => ?_⟩
  · exact congrArg (Option.getD · 0) (min?_congr hsizes)
  · exact congrArg (Option.getD · 0) (max?_congr hsizes)
  · intro p p'
    have hcount : p.createdCount = p'.createdCount := (createdIds_perm h).length_eq
    have htotal : p.report.summary.total = p'.report.summary.total :=
      congrArg Summary.total hsummary
    refine ⟨hcount, ?_, fun status => congrArg (Histogram.count · _) hstatuses⟩
    rw [PostReport.createdRate, PostReport.createdRate, hcount, htotal]

/-- Two samples whose latencies no comparison of numbers tells from others: a zero with a sign, and
a NaN with a payload. -/
def unequalSamples : List Sample := [
  ⟨Double.negativeZero, .response 201 17 (some 1)⟩,
  ⟨⟨true, Double.infinityMagnitude + 5, by decide⟩, .response 200 3 (some 2)⟩]

theorem ofSamples_perm_unequal :
    unequalSamples.reverse ~ unequalSamples ∧
      createdIds unequalSamples.reverse ≠ createdIds unequalSamples ∧
      (ofSamples unequalSamples.reverse ⟨1, 0⟩).latency =
        (ofSamples unequalSamples ⟨1, 0⟩).latency := by
  have hperm : unequalSamples.reverse ~ unequalSamples := List.reverse_perm _
  exact ⟨hperm, by decide, (ofSamples_perm hperm ⟨1, 0⟩).2.1⟩

end Report

end

/-!
## Reports of bill-posting runs

A report of posted bills is made of a report of the run and of the ids that were created. Its counts
of single statuses are looked up in a histogram, by name, and the ids are listed in a pass of their
own. Both agree with the samples and with the summary of the run, whose sections are written as they
are.
-/

/-- Whether a sample created a bill: it is a success and carries an id. -/
def Sample.created (s : Sample) : Bool := s.succeeded && s.createdId?.isSome

/-- The id that the sample at a position carries, if there is one. -/
def idAt? (samples : List Sample) (i : Nat) : Option Int := samples[i]?.bind Sample.createdId?

/-- **The positions of the samples that created a bill**, from the first one on. -/
def creations (samples : List Sample) : List Nat :=
  (List.range samples.length).filter fun i => samples[i]?.any Sample.created

/-! ### The created ids -/

theorem createdIds_snoc (samples : List Sample) (s : Sample) :
    createdIds (samples ++ [s]) =
      createdIds samples ++ (if s.succeeded then s.createdId?.toList else []) := by
  rw [createdIds, createdIds, successes, successes, List.filter_append, List.filterMap_append]
  cases hok : s.succeeded <;> cases hid : s.createdId? <;> simp [hok, hid]

theorem creations_snoc (samples : List Sample) (s : Sample) :
    creations (samples ++ [s]) =
      creations samples ++ (if s.created then [samples.length] else []) := by
  have hbefore : ∀ i ∈ List.range samples.length,
      (samples ++ [s])[i]?.any Sample.created = samples[i]?.any Sample.created := fun i hi => by
    rw [List.getElem?_append_left (List.mem_range.mp hi)]
  rw [creations, List.length_append, List.length_singleton, List.range_succ, List.filter_append,
    List.filter_congr hbefore]
  cases hs : s.created <;> simp [creations, hs]

theorem lt_length_of_mem_creations {samples : List Sample} {i : Nat} (h : i ∈ creations samples) :
    i < samples.length :=
  List.mem_range.mp (List.mem_of_mem_filter h)

/-- The positions are those of successes that carry an id, and no others. -/
theorem mem_creations_iff {samples : List Sample} {i : Nat} :
    i ∈ creations samples ↔
      ∃ s, samples[i]? = some s ∧ s.succeeded = true ∧ s.createdId?.isSome := by
  rw [creations, List.mem_filter, List.mem_range, Option.any_eq_true]
  simp only [Sample.created, Bool.and_eq_true]
  constructor
  · exact fun ⟨_, h⟩ => h
  · rintro ⟨s, hs, h⟩
    exact ⟨(List.getElem?_eq_some_iff.mp hs).1, s, hs, h⟩

theorem pairwise_creations (samples : List Sample) : (creations samples).Pairwise (· < ·) :=
  List.pairwise_lt_range.filter _

/-- **The listed ids are those at the positions**, in the order of the samples. -/
theorem createdIds_eq_creations (samples : List Sample) :
    (createdIds samples).map some = (creations samples).map (idAt? samples) := by
  -- samples arrive at the end, where they disturb no position before
  induction samples using List.reverseRecOn with
  | nil => rfl
  | append_singleton samples s ih =>
    have hbefore : ∀ i ∈ creations samples, idAt? samples i = idAt? (samples ++ [s]) i := by
      intro i hi
      rw [idAt?, idAt?, List.getElem?_append_left (lt_length_of_mem_creations hi)]
    have hlast : idAt? (samples ++ [s]) samples.length = s.createdId? := by
      rw [idAt?, List.getElem?_concat_length, Option.bind_some]
    rw [createdIds_snoc, creations_snoc, List.map_append, List.map_append, ih,
      List.map_congr_left hbefore]
    refine congrArg _ ?_
    cases hok : s.succeeded <;> cases hid : s.createdId? <;> simp [Sample.created, hok, hid, hlast]

theorem length_createdIds (samples : List Sample) :
    (createdIds samples).length = samples.countP Sample.created := by
  rw [createdIds, successes, List.length_filterMap_eq_countP, List.countP_filter]
  exact List.countP_congr fun s _ => by rw [Sample.created, Bool.and_comm]

/-! ### The counts of single statuses -/

/-- The samples with a status. -/
def withStatus (samples : List Sample) (status : Nat) : Nat :=
  samples.countP fun s => s.status? == some status

/-- What is counted under the name of a status is the samples with it. -/
theorem count_statuses (samples : List Sample) (wall : WallTime) (status : Nat) :
    (Report.ofSamples samples wall).statuses.count (statusName status) =
      withStatus samples status := by
  change (Histogram.ofNames (samples.map Sample.statusKey)).count (statusName status) = _
  rw [Histogram.count_ofNames, Report.count_statusKeys]
  refine List.countP_congr fun s _ => ?_
  rw [beq_iff_eq, beq_iff_eq, Sample.statusKey_eq_statusName_iff]

theorem Sample.succeeded_of_status? {s : Sample} {status : Nat} (h : s.status? = some status) :
    s.succeeded = isSuccess status := by
  cases hs : s.outcome with
  | response other bytes id =>
    simp only [status?, hs, Option.some.injEq] at h
    simp only [succeeded, hs, h]
  | failed why => simp [status?, hs] at h

/-- Of a status of the class 2xx there are at most as many samples as successes. -/
theorem withStatus_le_successes (samples : List Sample) {status : Nat}
    (hok : isSuccess status = true) :
    withStatus samples status ≤ samples.countP Sample.succeeded := by
  refine List.countP_mono_left fun s _ hs => ?_
  rw [Sample.succeeded_of_status? (beq_iff_eq.mp hs)]
  exact hok

/-- Two properties that exclude each other are counted together. -/
theorem countP_add_countP_of_disjoint {α : Type} {p q : α → Bool} {as : List α}
    (h : ∀ a ∈ as, p a = true → q a = false) :
    as.countP p + as.countP q = as.countP fun a => p a || q a := by
  induction as with
  | nil => rfl
  | cons a as ih =>
    obtain ⟨ha, has⟩ := List.forall_mem_cons.mp h
    rw [List.countP_cons, List.countP_cons, List.countP_cons, ← ih has]
    cases hp : p a with
    | true =>
      rw [ha hp]
      simp only [Bool.or_false, if_true, Bool.false_eq_true, if_false]
      omega
    | false =>
      simp only [Bool.false_or, Bool.false_eq_true, if_false]
      omega

/-- A sample has one status, so different statuses share no sample. -/
theorem sum_withStatus (samples : List Sample) {statuses : List Nat} (hnodup : statuses.Nodup) :
    (statuses.map (withStatus samples)).sum =
      samples.countP fun s => statuses.any fun status => s.status? == some status := by
  induction statuses with
  | nil => simp
  | cons status statuses ih =>
    obtain ⟨hnot, hnodup⟩ := List.nodup_cons.mp hnodup
    rw [List.map_cons, List.sum_cons, ih hnodup, withStatus]
    refine countP_add_countP_of_disjoint fun s _ hs => List.any_eq_false.mpr fun other hother => ?_
    rw [beq_iff_eq.mp hs]
    simpa using fun heq : status = other => hnot (heq ▸ hother)

/-- **Of different statuses that are no successes** there are together at most as many samples as
failures. -/
theorem sum_withStatus_le (samples : List Sample) (statuses : List Nat) (hnodup : statuses.Nodup)
    (hno : ∀ status ∈ statuses, isSuccess status = false) :
    (statuses.map (withStatus samples)).sum ≤ samples.countP fun s => ¬ s.succeeded = true := by
  rw [sum_withStatus samples hnodup]
  refine List.countP_mono_left fun s _ hs => ?_
  obtain ⟨status, hstatus, hs⟩ := List.any_eq_true.mp hs
  rw [Sample.succeeded_of_status? (beq_iff_eq.mp hs), hno status hstatus]
  rfl

/-! ### The report as a whole -/

/-- The name under which a report of posted bills counts a status. -/
def statusCountName (status : Nat) : String := "http_" ++ statusName status ++ "_count"

/-- The statuses that a report of posted bills counts one by one. -/
def countedStatuses : List Nat := [201, 409, 400, 500]

namespace PostReport

/-- **A report of posted bills agrees with its samples.** The statuses that it counts one by one are
counted exactly, and the counts are written under their names. As many bills are created as ids are
listed, and as there are successes that carry an id; the ids stand at the positions of these
samples, in their order, so that an id of any other sample is not listed. Created bills and
responses with status 201 are no more than the successes, and those with 409, 400 and 500 together
no more than the failures. All that the report of the run says is written as it is there: its
summary in front of the counts, and behind the summary its other sections. -/
theorem of_agrees (target : Target) (parameters : RunParameters) (samples : List Sample)
    (wall : WallTime) (cleanup : CleanupResult) :
    let r := PostReport.of target parameters samples wall cleanup
    let base := Report.ofSamples samples wall
    (∀ status, r.statusCount status = samples.countP fun s => s.status? == some status) ∧
      (∀ status ∈ countedStatuses, r.summaryMembers.lookup (statusCountName status) =
        some (.count (samples.countP fun s => s.status? == some status))) ∧
      r.createdCount = r.createdBillIds.length ∧
      r.summaryMembers.lookup "created_count" = some (.count r.createdBillIds.length) ∧
      r.createdBillIds.length = samples.countP (fun s => s.succeeded && s.createdId?.isSome) ∧
      (∃ positions : List Nat, positions.Pairwise (· < ·) ∧
        (∀ i, i ∈ positions ↔
          ∃ s, samples[i]? = some s ∧ s.succeeded = true ∧ s.createdId?.isSome) ∧
        r.createdBillIds.map some = positions.map (idAt? samples)) ∧
      r.createdCount ≤ base.summary.successes ∧
      r.statusCount 201 ≤ base.summary.successes ∧
      r.statusCount 409 + r.statusCount 400 + r.statusCount 500 ≤ base.summary.failures ∧
      r.report = base ∧
      ∃ front counts sections back,
        base.toJson = .object (("summary", .object base.summary.members) :: sections) ∧
        r.toJson = .object (front ++ ("summary", .object (base.summary.members ++ counts)) ::
          (sections ++ back)) ∧
        sections.map Prod.fst = ["latency_ms", "response_size_bytes", "status_code_distribution",
          "error_distribution"] := by
  intro r base
  have hstatus : ∀ status, r.statusCount status = withStatus samples status :=
    count_statuses samples wall
  have hcreated : r.createdBillIds.length = samples.countP Sample.created :=
    length_createdIds samples
  have hsuccesses : base.summary.successes = samples.countP Sample.succeeded :=
    Report.successes_eq_countP samples wall
  have hfailures : base.summary.failures = samples.countP fun s => ¬ s.succeeded = true := by
    have hsplit := List.length_eq_countP_add_countP Sample.succeeded (l := samples)
    have hadd : base.summary.successes + base.summary.failures = samples.length :=
      Report.successes_add_failures samples wall
    omega
  refine ⟨hstatus, ?_, rfl, rfl, hcreated, ⟨creations samples, pairwise_creations samples,
    fun i => mem_creations_iff, createdIds_eq_creations samples⟩, ?_, ?_, ?_, rfl, ?_⟩
  · have hwritten : ∀ status ∈ countedStatuses,
        r.summaryMembers.lookup (statusCountName status) =
          some (.count (r.statusCount status)) := by
      simp only [countedStatuses, List.forall_mem_cons]
      exact ⟨rfl, rfl, rfl, rfl, fun _ h => absurd h List.not_mem_nil⟩
    intro status hmem
    rw [hwritten status hmem, hstatus]
    rfl
  · rw [hsuccesses]
    refine hcreated.trans_le (List.countP_mono_left fun s _ hs => ?_)
    exact (Bool.and_eq_true_iff.mp hs).1
  · rw [hstatus, hsuccesses]
    exact withStatus_le_successes samples (by decide)
  · have hsum := sum_withStatus_le samples [409, 400, 500] (by decide) (by decide)
    simp only [List.map_cons, List.map_nil, List.sum_cons, List.sum_nil] at hsum
    rw [hstatus, hstatus, hstatus, hfailures]
    omega
  · exact ⟨[("target", target.toJson), ("run", parameters.toJson)],
      r.summaryMembers.drop base.summary.members.length, _,
      [("created_bill_ids", .list (r.createdBillIds.map .integer)), ("cleanup", cleanup.toJson)],
      rfl, rfl, rfl⟩

end PostReport

end HttpLoad
