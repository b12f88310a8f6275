import Mathlib.Algebra.BigOperators.Group.List.Lemmas
import Mathlib.Algebra.GroupWithZero.Nat
import Mathlib.Data.List.Sort
import HttpLoad.Proofs.Basic
import HttpLoad.Report.Basic

/-!
# What a histogram says

A histogram of names has one entry for each name that occurs, in ascending order of the names, and
the entry says how often the name occurs. This is all there is to know about it: two lists in which
every name occurs equally often have one histogram.

## Main definitions

* `Histogram.Ascending h`: the names ascend strictly
* `Histogram.totalOver h p`: the counts under the names with `p`, together
* `statusCause status`: the cause under which a response with a status is counted
* `isSuccessKey`, `isFailureName`: the names of the class 2xx, and of failures without a response

## Main results

* `Histogram.mem_ofNames_iff`, `Histogram.ascending_ofNames`: the entries of a histogram
* `Histogram.ofNames_congr`: the histogram depends only on how often each name occurs
* `Histogram.totalOver_ofNames`: counts together count the names together
* `Report.ofSamples_exact`: the histograms count every sample once, and agree with the summary
-/

namespace HttpLoad

namespace Histogram

variable {h : Histogram} {name other : String} {n c : Nat} {names : List String}

/-- The names of a histogram ascend strictly, so no name stands in it twice. -/
def Ascending (h : Histogram) : Prop := h.Pairwise fun a b => a.1 < b.1

/-- The counts under the names with a property, together. -/
def totalOver (h : Histogram) (p : String → Bool) : Nat :=
  ((h.filter fun entry => p entry.1).map Prod.snd).sum

/-! ## Looking a name up -/

theorem count_cons_self (name : String) (c : Nat) (h : Histogram) :
    count ((name, c) :: h) name = c := by
  simp [count]

theorem count_cons_of_ne (hne : other ≠ name) (c : Nat) (h : Histogram) :
    count ((name, c) :: h) other = h.count other := by
  have hbeq : (other == name) = false := by simpa using hne
  simp only [count, List.lookup_cons, hbeq]

/-- A name that is less than all names of a histogram is not counted in it. -/
theorem count_eq_zero_of_lt (hlt : ∀ entry ∈ h, name < entry.1) : h.count name = 0 := by
  induction h with
  | nil => rfl
  | cons entry h ih =>
    obtain ⟨hentry, hrest⟩ := List.forall_mem_cons.mp hlt
    rw [count_cons_of_ne hentry.ne]
    exact ih hrest

/-- **Looking up and listing agree**: what is found under a name is its entry. -/
theorem Ascending.lookup_eq_some_iff (hasc : h.Ascending) :
    h.lookup name = some n ↔ (name, n) ∈ h := by
  induction h with
  | nil => simp
  | cons entry h ih =>
    obtain ⟨m, c⟩ := entry
    obtain ⟨hfirst, hasc⟩ := List.pairwise_cons.mp hasc
    by_cases hname : name = m
    · subst hname
      have hnot : (name, n) ∉ h := fun hmem => (hfirst _ hmem).ne rfl
      simp [List.lookup_cons_self, hnot, eq_comm]
    · have hbeq : (name == m) = false := by simpa using hname
      simp only [List.lookup_cons, hbeq, List.mem_cons, Prod.mk.injEq, hname, false_and, false_or]
      exact ih hasc

/-! ## One more under a name -/

/-- **The entries after one more under a name**: the name has one more than it was counted, and
every other entry stays. -/
theorem Ascending.mem_bump_iff (hasc : h.Ascending) :
    (other, n) ∈ bump name h ↔
      other = name ∧ n = h.count name + 1 ∨ other ≠ name ∧ (other, n) ∈ h := by
  induction h with
  | nil => simp [bump, count]
  | cons entry h ih =>
    obtain ⟨m, c⟩ := entry
    obtain ⟨hfirst, hasc⟩ := List.pairwise_cons.mp hasc
    rcases lt_trichotomy name m with hlt | rfl | hgt
    · have hcount : count ((m, c) :: h) name = 0 := by
        refine count_eq_zero_of_lt (List.forall_mem_cons.mpr ⟨hlt, fun entry hmem => ?_⟩)
        exact hlt.trans (hfirst entry hmem)
      have hnot : (name, n) ∉ (m, c) :: h := by
        rintro hmem
        rcases List.mem_cons.mp hmem with heq | hmem
        · exact hlt.ne (congrArg Prod.fst heq)
        · exact (hlt.trans (hfirst _ hmem)).ne rfl
      rw [bump, if_neg hlt.ne, if_pos hlt, List.mem_cons, hcount]
      by_cases hother : other = name
      · subst hother
        simp [hnot]
      · simp [hother]
    · have hnot : (name, n) ∉ h := fun hmem => (hfirst _ hmem).ne rfl
      rw [bump, if_pos rfl, count_cons_self]
      by_cases hother : other = name
      · subst hother
        simp [hnot]
      · simp [hother]
    · rw [bump, if_neg hgt.ne', if_neg hgt.not_gt, List.mem_cons, ih hasc,
        count_cons_of_ne hgt.ne', List.mem_cons]
      by_cases hother : other = name
      · subst hother
        simp [hgt.ne']
      · simp [hother]

theorem Ascending.bump (hasc : h.Ascending) : (bump name h).Ascending := by
  induction h with
  | nil => exact List.pairwise_singleton ..
  | cons entry h ih =>
    obtain ⟨m, c⟩ := entry
    obtain ⟨hfirst, hrest⟩ := List.pairwise_cons.mp hasc
    rw [Histogram.bump]
    split
    next => exact List.pairwise_cons.mpr ⟨hfirst, hrest⟩
    next hne =>
      split
      next hlt =>
        refine List.pairwise_cons.mpr ⟨List.forall_mem_cons.mpr ⟨hlt, fun entry hmem => ?_⟩, hasc⟩
        exact lt_trans hlt (hfirst entry hmem)
      next hnlt =>
        have hgt : m < name := lt_of_le_of_ne (not_lt.mp hnlt) (Ne.symm hne)
        refine List.pairwise_cons.mpr ⟨fun entry hmem => ?_, ih hrest⟩
        rcases Ascending.mem_bump_iff hrest |>.mp hmem with ⟨hname, -⟩ | ⟨-, hmem⟩
        · exact lt_of_lt_of_eq hgt hname.symm
        · exact hfirst _ hmem

/-! ## The histogram of names -/

theorem ofNames_snoc (names : List String) (name : String) :
    ofNames (names ++ [name]) = bump name (ofNames names) := by
  simp only [ofNames, List.foldl_append, List.foldl_cons, List.foldl_nil]

theorem ascending_ofNames (names : List String) : (ofNames names).Ascending := by
  induction names using List.reverseRecOn with
  | nil => exact List.Pairwise.nil
  | append_singleton names name ih => exact ofNames_snoc names name ▸ ih.bump

/-- **The entries of a histogram**: a name with a count stands in it exactly when the count is not
zero and is the number of times that the name occurs. -/
theorem mem_ofNames_iff : (name, n) ∈ ofNames names ↔ 0 < n ∧ n = names.count name := by
  induction names using List.reverseRecOn generalizing name n with
  | nil => simp only [ofNames, List.foldl_nil, List.not_mem_nil, List.count_nil, false_iff]; omega
  | append_singleton names last ih =>
    have hasc := ascending_ofNames names
    have hcount : (ofNames names).count last = names.count last := by
      cases hlookup : (ofNames names).lookup last with
      | some c =>
        simp only [count, hlookup, Option.getD_some]
        exact (ih.mp (hasc.lookup_eq_some_iff.mp hlookup)).2
      | none =>
        by_contra hne
        simp only [count, hlookup, Option.getD_none] at hne
        have hmem : (last, names.count last) ∈ ofNames names := ih.mpr ⟨by omega, rfl⟩
        simp [hasc.lookup_eq_some_iff.mpr hmem] at hlookup
    rw [ofNames_snoc, hasc.mem_bump_iff, hcount, ih, List.count_append, List.count_singleton]
    by_cases hname : name = last
    · subst hname
      simp
      omega
    · simp [hname, Ne.symm hname]

/-- **What is found under a name**: how often it occurs, if it does. -/
theorem lookup_ofNames (names : List String) (name : String) :
    (ofNames names).lookup name =
      if names.count name = 0 then none else some (names.count name) := by
  have hasc := ascending_ofNames names
  split
  next hzero =>
    rw [Option.eq_none_iff_forall_ne_some]
    intro n hn
    obtain ⟨hpos, rfl⟩ := mem_ofNames_iff.mp (hasc.lookup_eq_some_iff.mp hn)
    omega
  next hpos => exact hasc.lookup_eq_some_iff.mpr (mem_ofNames_iff.mpr ⟨by omega, rfl⟩)

theorem count_ofNames (names : List String) (name : String) :
    (ofNames names).count name = names.count name := by
  rw [count, lookup_ofNames]
  split
  next hzero => simp [hzero]
  next => rfl

/-- **A histogram depends only on how often each name occurs.** -/
theorem ofNames_congr {names others : List String}
    (hcount : ∀ name, names.count name = others.count name) : ofNames names = ofNames others := by
  have hirrefl : Std.Irrefl fun a b : String × Nat => a.1 < b.1 := ⟨fun a => lt_irrefl a.1⟩
  have hantisymm : Std.Antisymm fun a b : String × Nat => a.1 < b.1 :=
    ⟨fun a b hab hba => absurd hab hba.not_gt⟩
  refine (ascending_ofNames names).eq_of_mem_iff (ascending_ofNames others) fun entry => ?_
  obtain ⟨name, n⟩ := entry
  rw [mem_ofNames_iff, mem_ofNames_iff, hcount]

/-! ## Counts together -/

/-- A histogram is, up to order, the occurring names with their counts. -/
theorem ofNames_perm (names : List String) :
    (ofNames names).Perm (names.dedup.map fun name => (name, names.count name)) := by
  have hnodup : (ofNames names).Nodup :=
    (ascending_ofNames names).imp fun hlt heq => hlt.ne (congrArg Prod.fst heq)
  have hinj : Function.Injective fun name : String => (name, names.count name) :=
    fun a b hab => congrArg Prod.fst hab
  refine (List.perm_ext_iff_of_nodup hnodup (names.nodup_dedup.map hinj)).mpr fun entry => ?_
  obtain ⟨name, n⟩ := entry
  rw [mem_ofNames_iff, List.mem_map]
  constructor
  · rintro ⟨hpos, rfl⟩
    exact ⟨name, List.mem_dedup.mpr (List.count_pos_iff.mp hpos), rfl⟩
  · rintro ⟨other, hother, heq⟩
    obtain ⟨rfl, rfl⟩ := Prod.mk.inj heq
    exact ⟨List.count_pos_iff.mpr (List.mem_dedup.mp hother), rfl⟩

/-- **Counts together count the names together.** -/
theorem totalOver_ofNames (names : List String) (p : String → Bool) :
    (ofNames names).totalOver p = names.countP p := by
  rw [totalOver, (((ofNames_perm names).filter _).map _).sum_eq, List.filter_map, List.map_map]
  exact List.sum_map_count_dedup_filter_eq_countP p names

end Histogram

/-!
## The histograms of a report

A sample is classified three times: whether it is a success, under which status it is counted, and
under which cause of failure. The names of the two histograms never collide, so each class of
samples is found in a report again: in the summary, among the statuses and among the causes.
-/

/-- The cause under which a response with a status that is no success is counted. -/
def statusCause (status : Nat) : String := "HttpStatus" ++ statusName status

/-- Whether a name is that of a status of the class 2xx. -/
def isSuccessKey (key : String) : Bool :=
  (List.range' 200 100).any fun status => statusName status == key

/-- Whether a name is that of a failure without a response. -/
def isFailureName (key : String) : Bool := Failure.all.any fun why => why.name == key

theorem isSuccess_iff {status : Nat} : isSuccess status = true ↔ 200 ≤ status ∧ status < 300 := by
  simp [isSuccess]

/-! ### No name stands for two classes -/

theorem statusName_injective {m n : Nat} (h : statusName m = statusName n) : m = n :=
  decimalDigits_injective (String.ofList_injective h)

theorem failedKey_ne_statusName (status : Nat) : failedKey ≠ statusName status := by
  intro h
  have htext : failedKey.toList = decimalDigits status := by
    rw [h, statusName, String.toList_ofList]
  have hmem : 'e' ∈ decimalDigits status := htext ▸ by decide
  exact absurd (isDigit_of_mem_decimalDigits hmem) (by decide)

theorem statusCause_injective {m n : Nat} (h : statusCause m = statusCause n) : m = n := by
  have htext := congrArg String.toList h
  simp only [statusCause, String.toList_append, List.append_cancel_left_eq] at htext
  exact statusName_injective (String.toList_inj.mp htext)

/-- The name of a failure does not begin as the cause of a status does. -/
theorem name_ne_statusCause (why : Failure) (status : Nat) : why.name ≠ statusCause status := by
  intro h
  have hfront : ("HttpStatus".toList <+: why.name.toList) := by
    rw [h, statusCause, String.toList_append]
    exact List.prefix_append ..
  revert hfront
  cases why <;> decide

theorem isFailureName_name (why : Failure) : isFailureName why.name = true := by
  cases why <;> decide

theorem isFailureName_statusCause (status : Nat) : isFailureName (statusCause status) = false := by
  rw [isFailureName, List.any_eq_false]
  intro why _
  simpa using name_ne_statusCause why status

theorem isSuccessKey_statusName (status : Nat) :
    isSuccessKey (statusName status) = isSuccess status := by
  rw [Bool.eq_iff_iff, isSuccessKey, List.any_eq_true, isSuccess_iff]
  constructor
  · rintro ⟨other, hother, heq⟩
    obtain rfl : other = status := statusName_injective (by simpa using heq)
    rw [List.mem_range'_1] at hother
    omega
  · intro hbounds
    exact ⟨status, List.mem_range'_1.mpr (by omega), by simp⟩

theorem isSuccessKey_failedKey : isSuccessKey failedKey = false := by
  rw [isSuccessKey, List.any_eq_false]
  intro status _
  simpa using (failedKey_ne_statusName status).symm

/-! ### The three classifications of a sample -/

namespace Sample

variable {s : Sample} {status : Nat}

/-- A sample counted under a status has it. -/
theorem statusKey_eq_statusName_iff :
    s.statusKey = statusName status ↔ s.status? = some status := by
  cases hs : s.outcome with
  | response other bytes id =>
    simp only [statusKey, status?, hs, Option.some.injEq]
    exact ⟨statusName_injective, congrArg statusName⟩
  | failed why =>
    simp only [statusKey, status?, hs, reduceCtorEq, iff_false]
    exact failedKey_ne_statusName status

theorem statusKey_eq_failedKey_iff : s.statusKey = failedKey ↔ s.failure?.isSome = true := by
  cases hs : s.outcome with
  | response other bytes id =>
    simp only [statusKey, failure?, hs, Option.isSome_none, Bool.false_eq_true, iff_false]
    exact (failedKey_ne_statusName other).symm
  | failed why => simp [statusKey, failure?, hs]

/-- A sample has a cause of failure exactly when it is no success. -/
theorem isSome_cause? : s.cause?.isSome = !s.succeeded := by
  cases hs : s.outcome with
  | response other bytes id =>
    cases hok : isSuccess other <;> simp [cause?, succeeded, hs, hok]
  | failed why => simp [cause?, succeeded, hs]

theorem cause?_eq_statusCause_iff :
    s.cause? = some (statusCause status) ↔ s.status? = some status ∧ isSuccess status = false := by
  cases hs : s.outcome with
  | response other bytes id =>
    cases hok : isSuccess other with
    | true =>
      simp only [cause?, status?, hs, hok, if_true, reduceCtorEq, false_iff, Option.some.injEq]
      rintro ⟨rfl, hnot⟩
      simp [hok] at hnot
    | false =>
      simp only [cause?, status?, hs, hok, Bool.false_eq_true, if_false, Option.some.injEq]
      constructor
      · intro h
        obtain rfl : other = status := statusCause_injective h
        exact ⟨rfl, hok⟩
      · rintro ⟨rfl, -⟩
        rfl
  | failed why =>
    simp only [cause?, status?, hs, Option.some.injEq, reduceCtorEq, false_and, iff_false]
    exact name_ne_statusCause why status

/-- The causes that are names of failures are those of samples without a response. -/
theorem map_isFailureName_cause? :
    (s.cause?.map isFailureName).getD false = s.failure?.isSome := by
  cases hs : s.outcome with
  | response other bytes id =>
    cases hok : isSuccess other with
    | true => simp [cause?, failure?, hs, hok]
    | false =>
      simp only [cause?, failure?, hs, hok, Bool.false_eq_true, if_false, Option.map_some,
        Option.getD_some, Option.isSome_none]
      exact isFailureName_statusCause other
  | failed why =>
    simp only [cause?, failure?, hs, Option.map_some, Option.getD_some, Option.isSome_some]
    exact isFailureName_name why

theorem isSuccessKey_statusKey : isSuccessKey s.statusKey = s.succeeded := by
  cases hs : s.outcome with
  | response other bytes id =>
    simp only [statusKey, succeeded, hs]
    exact isSuccessKey_statusName other
  | failed why =>
    simp only [statusKey, succeeded, hs]
    exact isSuccessKey_failedKey

end Sample

/-! ### What a report counts -/

namespace Report

variable (samples : List Sample) (wall : WallTime)

theorem successes_eq_countP :
    (ofSamples samples wall).summary.successes = samples.countP Sample.succeeded :=
  List.countP_eq_length_filter.symm

/-- How often a name stands among the statuses of samples. -/
theorem count_statusKeys (key : String) :
    (samples.map Sample.statusKey).count key = samples.countP fun s => s.statusKey == key :=
  List.countP_map

/-- How often a name stands among the causes of samples. -/
theorem count_causes (key : String) :
    (samples.filterMap Sample.cause?).count key = samples.countP fun s => s.cause? == some key := by
  rw [List.count, List.countP_filterMap]
  refine List.countP_congr fun s _ => ?_
  cases s.cause? <;> simp

theorem successes_add_failures :
    (ofSamples samples wall).summary.successes + (ofSamples samples wall).summary.failures =
      samples.length :=
  Nat.add_sub_cancel' (List.length_filter_le ..)

/-- The samples with a cause of failure are the failures of the summary. -/
theorem length_causes :
    (samples.filterMap Sample.cause?).length = (ofSamples samples wall).summary.failures := by
  have hsplit := List.length_eq_countP_add_countP Sample.succeeded (l := samples)
  have hadd := successes_add_failures samples wall
  rw [successes_eq_countP] at hadd
  have hcauses : samples.countP (fun s => s.cause?.isSome) =
      samples.countP fun s => ¬ s.succeeded = true :=
    List.countP_congr fun s _ => by simp [Sample.isSome_cause?]
  rw [List.length_filterMap_eq_countP, hcauses]
  omega

/-- A status that is no success is counted as a cause as often as among the statuses. -/
theorem count_statusCause {status : Nat} (hno : isSuccess status = false) :
    (samples.filterMap Sample.cause?).count (statusCause status) =
      (samples.map Sample.statusKey).count (statusName status) := by
  rw [count_causes, count_statusKeys]
  refine List.countP_congr fun s _ => ?_
  simp [Sample.cause?_eq_statusCause_iff, Sample.statusKey_eq_statusName_iff, hno]

/-- A status of the class 2xx is no cause of failure. -/
theorem count_statusCause_of_isSuccess {status : Nat} (hok : isSuccess status = true) :
    (samples.filterMap Sample.cause?).count (statusCause status) = 0 := by
  rw [count_causes, List.countP_eq_zero]
  intro s _
  simp [Sample.cause?_eq_statusCause_iff, hok]

/-- The failures without a response are counted under one name among the statuses. -/
theorem countP_isFailureName :
    (samples.filterMap Sample.cause?).countP isFailureName =
      (samples.map Sample.statusKey).count failedKey := by
  rw [count_statusKeys, List.countP_filterMap]
  refine List.countP_congr fun s _ => ?_
  rw [s.map_isFailureName_cause?, beq_iff_eq, s.statusKey_eq_failedKey_iff]

/-- **The histograms of a report are exact and agree with its summary.** Every sample is counted
once under its status, and once under its cause if it is no success. The names ascend, every name
has the number of its samples, and no name without samples is there. A status that is no success is
counted among the causes as often as among the statuses, and one that is a success is not among the
causes. The failures without a response are together the samples without a status, and the statuses
of the class 2xx are together the successes. -/
theorem ofSamples_exact (samples : List Sample) (wall : WallTime) :
    let r := ofSamples samples wall
    r.summary.total = samples.length ∧
      r.summary.successes + r.summary.failures = r.summary.total ∧
      r.statuses.Ascending ∧
      (∀ key n, (key, n) ∈ r.statuses ↔ 0 < n ∧ n = samples.countP fun s => s.statusKey == key) ∧
      r.statuses.totalOver (fun _ => true) = r.summary.total ∧
      r.causes.Ascending ∧
      (∀ key n, (key, n) ∈ r.causes ↔ 0 < n ∧ n = samples.countP fun s => s.cause? == some key) ∧
      r.causes.totalOver (fun _ => true) = r.summary.failures ∧
      (∀ status, r.causes.lookup (statusCause status) =
        if isSuccess status then none else r.statuses.lookup (statusName status)) ∧
      r.causes.totalOver isFailureName = r.statuses.count failedKey ∧
      r.statuses.totalOver isSuccessKey = r.summary.successes := by
  intro r
  have hstatuses : r.statuses = Histogram.ofNames (samples.map Sample.statusKey) := rfl
  have hcauses : r.causes = Histogram.ofNames (samples.filterMap Sample.cause?) := rfl
  rw [hstatuses, hcauses]
  refine ⟨rfl, successes_add_failures samples wall, Histogram.ascending_ofNames _, ?_, ?_,
    Histogram.ascending_ofNames _, ?_, ?_, ?_, ?_, ?_⟩
  · intro key n
    rw [Histogram.mem_ofNames_iff, count_statusKeys]
  · rw [Histogram.totalOver_ofNames, List.countP_true, List.length_map]
    rfl
  · intro key n
    rw [Histogram.mem_ofNames_iff, count_causes]
  · rw [Histogram.totalOver_ofNames, List.countP_true]
    exact length_causes samples wall
  · intro status
    rw [Histogram.lookup_ofNames]
    cases hok : isSuccess status with
    | true => rw [count_statusCause_of_isSuccess samples hok, if_pos rfl, if_pos rfl]
    | false =>
      rw [count_statusCause samples hok, ← Histogram.lookup_ofNames, if_neg Bool.false_ne_true]
  · rw [Histogram.totalOver_ofNames, Histogram.count_ofNames, countP_isFailureName]
  · rw [Histogram.totalOver_ofNames, List.countP_map, successes_eq_countP]
    exact List.countP_congr fun s _ => by simp [Sample.isSuccessKey_statusKey]

end Report

end HttpLoad
