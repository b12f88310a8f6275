import HttpLoad.Proofs.Json.Blanks
import HttpLoad.Proofs.Report.Histogram
import HttpLoad.Report.Posting

/-!
# What the text of a report tells

A report is written as an object with layout. Whoever reads the text finds every field of the report
under its keys: texts, counts, ids and flags as they are, doubles as far as they are rounded to two
decimal places and finite. The summary of a report of posted bills has the members of any summary
and its own side by side. Histograms have their names as keys, whatever these are.

A report of posted bills is put together from a run, but nothing of its text depends on that. So it
is told of records whose fields are of any value.

## Main definitions

* `PostRecord`: the fields of a report of posted bills
* `ReportField`: a path of keys, and what is to be found there
* `Report.fields`, `PostRecord.fields`: the fields of a report and where they are found
* `Json.Told v fields`: the text of a value tells fields

## Main results

* `report_texts_tell`: the text of every report tells its fields
-/

namespace HttpLoad

/-! ## Records -/

/-- **How a cleanup went**, as it is kept in a report. -/
structure CleanupRecord where
  attempted : Bool
  deletedCount : Nat
  deletedIds : List Int
  message? : Option String
deriving DecidableEq

def CleanupRecord.toJson (r : CleanupRecord) : Json :=
  .object [
    ("attempted", .bool r.attempted),
    ("deleted_count", .count r.deletedCount),
    ("deleted_ids", .list (r.deletedIds.map .integer)),
    ("error", .ofOption .text r.message?)]

/-- **The fields of a report of posted bills**, each of any value. -/
structure PostRecord where
  target : Target
  parameters : RunParameters
  summary : Summary
  createdCount : Nat
  createdRate : Double
  created : Nat
  conflicting : Nat
  invalid : Nat
  failing : Nat
  latency : LatencyStats
  sizes : SizeStats
  statuses : Histogram
  causes : Histogram
  createdBillIds : List Int
  cleanup : CleanupRecord
deriving DecidableEq

/-- The members of the summary: those of any summary, and those of posted bills. -/
def PostRecord.summaryMembers (r : PostRecord) : List (String × Json) :=
  r.summary.members ++ [
    ("created_count", .count r.createdCount),
    ("created_rate_pct", roundedReal r.createdRate),
    ("http_201_count", .count r.created),
    ("http_409_count", .count r.conflicting),
    ("http_400_count", .count r.invalid),
    ("http_500_count", .count r.failing)]

def PostRecord.toJson (r : PostRecord) : Json :=
  .object [
    ("target", r.target.toJson),
    ("run", r.parameters.toJson),
    ("summary", .object r.summaryMembers),
    ("latency_ms", r.latency.toJson),
    ("response_size_bytes", r.sizes.toJson),
    ("status_code_distribution", r.statuses.toJson),
    ("error_distribution", r.causes.toJson),
    ("created_bill_ids", .list (r.createdBillIds.map .integer)),
    ("cleanup", r.cleanup.toJson)]

/-- The record of a cleanup. -/
def CleanupResult.record (r : CleanupResult) : CleanupRecord where
  attempted := r.attempted
  deletedCount := r.deletedIds.length
  deletedIds := r.deletedIds
  message? := r.message?

/-- **The record of a report** that was put together from a run. -/
def PostReport.record (r : PostReport) : PostRecord where
  target := r.target
  parameters := r.parameters
  summary := r.report.summary
  createdCount := r.createdCount
  createdRate := r.createdRate
  created := r.statusCount 201
  conflicting := r.statusCount 409
  invalid := r.statusCount 400
  failing := r.statusCount 500
  latency := r.report.latency
  sizes := r.report.sizes
  statuses := r.report.statuses
  causes := r.report.causes
  createdBillIds := r.createdBillIds
  cleanup := r.cleanup.record

theorem PostReport.toJson_record (r : PostReport) : r.record.toJson = r.toJson := rfl

/-! ## Fields -/

/-- **A field**: the keys that lead to it, and its value. -/
abbrev ReportField := List String × Json

/-- A double field that is rounded to two decimal places. -/
def rounded (path : List String) (x : Double) : ReportField := (path, .real (twoPlaces x))

def Summary.fields (s : Summary) : List ReportField := [
  (["summary", "total_requests"], .count s.total),
  (["summary", "success_count"], .count s.successes),
  (["summary", "failure_count"], .count s.failures),
  rounded ["summary", "success_rate_pct"] s.successRate,
  rounded ["summary", "throughput_req_per_sec"] s.throughput,
  rounded ["summary", "total_wall_time_sec"] s.wallTime]

def LatencyStats.fields (s : LatencyStats) : List ReportField := [
  rounded ["latency_ms", "min"] s.min,
  rounded ["latency_ms", "avg"] s.avg,
  rounded ["latency_ms", "median"] s.median,
  rounded ["latency_ms", "p90"] s.p90,
  rounded ["latency_ms", "p95"] s.p95,
  rounded ["latency_ms", "p99"] s.p99,
  rounded ["latency_ms", "max"] s.max,
  rounded ["latency_ms", "stdev"] s.stdev]

def SizeStats.fields (s : SizeStats) : List ReportField := [
  (["response_size_bytes", "min"], .count s.min),
  rounded ["response_size_bytes", "avg"] s.avg,
  (["response_size_bytes", "max"], .count s.max)]

/-- The entries of a histogram that stands under a key. -/
def Histogram.fields (key : String) (h : Histogram) : List ReportField :=
  h.map fun entry => ([key, entry.1], .count entry.2)

/-- **The fields of a report.** -/
def Report.fields (r : Report) : List ReportField :=
  r.summary.fields ++ r.latency.fields ++ r.sizes.fields ++
    r.statuses.fields "status_code_distribution" ++ r.causes.fields "error_distribution"

def RunParameters.fields (p : RunParameters) : List ReportField := [
  (["run", "prefix"], .text p.marker),
  (["run", "requests"], .count p.requests),
  (["run", "concurrency"], .count p.concurrency),
  (["run", "timeout_sec"], .real p.timeoutSeconds),
  (["run", "min_lines"], .count p.minLines),
  (["run", "max_lines"], .count p.maxLines),
  (["run", "seed"], .count p.seed),
  (["run", "lines_per_bill"], .list (p.linesPerBill.map .count))]

def CleanupRecord.fields (r : CleanupRecord) : List ReportField := [
  (["cleanup", "attempted"], .bool r.attempted),
  (["cleanup", "deleted_count"], .count r.deletedCount),
  (["cleanup", "deleted_ids"], .list (r.deletedIds.map .integer)),
  (["cleanup", "error"], r.message?.elim .null .text)]

def Target.fields (t : Target) : List ReportField := [
  (["target", "name"], .text t.name),
  (["target", "url"], .text t.url)]

/-- The fields of the summary: those of any summary, and beside them those of posted bills. -/
def PostRecord.summaryFields (r : PostRecord) : List ReportField :=
  r.summary.fields ++ [
    (["summary", "created_count"], .count r.createdCount),
    rounded ["summary", "created_rate_pct"] r.createdRate,
    (["summary", "http_201_count"], .count r.created),
    (["summary", "http_409_count"], .count r.conflicting),
    (["summary", "http_400_count"], .count r.invalid),
    (["summary", "http_500_count"], .count r.failing)]

/-- **The fields of a report of posted bills.** -/
def PostRecord.fields (r : PostRecord) : List ReportField :=
  r.target.fields ++ r.parameters.fields ++ r.summaryFields ++ r.latency.fields ++
    r.sizes.fields ++ r.statuses.fields "status_code_distribution" ++
    r.causes.fields "error_distribution" ++
    [(["created_bill_ids"], .list (r.createdBillIds.map .integer))] ++ r.cleanup.fields

namespace Json

/-! ## Where fields are found -/

section

variable {members outer : List (String × Json)} {key : String}

/-- A value holds a field. -/
def Holds (v : Json) (field : ReportField) : Prop := v.at? field.1 = some field.2

theorem KeysDistinct.of_object (h : (Json.object members).KeysDistinct) :
    (members.map Prod.fst).Nodup ∧ ∀ m ∈ members, m.2.KeysDistinct := by
  cases h with
  | object hkeys hmembers => exact ⟨hkeys, hmembers⟩

/-- Where no key stands twice, members are found under their keys. -/
theorem lookup_of_nodup (hkeys : (members.map Prod.fst).Nodup) {m : String × Json}
    (hm : m ∈ members) : members.lookup m.1 = some m.2 := by
  induction members with
  | nil => exact absurd hm List.not_mem_nil
  | cons n members ih =>
    obtain ⟨hfirst, hrest⟩ := List.nodup_cons.mp hkeys
    rw [lookup_member]
    rcases List.mem_cons.mp hm with rfl | hm
    · exact if_pos rfl
    · have hother : m.1 ≠ n.1 := by
        intro hsame
        apply hfirst
        rw [← hsame]
        exact List.mem_map_of_mem hm
      rw [if_neg hother]
      exact ih hrest hm

theorem KeysDistinct.member? (h : (Json.object members).KeysDistinct) {m : String × Json}
    (hm : m ∈ members) : (Json.object members).member? m.1 = some m.2 :=
  lookup_of_nodup h.of_object.1 hm

/-- A member of an object is held by it. -/
theorem KeysDistinct.holds (h : (Json.object outer).KeysDistinct) {v : Json}
    (hv : (key, v) ∈ outer) : (Json.object outer).Holds ([key], v) := by
  rw [Holds, at?, h.member? hv]
  rfl

/-- The members of an object that stands under a key are held under both keys. -/
theorem KeysDistinct.holds_under (h : (Json.object outer).KeysDistinct)
    (hinner : (key, Json.object members) ∈ outer) :
    ∀ field ∈ members.map fun m => ([key, m.1], m.2), (Json.object outer).Holds field := by
  have hmembers : (Json.object members).KeysDistinct := h.of_object.2 _ hinner
  refine List.forall_mem_map.mpr fun m hm => ?_
  rw [Holds, at?, h.member? hinner, Option.bind_some, at?, hmembers.member? hm]
  rfl

theorem keysDistinct_count (n : Nat) : (count n).KeysDistinct := .integer _

theorem keysDistinct_roundedReal (x : Double) : (roundedReal x).KeysDistinct := .real _

theorem keysDistinct_ofOption (s? : Option String) : (ofOption text s?).KeysDistinct := by
  cases s? with
  | none => exact .null
  | some s => exact .text s

theorem keysDistinct_integers (is : List Int) : (list (is.map integer)).KeysDistinct :=
  .list (List.forall_mem_map.mpr fun i _ => .integer i)

theorem keysDistinct_counts (ns : List Nat) : (list (ns.map count)).KeysDistinct :=
  .list (List.forall_mem_map.mpr fun n _ => keysDistinct_count n)

end

end Json

open Json

section

variable {outer : List (String × Json)}

/-! ### Sections of reports -/

theorem Summary.keysDistinct (s : Summary) : (Json.object s.members).KeysDistinct := by
  refine .object (by simp [Summary.members]) ?_
  simp [Summary.members, keysDistinct_count, keysDistinct_roundedReal]

theorem Summary.holds (s : Summary) (h : (object outer).KeysDistinct)
    (hmem : ("summary", object s.members) ∈ outer) :
    ∀ field ∈ s.fields, (object outer).Holds field :=
  h.holds_under hmem

theorem LatencyStats.keysDistinct (s : LatencyStats) : s.toJson.KeysDistinct := by
  refine .object (by simp) ?_
  simp [keysDistinct_roundedReal]

theorem LatencyStats.holds (s : LatencyStats) (h : (object outer).KeysDistinct)
    (hmem : ("latency_ms", s.toJson) ∈ outer) : ∀ field ∈ s.fields, (object outer).Holds field :=
  h.holds_under hmem

theorem SizeStats.keysDistinct (s : SizeStats) : s.toJson.KeysDistinct := by
  refine .object (by simp) ?_
  simp [keysDistinct_count, keysDistinct_roundedReal]

theorem SizeStats.holds (s : SizeStats) (h : (object outer).KeysDistinct)
    (hmem : ("response_size_bytes", s.toJson) ∈ outer) :
    ∀ field ∈ s.fields, (object outer).Holds field :=
  h.holds_under hmem

theorem Histogram.keysDistinct {h : Histogram} (hasc : h.Ascending) : h.toJson.KeysDistinct := by
  refine .object ?_ (List.forall_mem_map.mpr fun entry _ => keysDistinct_count entry.2)
  rw [List.map_map]
  exact (List.pairwise_map.mpr hasc).imp fun hlt => hlt.ne

theorem Histogram.holds (h : Histogram) {key : String} (hdistinct : (object outer).KeysDistinct)
    (hmem : (key, h.toJson) ∈ outer) : ∀ field ∈ h.fields key, (object outer).Holds field := by
  have hentries := hdistinct.holds_under hmem
  rw [List.map_map] at hentries
  exact hentries

theorem Target.keysDistinct (t : Target) : t.toJson.KeysDistinct := by
  refine .object (by simp) ?_
  simp [KeysDistinct.text]

theorem Target.holds (t : Target) (h : (object outer).KeysDistinct)
    (hmem : ("target", t.toJson) ∈ outer) : ∀ field ∈ t.fields, (object outer).Holds field :=
  h.holds_under hmem

theorem RunParameters.keysDistinct (p : RunParameters) : p.toJson.KeysDistinct := by
  refine .object (by simp) ?_
  simp [KeysDistinct.text, KeysDistinct.real, keysDistinct_count, keysDistinct_counts]

theorem RunParameters.holds (p : RunParameters) (h : (object outer).KeysDistinct)
    (hmem : ("run", p.toJson) ∈ outer) : ∀ field ∈ p.fields, (object outer).Holds field :=
  h.holds_under hmem

theorem PostRecord.keysDistinct_summary (r : PostRecord) :
    (Json.object r.summaryMembers).KeysDistinct := by
  refine .object (by simp [PostRecord.summaryMembers, Summary.members]) ?_
  simp [PostRecord.summaryMembers, Summary.members, keysDistinct_count, keysDistinct_roundedReal]

theorem PostRecord.holds_summary (r : PostRecord) (h : (object outer).KeysDistinct)
    (hmem : ("summary", object r.summaryMembers) ∈ outer) :
    ∀ field ∈ r.summaryFields, (object outer).Holds field :=
  h.holds_under hmem

theorem CleanupRecord.keysDistinct (r : CleanupRecord) : r.toJson.KeysDistinct := by
  refine .object (by simp) ?_
  simp [KeysDistinct.bool, keysDistinct_count, keysDistinct_integers, keysDistinct_ofOption]

theorem CleanupRecord.holds (r : CleanupRecord) (h : (object outer).KeysDistinct)
    (hmem : ("cleanup", r.toJson) ∈ outer) : ∀ field ∈ r.fields, (object outer).Holds field := by
  have hmembers := h.holds_under hmem
  rw [CleanupRecord.fields]
  cases hmessage : r.message? <;> simpa [hmessage, Json.ofOption] using hmembers

end

/-! ### Reports -/

theorem Report.keysDistinct {r : Report} (hstatuses : r.statuses.Ascending)
    (hcauses : r.causes.Ascending) : r.toJson.KeysDistinct := by
  refine .object (by simp) ?_
  simp [r.summary.keysDistinct, r.latency.keysDistinct, r.sizes.keysDistinct,
    Histogram.keysDistinct hstatuses, Histogram.keysDistinct hcauses]

/-- **A report holds its fields.** -/
theorem Report.holds {r : Report} (h : r.toJson.KeysDistinct) :
    ∀ field ∈ r.fields, r.toJson.Holds field := by
  have hsummary := r.summary.holds h (by simp)
  have hlatency := r.latency.holds h (by simp)
  have hsizes := r.sizes.holds h (by simp)
  have hstatuses : ∀ field ∈ r.statuses.fields "status_code_distribution", r.toJson.Holds field :=
    r.statuses.holds h (by simp)
  have hcauses : ∀ field ∈ r.causes.fields "error_distribution", r.toJson.Holds field :=
    r.causes.holds h (by simp)
  simp only [Report.fields, List.forall_mem_append]
  exact ⟨⟨⟨⟨hsummary, hlatency⟩, hsizes⟩, hstatuses⟩, hcauses⟩

theorem PostRecord.keysDistinct {r : PostRecord} (hstatuses : r.statuses.Ascending)
    (hcauses : r.causes.Ascending) : r.toJson.KeysDistinct := by
  refine .object (by simp) ?_
  simp [r.target.keysDistinct, r.parameters.keysDistinct, r.keysDistinct_summary,
    r.latency.keysDistinct, r.sizes.keysDistinct, Histogram.keysDistinct hstatuses,
    Histogram.keysDistinct hcauses, keysDistinct_integers, r.cleanup.keysDistinct]

/-- **A report of posted bills holds its fields.** -/
theorem PostRecord.holds {r : PostRecord} (h : r.toJson.KeysDistinct) :
    ∀ field ∈ r.fields, r.toJson.Holds field := by
  have htarget := r.target.holds h (by simp)
  have hparameters := r.parameters.holds h (by simp)
  have hsummary := r.holds_summary h (by simp)
  have hlatency := r.latency.holds h (by simp)
  have hsizes := r.sizes.holds h (by simp)
  have hstatuses : ∀ field ∈ r.statuses.fields "status_code_distribution", r.toJson.Holds field :=
    r.statuses.holds h (by simp)
  have hcauses : ∀ field ∈ r.causes.fields "error_distribution", r.toJson.Holds field :=
    r.causes.holds h (by simp)
  have hids : r.toJson.Holds (["created_bill_ids"], .list (r.createdBillIds.map .integer)) :=
    KeysDistinct.holds h (by simp)
  have hcleanup := r.cleanup.holds h (by simp)
  simp only [PostRecord.fields, List.forall_mem_append, List.forall_mem_singleton]
  exact ⟨⟨⟨⟨⟨⟨⟨⟨htarget, hparameters⟩, hsummary⟩, hlatency⟩, hsizes⟩, hstatuses⟩, hcauses⟩, hids⟩,
    hcleanup⟩

/-! ## Texts of reports -/

/-- **The text of a value tells fields.** It is there, and it is a text of the grammar. However it
is read, the value as a whole is found in it, and every field under its keys: a double as a number
that it is the nearest one to, or as `null` if it is not finite. All layout is blanks outside of
texts. -/
structure Json.Told (v : Json) (fields : List ReportField) : Prop where
  printed : v.prettyText = .ok v.pretty
  readable : ∃ doc : Document, doc.bytes = Bytes.ofString v.pretty
  whole : ∀ doc : Document, doc.bytes = Bytes.ofString v.pretty → doc.item.Tells v
  found : ∀ doc : Document, doc.bytes = Bytes.ofString v.pretty →
    ∀ field ∈ fields, ∃ w, doc.item.at? field.1 = some w ∧ w.Tells field.2
  doubles : ∀ doc : Document, doc.bytes = Bytes.ofString v.pretty →
    ∀ path x, (path, .real x) ∈ fields → ∃ w, doc.item.at? path = some w ∧
      ((∃ n, w = .number n ∧ x.isFinite = true ∧ n.nearest = x) ∨ w = .null ∧ x.isFinite = false)
  layout : withoutBlanks .outside v.pretty.toList = v.compact.toList

/-- The text of a value whose keys are distinct tells what the value holds. -/
theorem Json.KeysDistinct.told {v : Json} (h : v.KeysDistinct) {fields : List ReportField}
    (hfields : ∀ field ∈ fields, v.Holds field) : v.Told fields := by
  obtain ⟨hreadable, hwhole⟩ := tells_of_pretty h
  have hfound : ∀ doc : Document, doc.bytes = Bytes.ofString v.pretty → ∀ field ∈ fields,
      ∃ w, doc.item.at? field.1 = some w ∧ w.Tells field.2 :=
    fun doc hdoc field hfield => (hwhole doc hdoc).at? (hfields field hfield)
  refine ⟨prettyText_eq v, hreadable, hwhole, hfound, ?_, withoutBlanks_pretty v⟩
  intro doc hdoc path x hx
  obtain ⟨w, hw, htells⟩ := hfound doc hdoc _ hx
  exact ⟨w, hw, Written.tells_real.mp htells⟩

/-- **The text of every report tells its fields**, and so does that of every report of posted bills,
of whatever values the fields are. A report that was put together from a run is written as its
record. -/
theorem report_texts_tell :
    (∀ r : Report, r.statuses.Ascending → r.causes.Ascending → r.toJson.Told r.fields) ∧
      (∀ r : PostRecord, r.statuses.Ascending → r.causes.Ascending → r.toJson.Told r.fields) ∧
      ∀ r : PostReport, r.record.toJson = r.toJson := by
  refine ⟨?_, ?_, PostReport.toJson_record⟩
  · intro r hstatuses hcauses
    have hdistinct := Report.keysDistinct hstatuses hcauses
    exact hdistinct.told (Report.holds hdistinct)
  · intro r hstatuses hcauses
    have hdistinct := PostRecord.keysDistinct hstatuses hcauses
    exact hdistinct.told (PostRecord.holds hdistinct)

/-- A report with keys that need escapes, a double that is not a number, and one that is too large
to be rounded. -/
def Report.odd : Report where
  summary := ⟨7, 5, 2, Double.negativeZero, Double.infinity false, Double.ofNat 3⟩
  latency :=
    { min := Double.nan, avg := Double.nan, median := Double.zero, p90 := Double.zero
      p95 := Double.ofNat 95, p99 := Double.ofNat 99, max := ⟨true, 0x7FE * 2 ^ 52, by decide⟩
      stdev := Double.infinity true }
  sizes := ⟨0, Double.ofNat 12, 24⟩
  statuses := Histogram.ofNames ["201", "\"quoted\"", "201"]
  causes := Histogram.ofNames ["back\\slash", "line\nbreak", "", "back\\slash"]

/-- A report of posted bills with texts that need escapes. -/
def PostRecord.odd : PostRecord where
  target := ⟨"a \"quoted\" name", "back\\slash\u0001"⟩
  parameters := ⟨"tab\tstop", 7, 2, Double.nan, 1, 30, 2 ^ 64 - 1, [3, 1, 2]⟩
  summary := Report.odd.summary
  createdCount := 5
  createdRate := Double.ofNat 71
  created := 5
  conflicting := 1
  invalid := 1
  failing := 0
  latency := Report.odd.latency
  sizes := Report.odd.sizes
  statuses := Report.odd.statuses
  causes := Report.odd.causes
  createdBillIds := [1, -2, 3]
  cleanup := ⟨true, 3, [1, -2, 3], some "an \"error\"\r\n"⟩

theorem report_texts_tell_odd :
    (Report.odd.statuses.Ascending ∧ Report.odd.causes.Ascending ∧
        Report.odd.toJson.Told Report.odd.fields) ∧
      PostRecord.odd.statuses.Ascending ∧ PostRecord.odd.causes.Ascending ∧
        PostRecord.odd.toJson.Told PostRecord.odd.fields := by
  have hstatuses : Report.odd.statuses.Ascending := Histogram.ascending_ofNames _
  have hcauses : Report.odd.causes.Ascending := Histogram.ascending_ofNames _
  obtain ⟨hreports, hrecords, -⟩ := report_texts_tell
  exact ⟨⟨hstatuses, hcauses, hreports _ hstatuses hcauses⟩,
    hstatuses, hcauses, hrecords _ hstatuses hcauses⟩

end HttpLoad
