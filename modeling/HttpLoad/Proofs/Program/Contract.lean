import HttpLoad.Proofs.Program.Ending
import HttpLoad.Proofs.Program.Plans

/-!
# What programs keep to

With settings that are wrong, both programs have done nothing. With settings that are right they get
as far as their report, whatever the service answers and however the store is reached: a request or
a cleanup that fails is part of the report, and has no say in the status. Of a report on posted
bills all that comes before the section on the cleanup is fixed before the store is turned to.

The draws of a run are assumed to return, and the lines of its bills to find room. A report that is
written to a device which keeps nothing cannot be read back.

## Main definitions

* `BenchProgram.Ends`, `PostProgram.Ends`: how the programs end with given options
* `BenchProgram.Contract`, `PostProgram.Contract`: what they keep to, over all their runs
* `PostArguments.DrawsReturn`: the bills of a run are drawn at all

## Main results

* `programs_end`: both programs keep to their contracts
* `report_forgotten`: a report that has been written need not be there
-/

namespace HttpLoad

variable {σ τ : Type}

/-- **A plan with a worker is executed**, whoever answers. -/
theorem Surroundings.execute_eq_ok (around : Surroundings σ) {plan : RunPlan}
    (hworkers : 0 < plan.workers) : ∃ record state, around.execute plan = .ok (record, state) :=
  let sent := plan.through (.ofEnvironment around.environment)
  ⟨_, _, RunPlan.execute_eq_executeWith _ sent hworkers _⟩

/-! ## Generic runs -/

/-- Of the files only the payload file is read for a plan. -/
theorem BenchArguments.plan_congr {a : BenchArguments}
    {read read' : String → Except FileFault Bytes}
    (h : ∀ path, a.payloadFile = some path → read path = read' path) :
    a.plan read = a.plan read' := by
  have hbodies : a.bodies read = a.bodies read' := by
    rw [bodies, bodies]
    cases hpath : a.payloadFile with
    | none => rfl
    | some path => simp only [h path hpath]
  rw [plan, plan, hbodies]

theorem BenchArguments.reportPath_of_plan {a : BenchArguments}
    {read : String → Except FileFault Bytes} {plan : RunPlan} (h : a.plan read = .ok plan) :
    plan.reportPath = a.reportPath := by
  simp only [BenchArguments.plan, bind_eq_ok_iff] at h
  obtain ⟨_, -, _, -, _, -, _, -, _, -, _, -, _, -, _, -, hplan⟩ := h
  obtain rfl := Except.ok.inj hplan
  rfl

namespace BenchProgram

/-- **How the program ends** with given options. -/
structure Ends (around : Surroundings σ) (a : BenchArguments) (r : ProgramResult σ) : Prop where
  idle : ∀ e, a.plan around.files.read = .error e → r.Idle around
  reported : ∀ plan, a.plan around.files.read = .ok plan →
    ∃ record, around.execute plan = .ok (record, r.state) ∧ r.usedStore = false ∧
      r.Reported around.files a.reportPath
        (Report.ofSamples record.samples record.wallTime).toJson

/-- The program reads the payload file, and so makes its plan with the files around it. -/
theorem runWith_eq (around : Surroundings σ) (a : BenchArguments) :
    runWith around a = around.resultOf (.error unreachable) fun out =>
      runPlan out (a.plan around.files.read) := by
  cases hpath : a.payloadFile with
  | none =>
    have hplan : (a.plan fun _ => .ok []) = a.plan around.files.read :=
      BenchArguments.plan_congr fun path h => nomatch hpath.symm.trans h
    simp only [runWith, runIn, payload, hpath, Surroundings.resultOf, stateM_bind_apply]
    rw [← hplan]
    rfl
  | some path =>
    have hplan : (a.plan fun _ => around.files.read path) = a.plan around.files.read := by
      refine BenchArguments.plan_congr fun other h => ?_
      obtain rfl := Option.some.inj (hpath.symm.trans h)
      rfl
    simp only [runWith, runIn, payload, hpath, Surroundings.resultOf, stateM_bind_apply]
    rw [← hplan]
    rfl

theorem runWith_of_error {around : Surroundings σ} {a : BenchArguments} {e : LoadError}
    (h : a.plan around.files.read = .error e) : runWith around a = .refused around e := by
  rw [runWith_eq, h]
  rfl

/-- **A run with a plan** ends with its report. -/
theorem ended_runWith {around : Surroundings σ} {a : BenchArguments} {plan : RunPlan}
    {record : RunRecord} {state : σ} (hplan : a.plan around.files.read = .ok plan)
    (hexecute : around.execute plan = .ok (record, state)) :
    ∃ filter, (closing filter plan record).Ended around.files state false
      (runWith around a) := by
  rw [runWith_eq, hplan]
  simp only [Surroundings.resultOf, runPlan, stateM_bind_apply,
    around.execute_outside _ around.untouched _ rfl hexecute]
  exact ⟨_, Closing.ended_finish _ around _ _ rfl rfl rfl rfl⟩

/-- **The program ends**, by whether its settings make a plan. -/
theorem ends_runWith (around : Surroundings σ) (a : BenchArguments) :
    Ends around a (runWith around a) := by
  cases hplan : a.plan around.files.read with
  | error e =>
    rw [runWith_of_error hplan]
    exact
      { idle := fun _ _ => ProgramResult.idle_refused around (a.early_plan _ e hplan)
        reported := fun _ h => nomatch hplan.symm.trans h }
  | ok plan =>
    obtain ⟨record, state, hexecute⟩ :=
      around.execute_eq_ok (BenchArguments.workers_pos_of_plan hplan)
    obtain ⟨filter, hended⟩ := ended_runWith hplan hexecute
    refine ⟨fun _ h => (nomatch hplan.symm.trans h), fun _ h => ?_⟩
    obtain rfl := Except.ok.inj (hplan.symm.trans h)
    refine ⟨record, ?_, hended.usedStore_eq, ?_⟩
    · rw [hended.state_eq, hexecute]
    · rw [← BenchArguments.reportPath_of_plan hplan]
      exact hended.reported

/-- **What the program keeps to** with given options: how it ends, that it asks nobody if it is
refused, and that its status is the same wherever it finds the same files. -/
structure Contract (around : Surroundings σ) (a : BenchArguments) : Prop where
  ends : ∃ r, run around = .ok r ∧ Ends around a r
  refused : ∀ e, a.plan around.files.read = .error e → run around = .ok (.refused around e)
  exitStatus_eq : ∀ {τ : Type} (other : Surroundings τ), BenchArguments.parse other.words = .ok a →
    other.files = around.files → ∀ r r', run around = .ok r → run other = .ok r' →
      r'.exitStatus = r.exitStatus

theorem run_eq {around : Surroundings σ} {a : BenchArguments}
    (h : BenchArguments.parse around.words = .ok a) : run around = .ok (runWith around a) := by
  rw [run, h]
  rfl

theorem Ends.exitStatus_eq {around : Surroundings σ} {other : Surroundings τ} {a : BenchArguments}
    {r : ProgramResult σ} {r' : ProgramResult τ} (h : Ends around a r) (h' : Ends other a r')
    (hfiles : other.files = around.files) : r'.exitStatus = r.exitStatus := by
  cases hplan : a.plan around.files.read with
  | error e => rw [(h.idle e hplan).exitStatus_eq, (h'.idle e (hfiles ▸ hplan)).exitStatus_eq]
  | ok plan =>
    obtain ⟨_, -, -, hr⟩ := h.reported plan hplan
    obtain ⟨_, -, -, hr'⟩ := h'.reported plan (hfiles ▸ hplan)
    exact hr.exitStatus_eq (hfiles ▸ hr')

theorem contract {around : Surroundings σ} {a : BenchArguments}
    (h : BenchArguments.parse around.words = .ok a) : Contract around a where
  ends := ⟨_, run_eq h, ends_runWith around a⟩
  refused e he := by
    rw [run_eq h, runWith_of_error he]
  exitStatus_eq other hother hfiles r r' hr hr' := by
    obtain rfl := Except.ok.inj ((run_eq h).symm.trans hr)
    obtain rfl := Except.ok.inj ((run_eq hother).symm.trans hr')
    exact (ends_runWith around a).exitStatus_eq (ends_runWith other a) hfiles

end BenchProgram

/-! ## Bill-posting runs -/

namespace PostArguments

/-- **The bills of a run are drawn**: every draw returns, and there is room for the lines of every
bill. -/
def DrawsReturn (a : PostArguments) (when_ : PostProgram.Calendar) : Prop :=
  ∀ s, a.settings when_.unixSeconds = .ok s →
    s.batch when_.today ≠ .error .tooManyRejections ∧
      s.batch when_.today ≠ .error .capacityOverflow

theorem checkedMarker_of_ok {a : PostArguments} {unixSeconds : Nat} {marker : String}
    (h : a.checkedMarker unixSeconds = .ok marker) (later : Nat) :
    ∃ marker, a.checkedMarker later = .ok marker := by
  rw [checkedMarker] at h ⊢
  split at h
  · exact ⟨_, rfl⟩
  · exact ⟨_, h⟩

/-- Whether settings are right does not depend on the time, which is only part of the marker. -/
theorem settings_of_ok {a : PostArguments} {unixSeconds : Nat} {s : PostSettings}
    (h : a.settings unixSeconds = .ok s) (later : Nat) : ∃ s', a.settings later = .ok s' := by
  simp only [settings, bind_eq_ok_iff] at h ⊢
  obtain ⟨total, htotal, concurrency, hconcurrency, deadline, hdeadline, lines, hlines, url, hurl,
    marker, hmarker, -⟩ := h
  obtain ⟨marker', hmarker'⟩ := checkedMarker_of_ok hmarker later
  exact ⟨_, total, htotal, concurrency, hconcurrency, deadline, hdeadline, lines, hlines, url, hurl,
    marker', hmarker', rfl⟩

theorem kept_of_settings {a : PostArguments} {unixSeconds : Nat} {s : PostSettings}
    (h : a.settings unixSeconds = .ok s) :
    s.reportPath = a.reportPath ∧ s.skipsCleanup = a.skipsCleanup := by
  simp only [settings, bind_eq_ok_iff] at h
  obtain ⟨_, -, _, -, _, -, _, -, _, -, _, -, hs⟩ := h
  obtain rfl := Except.ok.inj hs
  exact ⟨rfl, rfl⟩

end PostArguments

/-- **Reports that differ in the cleanup only** have the same sections before the last one. -/
theorem PostReport.toJson_of (target : Target) (parameters : RunParameters) (samples : List Sample)
    (wall : WallTime) :
    ∃ members : List (String × Json), (∀ m ∈ members, m.1 ≠ "cleanup") ∧ ∀ cleanup,
      (PostReport.of target parameters samples wall cleanup).toJson =
        .object (members ++ [("cleanup", cleanup.toJson)]) := by
  let r := PostReport.of target parameters samples wall .skipped
  refine ⟨[
    ("target", target.toJson),
    ("run", parameters.toJson),
    ("summary", .object r.summaryMembers),
    ("latency_ms", r.report.latency.toJson),
    ("response_size_bytes", r.report.sizes.toJson),
    ("status_code_distribution", r.report.statuses.toJson),
    ("error_distribution", r.report.causes.toJson),
    ("created_bill_ids", .list (r.createdBillIds.map .integer))], by simp, fun cleanup => ?_⟩
  rfl

namespace PostProgram

theorem attempted_connectAndCleanup (settings : StoreSettings) (contact : StoreContact)
    (marker : String) : (connectAndCleanup settings contact marker).1.attempted = true := by
  cases contact with
  | error e => rfl
  | ok store =>
    rw [connectAndCleanup, cleanup]
    split <;> rfl

/-- **A cleanup is attempted** exactly if it is not to be skipped. -/
theorem attempted_cleanUp (s : PostSettings) (contact : StoreContact) :
    (cleanUp s contact).1.attempted = !s.skipsCleanup := by
  rw [cleanUp]
  split
  · next hskips => rw [hskips]; rfl
  · next hskips =>
    rw [Bool.not_eq_true] at hskips
    rw [hskips]
    exact attempted_connectAndCleanup _ _ _

/-- **How the program ends** with given options. By the time it prints its report the cleanup has
been attempted, unless it is to be skipped. -/
structure Ends (around : Surroundings σ) (when_ : Calendar) (contact : StoreContact)
    (a : PostArguments) (r : ProgramResult σ) : Prop where
  idle : ∀ e, a.settings when_.unixSeconds = .error e → r.Idle around
  reported : ∀ s, a.settings when_.unixSeconds = .ok s → ∃ batch plan record,
    s.batch when_.today = .ok batch ∧ s.plan batch.bodies = .ok plan ∧
      around.execute plan = .ok (record, r.state) ∧ r.usedStore = !a.skipsCleanup ∧
      (cleanUp s contact).1.attempted = !a.skipsCleanup ∧
      r.Reported around.files a.reportPath
        (report s batch record (cleanUp s contact).1).toJson

section

variable (around : Surroundings σ) {when_ : Calendar} {a : PostArguments} {s : PostSettings}

/-- The store has no say in a cleanup that is to be skipped. -/
theorem cleanUp_of_skipped {s : PostSettings} (h : s.skipsCleanup = true) (contact : StoreContact) :
    cleanUp s contact = (.skipped, []) := if_pos h

theorem cleanUp_of_not_skipped {s : PostSettings} (h : s.skipsCleanup = false)
    (contact : StoreContact) :
    cleanUp s contact = ((connectAndCleanup s.store contact s.marker).1,
      [(connectAndCleanup s.store contact s.marker).2]) := by
  simp only [cleanUp, h, Bool.false_eq_true, if_false]

/-- **The cleanup of a run** turns to the store unless it is skipped, and tells how it went. -/
theorem cleanUpIn_outside (s : PostSettings) (contact : StoreContact) (t : Traces σ) :
    (cleanUpIn (around.outside contact) s t).1 = (cleanUp s contact).1 ∧
      Traces.Told { t with usedStore := t.usedStore || !s.skipsCleanup }
        (cleanUpIn (around.outside contact) s t).2 := by
  cases hskips : s.skipsCleanup with
  | true =>
    simp only [cleanUpIn, hskips, if_true, stateM_bind_apply, cleanUp_of_skipped hskips]
    exact ⟨rfl, rfl, rfl, rfl, (Bool.or_false _).symm⟩
  | false =>
    simp only [cleanUpIn, hskips, Bool.false_eq_true, if_false, stateM_bind_apply,
      cleanUp_of_not_skipped hskips]
    exact ⟨rfl, rfl, rfl, rfl, (Bool.or_true _).symm⟩

/-- **A run with a plan** ends with its report. -/
theorem ended_runPlan {batch : Batch} {plan : RunPlan} {record : RunRecord} {state : σ}
    (hexecute : around.execute plan = .ok (record, state)) (contact : StoreContact) :
    ∃ filter, (closing filter s (report s batch record (cleanUp s contact).1)).Ended around.files
      state (!s.skipsCleanup) (around.resultOf contact fun out => runPlan out s batch plan) := by
  have hran (filter : LogFilter) (text : String) :=
    around.execute_outside contact (around.untouched.tell text) filter rfl hexecute
  have hclean := cleanUpIn_outside around s contact
  refine ⟨(around.outside contact).filter s.quiet, ?_⟩
  simp only [Surroundings.resultOf, runPlan, stateM_bind_apply, Surroundings.log_outside, hran,
    (hclean _).1]
  exact Closing.ended_finish _ around contact _ (hclean _).2.stdout_eq (hclean _).2.files_eq
    (hclean _).2.state_eq (hclean _).2.usedStore_eq

/-- **A run with checked settings** has its bills, its plan and its samples before the store is
turned to, and then ends with its report. -/
theorem runWith_of_settings (hdraws : a.DrawsReturn when_)
    (hsettings : a.settings when_.unixSeconds = .ok s) :
    ∃ batch plan record state, s.batch when_.today = .ok batch ∧
      s.plan batch.bodies = .ok plan ∧ around.execute plan = .ok (record, state) ∧
      ∀ contact, ∃ filter, (closing filter s (report s batch record (cleanUp s contact).1)).Ended
        around.files state (!a.skipsCleanup) (runWith around when_ contact a) := by
  have hchecked := PostArguments.checked_of_settings hsettings
  obtain ⟨hpath, hskips⟩ := PostArguments.kept_of_settings hsettings
  obtain ⟨hreturns, hroom⟩ := hdraws s hsettings
  rcases hchecked.batch_eq when_.today with ⟨_, hfault, hundrawn⟩ | ⟨batch, hbatch, -⟩
  · cases hundrawn with
    | rejected => exact absurd hfault hreturns
    | crowded _ => exact absurd hfault hroom
  obtain ⟨plan, hplan, -, -, -, hworkers, -⟩ := hchecked.plan_eq batch.bodies
  obtain ⟨record, state, hexecute⟩ := around.execute_eq_ok hworkers
  refine ⟨batch, plan, record, state, hbatch, hplan, hexecute, fun contact => ?_⟩
  obtain ⟨filter, hended⟩ := ended_runPlan around hexecute contact
  refine ⟨filter, ?_⟩
  rw [← hskips]
  simpa only [runWith, Surroundings.resultOf, runIn, hsettings, runSettings, hbatch, hplan] using
    hended

theorem runWith_of_error {e : LoadError} (h : a.settings when_.unixSeconds = .error e)
    (contact : StoreContact) : runWith around when_ contact a = .refused around e := by
  simp only [runWith, runIn, h]
  rfl

/-- **The program ends**, by whether its settings are right. -/
theorem ends_runWith (hdraws : a.DrawsReturn when_) (contact : StoreContact) :
    Ends around when_ contact a (runWith around when_ contact a) := by
  cases hsettings : a.settings when_.unixSeconds with
  | error e =>
    rw [runWith_of_error around hsettings]
    exact
      { idle := fun _ _ => ProgramResult.idle_refused around (a.early_settings _ e hsettings)
        reported := fun _ h => nomatch hsettings.symm.trans h }
  | ok s =>
    refine ⟨fun _ h => (nomatch hsettings.symm.trans h), fun _ h => ?_⟩
    obtain rfl := Except.ok.inj (hsettings.symm.trans h)
    obtain ⟨batch, plan, record, state, hbatch, hplan, hexecute, hends⟩ :=
      runWith_of_settings around hdraws hsettings
    obtain ⟨hpath, hskips⟩ := PostArguments.kept_of_settings hsettings
    obtain ⟨filter, hended⟩ := hends contact
    refine ⟨batch, plan, record, hbatch, hplan, ?_, hended.usedStore_eq, ?_, ?_⟩
    · rw [hended.state_eq, hexecute]
    · rw [attempted_cleanUp, hskips]
    · rw [← hpath]
      exact hended.reported

/-- **The store decides on the last section** of the report only. -/
theorem stdout_runWith (hdraws : a.DrawsReturn when_)
    (hsettings : a.settings when_.unixSeconds = .ok s) :
    ∃ members : List (String × Json), (∀ m ∈ members, m.1 ≠ "cleanup") ∧
      ∀ contact, (runWith around when_ contact a).stdout =
        endLine (Json.object (members ++ [("cleanup", (cleanUp s contact).1.toJson)])).pretty := by
  obtain ⟨batch, _, record, _, -, -, -, hends⟩ :=
    runWith_of_settings around hdraws hsettings
  obtain ⟨members, hmembers, hreport⟩ := PostReport.toJson_of s.target
    (s.parameters batch.linesPerBill) record.samples record.wallTime
  refine ⟨members, hmembers, fun contact => ?_⟩
  obtain ⟨filter, hended⟩ := hends contact
  rw [hended.reported.stdout_eq, closing, report, hreport]

end

/-- **What the program keeps to** with given options at a given time: how it ends, that it asks
nobody if it is refused, that the store decides on the last section of the report only, and that the
status is the same wherever and whenever it finds the same files. -/
structure Contract (around : Surroundings σ) (when_ : Calendar) (a : PostArguments) : Prop where
  ends : ∀ contact, ∃ r, run around when_ contact = .ok r ∧ Ends around when_ contact a r
  refused : ∀ e, a.settings when_.unixSeconds = .error e →
    ∀ contact, run around when_ contact = .ok (.refused around e)
  stdout_eq : ∀ s, a.settings when_.unixSeconds = .ok s →
    ∃ members : List (String × Json), (∀ m ∈ members, m.1 ≠ "cleanup") ∧
      ∀ contact r, run around when_ contact = .ok r → r.stdout =
        endLine (Json.object (members ++ [("cleanup", (cleanUp s contact).1.toJson)])).pretty
  exitStatus_eq : ∀ {τ : Type} (other : Surroundings τ) (later : Calendar),
    PostArguments.parse other.environment other.words = .ok a → other.files = around.files →
      a.DrawsReturn later → ∀ contact contact' r r', run around when_ contact = .ok r →
        run other later contact' = .ok r' → r'.exitStatus = r.exitStatus

theorem run_eq {around : Surroundings σ} {a : PostArguments}
    (h : PostArguments.parse around.environment around.words = .ok a) (when_ : Calendar)
    (contact : StoreContact) :
    run around when_ contact = .ok (runWith around when_ contact a) := by
  rw [run, h]
  rfl

theorem Ends.exitStatus_eq {around : Surroundings σ} {other : Surroundings τ}
    {when_ later : Calendar} {contact contact' : StoreContact} {a : PostArguments}
    {r : ProgramResult σ} {r' : ProgramResult τ} (h : Ends around when_ contact a r)
    (h' : Ends other later contact' a r') (hfiles : other.files = around.files) :
    r'.exitStatus = r.exitStatus := by
  -- settings that are right at one time are right at any other
  cases hsettings : a.settings when_.unixSeconds with
  | error e =>
    cases hother : a.settings later.unixSeconds with
    | error e' => rw [(h.idle e hsettings).exitStatus_eq, (h'.idle e' hother).exitStatus_eq]
    | ok s' =>
      obtain ⟨s, hs⟩ := PostArguments.settings_of_ok hother when_.unixSeconds
      exact nomatch hsettings.symm.trans hs
  | ok s =>
    obtain ⟨s', hs'⟩ := PostArguments.settings_of_ok hsettings later.unixSeconds
    obtain ⟨_, _, _, -, -, -, -, -, hr⟩ := h.reported s hsettings
    obtain ⟨_, _, _, -, -, -, -, -, hr'⟩ := h'.reported s' hs'
    exact hr.exitStatus_eq (hfiles ▸ hr')

theorem contract {around : Surroundings σ} {when_ : Calendar} {a : PostArguments}
    (h : PostArguments.parse around.environment around.words = .ok a)
    (hdraws : a.DrawsReturn when_) : Contract around when_ a where
  ends contact := ⟨_, run_eq h when_ contact, ends_runWith around hdraws contact⟩
  refused e he contact := by
    rw [run_eq h, runWith_of_error around he]
  stdout_eq s hs := by
    obtain ⟨members, hmembers, hstdout⟩ := stdout_runWith around hdraws hs
    refine ⟨members, hmembers, fun contact r hr => ?_⟩
    obtain rfl := Except.ok.inj ((run_eq h when_ contact).symm.trans hr)
    exact hstdout contact
  exitStatus_eq other later hother hfiles hlater contact contact' r r' hr hr' := by
    obtain rfl := Except.ok.inj ((run_eq h when_ contact).symm.trans hr)
    obtain rfl := Except.ok.inj ((run_eq hother later contact').symm.trans hr')
    exact (ends_runWith around hdraws contact).exitStatus_eq (ends_runWith other hlater contact')
      hfiles

end PostProgram

/-- **Both programs keep to their contracts** with all options that a command line can give. -/
theorem programs_end (around : Surroundings σ) :
    (∀ a, BenchArguments.parse around.words = .ok a → BenchProgram.Contract around a) ∧
      ∀ a when_, PostArguments.parse around.environment around.words = .ok a →
        a.DrawsReturn when_ → PostProgram.Contract around when_ a :=
  ⟨fun _ h => BenchProgram.contract h, fun _ _ h hdraws => PostProgram.contract h hdraws⟩

/-- Options with nothing but an address and a file for the report. -/
def reportTo (path : String) : BenchArguments :=
  { BenchArguments.addressOnly with reportPath := some path }

/-- A place where nobody answers, with a command line that asks for a report in a file. -/
def nowhereTo (path : String) : Surroundings Unit :=
  { BenchArguments.nowhere with words := ["--url", "http://[::1]:8080/", "--output-json", path] }

/-- A place where nobody answers, with a command line for two bills. -/
def nowhereWithBills : Surroundings Unit :=
  { BenchArguments.nowhere with
    words := ["--url", "http://[::1]:8080/bills", "--requests", "2", "--min-lines", "1",
      "--max-lines", "2", "--prefix", "run"] }

/-- Where nobody answers both programs end with zero: the one with its report in a file, the other
one however the store is reached. -/
theorem programs_end_nowhere :
    (∃ r text, BenchProgram.run (nowhereTo "report.json") = .ok r ∧ r.exitStatus = 0 ∧
      r.stdout = endLine text ∧ r.files.read "report.json" = .ok (Bytes.ofString text)) ∧
    ∀ contact, ∃ r, PostProgram.run nowhereWithBills ⟨0, leapDay⟩ contact = .ok r ∧
      r.exitStatus = 0 := by
  constructor
  · have hparse : BenchArguments.parse (nowhereTo "report.json").words =
        .ok (reportTo "report.json") := toOption_eq_some_iff.mp (by decide +kernel)
    have hplan : ((reportTo "report.json").plan (FileStore.read {})).toOption.isSome = true := by
      decide +kernel
    have hplace : FileStore.resolve {} "report.json" = .ok ["report.json"] :=
      toOption_eq_some_iff.mp (by decide +kernel)
    have htakes : FileStore.Takes {} "report.json" :=
      ⟨_, hplace, by decide +kernel, by decide +kernel, by decide +kernel⟩
    obtain ⟨plan, hplan⟩ := Option.isSome_iff_exists.mp hplan
    obtain ⟨r, hr, hends⟩ := ((programs_end (nowhereTo "report.json")).1 _ hparse).ends
    obtain ⟨_, -, -, hreported⟩ := hends.reported plan (toOption_eq_some_iff.mp hplan)
    have hstatus : r.exitStatus = 0 := hreported.exitStatus_eq_zero (by
      rintro _ ⟨⟩
      exact htakes)
    refine ⟨r, _, hr, hstatus, hreported.stdout_eq, ?_⟩
    refine (hreported.written hstatus _ rfl).2.resolve_left ?_
    rintro ⟨place, hforgets, hsink⟩
    obtain rfl := Except.ok.inj (hplace.symm.trans hforgets)
    exact absurd hsink (by decide +kernel)
  · intro contact
    have hparse : PostArguments.parse nowhereWithBills.environment nowhereWithBills.words =
        .ok twoBills := toOption_eq_some_iff.mp (by decide +kernel)
    have hsettings : twoBills.settings 0 = .ok twoBillsSettings :=
      toOption_eq_some_iff.mp (by decide +kernel)
    have hdraws : twoBills.DrawsReturn ⟨0, leapDay⟩ := by
      intro s hs
      obtain rfl := Except.ok.inj (hsettings.symm.trans hs)
      have hdrawn : fault? (twoBillsSettings.batch leapDay) = none := by decide +kernel
      constructor
      · exact fun hfault => nomatch hdrawn.symm.trans (fault?_eq_some_iff.mpr hfault)
      · exact fun hfault => nomatch hdrawn.symm.trans (fault?_eq_some_iff.mpr hfault)
    obtain ⟨r, hr, hends⟩ :=
      ((programs_end nowhereWithBills).2 _ ⟨0, leapDay⟩ hparse hdraws).ends contact
    obtain ⟨_, _, _, -, -, -, -, -, hreported⟩ := hends.reported _ hsettings
    exact ⟨r, hr, hreported.exitStatus_eq_zero (fun _ h => nomatch h)⟩

/-- The text of an object has a brace at least. -/
theorem ofString_pretty_ne_nil (member : String × Json) (members : List (String × Json)) :
    Bytes.ofString (Json.object (member :: members)).pretty ≠ [] := by
  simp [Json.pretty, Json.prettyThen, Bytes.ofString, Bytes.ofChars]

/-- **A report that has been written need not be there**: a device may take it and keep nothing. -/
theorem report_forgotten :
    ∃ r text, BenchProgram.run (nowhereTo "/dev/null") = .ok r ∧ r.exitStatus = 0 ∧
      r.stdout = endLine text ∧ r.files.read "/dev/null" ≠ .ok (Bytes.ofString text) := by
  have hparse : BenchArguments.parse (nowhereTo "/dev/null").words =
      .ok (reportTo "/dev/null") := toOption_eq_some_iff.mp (by decide +kernel)
  have hplan : ((reportTo "/dev/null").plan (FileStore.read {})).toOption.isSome = true := by
    decide +kernel
  have hplace : FileStore.resolve {} "/dev/null" = .ok ["/", "dev", "null"] :=
    toOption_eq_some_iff.mp (by decide +kernel)
  have htakes : FileStore.Takes {} "/dev/null" :=
    ⟨_, hplace, by decide +kernel, by decide +kernel, by decide +kernel⟩
  obtain ⟨plan, hplan⟩ := Option.isSome_iff_exists.mp hplan
  obtain ⟨record, -, -, hreported⟩ := (BenchProgram.ends_runWith (nowhereTo "/dev/null")
    (reportTo "/dev/null")).reported plan (toOption_eq_some_iff.mp hplan)
  have hstatus := hreported.exitStatus_eq_zero (by
    rintro _ ⟨⟩
    exact htakes)
  refine ⟨_, _, BenchProgram.run_eq hparse, hstatus, hreported.stdout_eq, ?_⟩
  have hforgets : FileStore.Forgets {} "/dev/null" := ⟨_, hplace, by decide +kernel⟩
  rw [hforgets.read_of_write (hreported.written hstatus _ rfl).1]
  exact fun h => ofString_pretty_ne_nil _ _ (Except.ok.inj h).symm

end HttpLoad
