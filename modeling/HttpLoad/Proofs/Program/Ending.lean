import HttpLoad.Program.Posting
import HttpLoad.Proofs.Basic

/-!
# How programs end

A program that finds its settings wrong has done nothing but say so. A program that has a report
prints it and then writes it to its file, and its status tells whether that could be done.

## Main definitions

* `FileStore.Takes store written`: a file can be written under a path
* `FileStore.Forgets store written`: the path leads to a device that keeps nothing
* `Early x`: what is found wrong by `x` is found before the first request
* `ProgramResult.Idle`, `ProgramResult.Reported`: the two ways to end
* `Closing.Ended`: how a program ends that has a report

## Main results

* `FileStore.write_ok_iff`: what can be written does not depend on the content
* `FileStore.read_of_write`: what has been written is read back
* `BenchArguments.early_plan`, `PostArguments.early_settings`: the checks of both programs
* `ProgramResult.Reported.exitStatus_eq`: what the status of a report depends on
* `Closing.ended_finish`: a program that has a report ends with it
-/

namespace HttpLoad

/-!
## What is read of a written file

A path is followed from directory to directory. Writing a file takes no directory away, so the path
leads to the same place afterwards, where what has been written is found, unless a device stands
there. Whether a file can be written depends on where its path leads, and not on the content.
-/

namespace FileStore

variable {store after : FileStore} {place : Place} {written : String} {content : Bytes}

/-- **A file can be written under a path**: it leads somewhere, and neither to a directory nor to a
device that takes nothing. -/
def Takes (store : FileStore) (written : String) : Prop :=
  ∃ place, store.resolve written = .ok place ∧ written.endsWith "/" = false ∧
    store.entry? place ≠ some .directory ∧ store.entry? place ≠ some .full

/-- **A path leads to a device that keeps nothing** of what is written to it. -/
def Forgets (store : FileStore) (written : String) : Prop :=
  ∃ place, store.resolve written = .ok place ∧ store.entry? place = some .sink

/-! ### Where a path leads -/

theorem enter_eq_ok_iff {name : String} {further : Place} :
    store.enter place name = .ok further ↔
      store.entry? place = some .directory ∧ name.utf8ByteSize ≤ nameMax ∧
        place.step name = further := by
  rw [enter]
  split
  · next h => simp [h]
  · next h =>
    split
    · next hlong => simp [Nat.not_le.mpr hlong]
    · next hshort => simp [h, Nat.not_lt.mp hshort]
  · next entry hother hentry =>
    simp only [hentry, Option.some.injEq]
    exact ⟨(nomatch ·), fun h => absurd h.1 hother⟩

/-- A path that can be followed can still be followed when there are more directories. -/
theorem foldlM_enter (h : ∀ q, store.entry? q = some .directory → after.entry? q = some .directory)
    {names : List String} {start : Place} (hnames : names.foldlM store.enter start = .ok place) :
    names.foldlM after.enter start = .ok place := by
  induction names generalizing start with
  | nil => exact hnames
  | cons name names ih =>
    rw [List.foldlM_cons, bind_eq_ok_iff] at hnames ⊢
    obtain ⟨further, henter, hrest⟩ := hnames
    obtain ⟨hdirectory, hname⟩ := enter_eq_ok_iff.mp henter
    exact ⟨further, enter_eq_ok_iff.mpr ⟨h _ hdirectory, hname⟩, ih hrest⟩

theorem resolve_of_directories
    (h : ∀ q, store.entry? q = some .directory → after.entry? q = some .directory)
    (hplace : store.resolve written = .ok place) : after.resolve written = .ok place := by
  rw [resolve] at hplace ⊢
  split at hplace
  · cases hplace
  · split at hplace
    · cases hplace
    · split at hplace
      · cases hplace
      · next h1 h2 h3 =>
        rw [if_neg h1, if_neg h2, if_neg h3]
        exact foldlM_enter h hplace

/-! ### A store with one more file -/

/-- The store with a file at a place. -/
def withFile (store : FileStore) (place : Place) (content : Bytes) : FileStore where
  entries := (place, .file content) :: store.entries

/-- What stands at a place that does not lead above: what is listed for it first, or else the
directory of something that is listed. -/
theorem entry?_eq_or (habove : ¬place.all (· = Place.aboveName) = true) :
    store.entry? place = ((store.entries ++ common).lookup place).or
      (if (store.entries ++ common).any fun e => place.isPrefixOf e.1 then some .directory
        else none) := by
  rw [ entry?, if_neg habove]
  dsimp only
  cases (store.entries ++ common).lookup place with
  | some entry => rfl
  | none => rfl

theorem entry?_withFile (h : store.entry? place ≠ some .directory) :
    FileStore.entry? (store.withFile place content) place = some (.file content) := by
  have habove : ¬place.all (· = Place.aboveName) = true := fun hall =>
    h (by rw [ entry?, if_pos hall])
  rw [entry?_eq_or habove, withFile, List.cons_append, List.lookup_cons, beq_self_eq_true]
  rfl

/-- A file takes no directory away. -/
theorem directory_withFile (hplace : store.entry? place ≠ some .directory) {q : Place}
    (h : store.entry? q = some .directory) :
    FileStore.entry? (store.withFile place content) q = some .directory := by
  have hne : (q == place) = false := beq_false_of_ne fun heq => hplace (heq ▸ h)
  by_cases habove : q.all (· = Place.aboveName) = true
  · rw [ entry?, if_pos habove]
  · rw [entry?_eq_or habove] at h ⊢
    rw [withFile, List.cons_append, List.lookup_cons, hne, List.any_cons]
    cases hlookup : (store.entries ++ common).lookup q with
    | some entry => simpa [hlookup] using h
    | none =>
      rw [hlookup, Option.none_or] at h
      obtain ⟨hany, -⟩ := Option.ite_none_right_eq_some.mp h
      rw [hany, Bool.or_true]
      rfl

/-! ### What is written -/

/-- **What writing a file comes to**: where it can be written, it is there afterwards, except on a
device that keeps nothing. -/
theorem write_eq_ok_iff :
    store.write written content = .ok after ↔
      ∃ place, store.resolve written = .ok place ∧ written.endsWith "/" = false ∧
        store.entry? place ≠ some .directory ∧ store.entry? place ≠ some .full ∧
          (if store.entry? place = some .sink then store
            else store.withFile place content) = after := by
  simp only [write, bind_eq_ok_iff]
  refine exists_congr fun place => and_congr_right fun _ => ?_
  split
  · next hends =>
    rw [hends]
    exact ⟨(nomatch ·), fun h => nomatch h.1⟩
  · next hends =>
    rw [Bool.not_eq_true] at hends
    simp only [hends, true_and]
    cases hentry : store.entry? place with
    | none => simp [withFile, pure, Except.pure]
    | some entry =>
      cases entry with
      | file => simp [withFile, pure, Except.pure]
      | directory => simp [throw, throwThe, MonadExceptOf.throw]
      | sink => simp [pure, Except.pure]
      | full => simp [throw, throwThe, MonadExceptOf.throw]

/-- **Whether a file can be written** depends on its path alone. -/
theorem write_ok_iff (content : Bytes) :
    (∃ after, store.write written content = .ok after) ↔ store.Takes written := by
  simp only [write_eq_ok_iff, Takes]
  constructor
  · rintro ⟨_, place, hplace, hends, hdirectory, hfull, -⟩
    exact ⟨place, hplace, hends, hdirectory, hfull⟩
  · rintro ⟨place, hplace, hends, hdirectory, hfull⟩
    exact ⟨_, place, hplace, hends, hdirectory, hfull, rfl⟩

theorem write_error_iff (content : Bytes) :
    (∃ fault, store.write written content = .error fault) ↔ ¬store.Takes written := by
  rw [← write_ok_iff content]
  cases store.write written content <;> simp

theorem read_eq_ok {entry : FileEntry} (hplace : store.resolve written = .ok place)
    (hends : written.endsWith "/" = false) (hentry : store.entry? place = some entry)
    (hcontent : contentOf? entry = some content) : store.read written = .ok content := by
  rw [read, hplace]
  simp only [bind, Except.bind, hentry, hcontent, hends]
  rfl

/-- **What has been written is read back** under the same path, except from a device that keeps
nothing. -/
theorem read_of_write (h : store.write written content = .ok after) :
    store.Forgets written ∨ after.read written = .ok content := by
  obtain ⟨place, hplace, hends, hdirectory, -, hafter⟩ := write_eq_ok_iff.mp h
  by_cases hsink : store.entry? place = some .sink
  · exact .inl ⟨place, hplace, hsink⟩
  · rw [if_neg hsink] at hafter
    obtain rfl := hafter
    have hresolved : (store.withFile place content).resolve written = .ok place :=
      resolve_of_directories (fun q hq => directory_withFile hdirectory hq) hplace
    exact .inr (read_eq_ok hresolved hends (entry?_withFile hdirectory) rfl)

/-- A device that keeps nothing is empty after a file has been written to it. -/
theorem Forgets.read_of_write (hforgets : store.Forgets written)
    (h : store.write written content = .ok after) : after.read written = .ok [] := by
  obtain ⟨place, hplace, hsink⟩ := hforgets
  obtain ⟨place', hplace', hends, -, -, hafter⟩ := write_eq_ok_iff.mp h
  obtain rfl := Except.ok.inj (hplace.symm.trans hplace')
  rw [if_pos hsink] at hafter
  obtain rfl := hafter
  exact read_eq_ok hplace hends hsink rfl

end FileStore

/-!
## What is found wrong with settings

Each check of a setting may fail, and a check that comes later is made only if the ones before have
not failed. Whatever they find, it is found before the first request, and a program that finds it
ends with status two.
-/

/-- **A check fails early**: if at all, then before the first request. -/
def Early {α : Type} (x : Except LoadError α) : Prop := ∀ e, x = .error e → e.exitStatus = 2

section

variable {α β : Type}

theorem early_ok (a : α) : Early (.ok a : Except LoadError α) := fun _ h => nomatch h

theorem early_error {e : LoadError} (h : e.isEarly = true) :
    Early (.error e : Except LoadError α) := by
  intro _ he
  obtain rfl := Except.error.inj he
  rw [LoadError.exitStatus, if_pos h]

theorem Early.bind {x : Except LoadError α} {f : α → Except LoadError β} (hx : Early x)
    (hf : ∀ a, Early (f a)) : Early (x >>= f) := by
  cases x with
  | error e =>
    intro e' he
    obtain rfl := Except.error.inj he
    exact hx e rfl
  | ok a => exact hf a

theorem Early.map {x : Except LoadError α} (hx : Early x) (f : α → β) : Early (x.map f) :=
  hx.bind fun a => early_ok (f a)

theorem early_ite {p : Prop} [Decidable p] {x y : Except LoadError α} (hx : Early x)
    (hy : Early y) : Early (if p then x else y) := by
  split
  · exact hx
  · exact hy

end

theorem early_positiveCount (option : String) (value : Int) : Early (positiveCount option value) :=
  early_ite (early_error rfl) (early_ok _)

theorem early_countFromZero (option : String) (value : Int) : Early (countFromZero option value) :=
  early_ite (early_error rfl) (early_ok _)

theorem early_deadline (option : String) (seconds : Double) :
    Early (Deadline.ofSeconds option seconds) :=
  early_ite (early_error rfl) (early_ite (early_error rfl) (early_ok _))

theorem early_webAddress (text : String) : Early (webAddress text) := by
  rw [webAddress]
  split
  · exact early_ok _
  · exact early_error rfl
  · exact early_error rfl

theorem early_method (name : String) : Early (Method.parse name) :=
  early_ite (early_ok _) (early_error rfl)

/-- Fields are added one after the other, until one of the texts is none. -/
theorem early_addAll (headers : Headers) (texts : List String) : Early (headers.addAll texts) := by
  induction texts generalizing headers with
  | nil => exact early_ok _
  | cons text texts ih =>
    rw [Headers.addAll]
    split
    · exact ih _
    · exact early_error rfl

theorem early_loadPayload (path : String) (content : Except FileFault Bytes) :
    Early (loadPayload path content) := by
  cases content with
  | error fault => exact early_error rfl
  | ok document =>
    rw [loadPayload]
    split
    · exact early_error rfl
    · exact early_ok _

namespace BenchArguments

theorem early_bodies (a : BenchArguments) (read : String → Except FileFault Bytes) :
    Early (a.bodies read) := by
  rw [bodies]
  split
  · exact early_ok _
  · exact (early_loadPayload _ _).map _

/-- **What is wrong with the settings of a generic run** is found before the first request. -/
theorem early_plan (a : BenchArguments) (read : String → Except FileFault Bytes) :
    Early (a.plan read) := by
  refine (early_positiveCount _ _).bind fun _ => ?_
  refine (early_positiveCount _ _).bind fun _ => ?_
  refine (early_countFromZero _ _).bind fun _ => ?_
  refine (early_deadline _ _).bind fun _ => ?_
  refine (early_webAddress _).bind fun _ => ?_
  refine (early_method _).bind fun _ => ?_
  refine (early_addAll _ _).bind fun _ => ?_
  exact (a.early_bodies read).bind fun _ => early_ok _

end BenchArguments

namespace PostArguments

theorem early_lineCounts (a : PostArguments) : Early a.lineCounts :=
  early_ite (early_error rfl) (early_ite (early_error rfl) (early_ok _))

theorem early_checkedMarker (a : PostArguments) (unixSeconds : Nat) :
    Early (a.checkedMarker unixSeconds) := by
  rw [checkedMarker]
  split
  · exact early_ok _
  · exact early_ite (early_error rfl) (early_ok _)

/-- **What is wrong with the settings of a bill-posting run** is found before the first request. -/
theorem early_settings (a : PostArguments) (unixSeconds : Nat) :
    Early (a.settings unixSeconds) := by
  refine (early_positiveCount _ _).bind fun _ => ?_
  refine (early_positiveCount _ _).bind fun _ => ?_
  refine (early_deadline _ _).bind fun _ => ?_
  refine a.early_lineCounts.bind fun _ => ?_
  refine (early_webAddress _).bind fun _ => ?_
  exact (a.early_checkedMarker unixSeconds).bind fun _ => early_ok _

end PostArguments

/-! ## Endings -/

section

variable {σ τ : Type}

namespace ProgramResult

/-- **A program has done nothing**: no request has changed the world, the store has not been turned
to, and nothing is printed. -/
structure Idle (r : ProgramResult σ) (around : Surroundings σ) : Prop where
  exitStatus_eq : r.exitStatus = 2
  stdout_eq : r.stdout = ""
  files_eq : r.files = around.files
  state_eq : r.state = around.state
  usedStore_eq : r.usedStore = false

/-- **A program has reported**: the report is printed, and the status tells whether it could be
written to its file, where it then stands unless the file is a device that keeps nothing. -/
structure Reported (r : ProgramResult σ) (files : FileStore) (path? : Option String)
    (report : Json) : Prop where
  stdout_eq : r.stdout = endLine report.pretty
  exitStatus_eq_zero_iff : r.exitStatus = 0 ↔
    ∀ path ∈ path?, ∃ after, files.write path (Bytes.ofString report.pretty) = .ok after
  exitStatus_eq_one_iff : r.exitStatus = 1 ↔
    ∃ path ∈ path?, ∃ fault, files.write path (Bytes.ofString report.pretty) = .error fault
  written : r.exitStatus = 0 → ∀ path ∈ path?,
    files.write path (Bytes.ofString report.pretty) = .ok r.files ∧
      (files.Forgets path ∨ r.files.read path = .ok (Bytes.ofString report.pretty))

theorem idle_refused (around : Surroundings σ) {e : LoadError} (h : e.exitStatus = 2) :
    (refused around e).Idle around :=
  ⟨h, rfl, rfl, rfl, rfl⟩

/-- A program whose report can be written, or need not be, ends with zero. -/
theorem Reported.exitStatus_eq_zero {r : ProgramResult σ} {files : FileStore}
    {path? : Option String} {report : Json} (h : r.Reported files path? report)
    (htakes : ∀ path ∈ path?, files.Takes path) : r.exitStatus = 0 :=
  h.exitStatus_eq_zero_iff.mpr fun path hpath =>
    (FileStore.write_ok_iff _).mpr (htakes path hpath)

/-- **The status of a program that has reported** depends on nothing but the files around it and
the path of its report. -/
theorem Reported.exitStatus_eq {r : ProgramResult σ} {r' : ProgramResult τ} {files : FileStore}
    {path? : Option String} {report report' : Json} (h : r.Reported files path? report)
    (h' : r'.Reported files path? report') : r'.exitStatus = r.exitStatus := by
  have hone := h.exitStatus_eq_one_iff
  have hone' := h'.exitStatus_eq_one_iff
  simp only [FileStore.write_error_iff] at hone hone'
  by_cases htakes : ∀ path ∈ path?, files.Takes path
  · rw [h.exitStatus_eq_zero htakes, h'.exitStatus_eq_zero htakes]
  · have hexists : ∃ path ∈ path?, ¬files.Takes path := by simpa using htakes
    rw [hone.mpr hexists, hone'.mpr hexists]

end ProgramResult

/-- **All that has been done since** is that something was told. -/
structure Traces.Told (before after : Traces σ) : Prop where
  stdout_eq : after.stdout = before.stdout
  files_eq : after.files = before.files
  state_eq : after.state = before.state
  usedStore_eq : after.usedStore = before.usedStore

namespace Surroundings

variable (around : Surroundings σ) (contact : StoreContact) (t : Traces σ)

theorem print_outside (text : String) :
    (around.outside contact).print text t = ((), t.print text) := rfl

theorem log_outside (filter : LogFilter) (line : LogLine) :
    (around.outside contact).log filter line t = ((), t.tell (filter.shown [line])) := rfl

theorem stop_outside (e : LoadError) :
    (around.outside contact).stop e t = (e.exitStatus, t.tell (endLine e.message)) := rfl

theorem write_outside_of_ok {path : String} {content : Bytes} {files : FileStore}
    (h : t.files.write path content = .ok files) :
    (around.outside contact).write path content t = (.ok (), { t with files := files }) := by
  simp only [outside, writeAfter, h]

theorem write_outside_of_error {path : String} {content : Bytes} {fault : FileFault}
    (h : t.files.write path content = .error fault) :
    (around.outside contact).write path content t = (.error fault, t) := by
  simp only [outside, writeAfter, h]

/-- A run in the state that was found at the start. -/
theorem execute_outside (filter : LogFilter) {plan : RunPlan} {record : RunRecord} {state : σ}
    (hstate : t.state = around.state) (h : around.execute plan = .ok (record, state)) :
    (around.outside contact).execute filter plan t =
      (.ok record, { t with state := state }.tell (filter.shown (record.log plan))) := by
  have hafter : { around with state := t.state }.execute plan = .ok (record, state) := by
    rw [hstate]
    exact h
  simp only [outside, executeAfter, hafter]

end Surroundings

namespace Closing

variable (c : Closing) (around : Surroundings σ) (contact : StoreContact) (t : Traces σ)

theorem write_of_none (h : c.reportPath = none) :
    c.write (around.outside contact) t = (.ok (), t) := by
  rw [write, h]
  rfl

theorem write_of_ok {path : String} {files : FileStore} (h : c.reportPath = some path)
    (hwrite : t.files.write path (Bytes.ofString c.text) = .ok files) :
    c.write (around.outside contact) t =
      (.ok (), { t with files := files }.tell (c.filter.shown [c.writtenLine path])) := by
  rw [write, h]
  simp only [stateM_bind_apply, around.write_outside_of_ok contact t hwrite]
  rfl

theorem write_of_error {path : String} {fault : FileFault} (h : c.reportPath = some path)
    (hwrite : t.files.write path (Bytes.ofString c.text) = .error fault) :
    c.write (around.outside contact) t = (.error (unwritten path fault), t) := by
  rw [write, h]
  simp only [stateM_bind_apply, around.write_outside_of_error contact t hwrite]
  rfl

theorem told_summarize : t.Told (c.summarize (around.outside contact) t).2 := by
  cases hsummary : c.summary with
  | none =>
    rw [summarize, hsummary]
    exact ⟨rfl, rfl, rfl, rfl⟩
  | some line =>
    rw [summarize, hsummary]
    exact ⟨rfl, rfl, rfl, rfl⟩

/-- A program that need not write its report, or has written it, ends with zero. -/
theorem finish_of_ok {before : Traces σ}
    (h : c.write (around.outside contact) (t.print (endLine c.text)) = (.ok (), before)) :
    c.finish (around.outside contact) t = (0, (c.summarize (around.outside contact) before).2) := by
  simp only [finish, stateM_bind_apply, Surroundings.print_outside, h]
  rfl

/-- A program that cannot write its report stops because of that. -/
theorem finish_of_error {before : Traces σ} {e : LoadError}
    (h : c.write (around.outside contact) (t.print (endLine c.text)) = (.error e, before)) :
    c.finish (around.outside contact) t = (e.exitStatus, before.tell (endLine e.message)) := by
  simp only [finish, stateM_bind_apply, Surroundings.print_outside, h, Surroundings.stop_outside]

/-- **How a program ends that has a report**: it has reported, and leaves a state behind and the
store turned to or not. -/
structure Ended (c : Closing) (files : FileStore) (state : σ) (usedStore : Bool)
    (r : ProgramResult σ) : Prop where
  reported : r.Reported files c.reportPath c.report
  state_eq : r.state = state
  usedStore_eq : r.usedStore = usedStore

/-- **A program that has a report ends with it**, by whether the report has a file and that can be
written. -/
theorem ended_finish {files : FileStore} {state : σ} {usedStore : Bool} (hstart : t.stdout = "")
    (hfiles : t.files = files) (hstate : t.state = state) (hused : t.usedStore = usedStore) :
    c.Ended files state usedStore (.ofEnding (c.finish (around.outside contact) t)) := by
  subst hfiles hstate hused
  have hprinted : (t.print (endLine c.text)).stdout = endLine c.report.pretty := by
    rw [Traces.print, hstart, String.empty_append, text]
  cases hpath : c.reportPath with
  | none =>
    have hwrite := c.write_of_none around contact (t.print (endLine c.text)) hpath
    have htold := c.told_summarize around contact (t.print (endLine c.text))
    rw [c.finish_of_ok around contact t hwrite]
    refine ⟨?_, htold.state_eq, htold.usedStore_eq⟩
    rw [hpath]
    exact ⟨htold.stdout_eq.trans hprinted, by simp [ProgramResult.ofEnding],
      by simp [ProgramResult.ofEnding], by simp⟩
  | some path =>
    cases hfile : t.files.write path (Bytes.ofString c.report.pretty) with
    | ok files =>
      have hwrite := c.write_of_ok around contact (t.print (endLine c.text)) hpath hfile
      have htold := c.told_summarize around contact
        ({ t.print (endLine c.text) with files := files }.tell
          (c.filter.shown [c.writtenLine path]))
      have hfiles : (c.summarize (around.outside contact) _).2.files = files := htold.files_eq
      rw [c.finish_of_ok around contact t hwrite]
      refine ⟨?_, htold.state_eq, htold.usedStore_eq⟩
      rw [hpath]
      refine ⟨htold.stdout_eq.trans hprinted, by simp [ProgramResult.ofEnding, hfile],
        by simp [ProgramResult.ofEnding, hfile], ?_⟩
      rintro - _ ⟨⟩
      rw [ProgramResult.ofEnding, hfiles]
      exact ⟨hfile, FileStore.read_of_write hfile⟩
    | error fault =>
      have hwrite := c.write_of_error around contact (t.print (endLine c.text)) hpath hfile
      have hstatus : (unwritten path fault).exitStatus = 1 := rfl
      rw [c.finish_of_error around contact t hwrite]
      refine ⟨?_, rfl, rfl⟩
      rw [hpath]
      exact ⟨hprinted, by simp [ProgramResult.ofEnding, hfile, hstatus],
        by simp [ProgramResult.ofEnding, hfile, hstatus], by simp [ProgramResult.ofEnding, hstatus]⟩

end Closing

end

end HttpLoad
