import HttpLoad.Program.Posting
import HttpLoad.Proofs.Bill.Batch

/-!
# What the plans of programs come to

Everything that can fail on the way from settings to the first request is looked at when the
settings are checked. A plan says which requests are sent before anything is measured, and which
bodies the measured ones have.

## Main definitions

* `PostSettings.Checked`: what has been checked of settings
* `PostSettings.Aligned`: how a plan, its batch and the settings go together
* `RunRecord.Primed record client`: the client has sent a warm-up request

## Main results

* `PostArguments.checked_of_settings`: settings are checked
* `PostSettings.Checked.plan_eq`: checked settings have a plan, with a pool for it and no warm-up
* `PostArguments.settings_aligned`: a run with checked settings gets as far as its requests
* `settings_aligned_crowded`: one that asks for too many lines does not
* `RunPlan.map_warmUp`: the warm-up requests in their order, each with its client
* `BenchArguments.primed_iff`: the clients that are primed when measuring starts
* `BenchArguments.unprimed_of_defaults`: with no options but the address half of them are not
-/

namespace HttpLoad

/-!
## Bodies and settings

Everything that can fail on the way from settings to the first request is looked at when the
settings are checked: the range of the numbers of lines, the deadline, and the size of the pool.
Requests are numbered from zero and bills from one, and each request sends the bill that is one
ahead of it.
-/

theorem positiveCount_eq_ok_iff {option : String} {value : Int} {n : Nat} :
    positiveCount option value = .ok n ↔ 0 < n ∧ value = n := by
  rw [positiveCount]
  split
  · exact ⟨(nomatch ·), by omega⟩
  · rw [Except.ok.injEq]
    omega

/-- **What has been checked of settings.** -/
structure PostSettings.Checked (s : PostSettings) : Prop where
  total_pos : 0 < s.total
  concurrency_pos : 0 < s.concurrency
  minLines_pos : 0 < s.minLines
  minLines_le : s.minLines ≤ s.maxLines
  deadline_ok : ∃ deadline, Deadline.ofSeconds "--timeout-sec" s.timeoutSeconds = .ok deadline
  address_ok : ∃ url, webAddress s.url = .ok url

namespace PostArguments

theorem lineCounts_eq_ok_iff {a : PostArguments} {minLines maxLines : Nat} :
    a.lineCounts = .ok (minLines, maxLines) ↔
      0 < minLines ∧ minLines ≤ maxLines ∧ a.minLines = minLines ∧ a.maxLines = maxLines := by
  rw [lineCounts]
  split
  · exact ⟨(nomatch ·), by omega⟩
  · split
    · exact ⟨(nomatch ·), by omega⟩
    · rw [Except.ok.injEq, Prod.mk.injEq]
      omega

/-- **Settings are checked** before there are any. -/
theorem checked_of_settings {a : PostArguments} {unixSeconds : Nat} {s : PostSettings}
    (h : a.settings unixSeconds = .ok s) : s.Checked := by
  simp only [settings, bind_eq_ok_iff] at h
  obtain ⟨total, htotal, concurrency, hconcurrency, deadline, hdeadline, ⟨minLines, maxLines⟩,
    hlines, url, hurl, marker, -, hs⟩ := h
  obtain rfl := Except.ok.inj hs
  obtain ⟨hmin, hle, -, -⟩ := lineCounts_eq_ok_iff.mp hlines
  exact
    { total_pos := (positiveCount_eq_ok_iff.mp htotal).1
      concurrency_pos := (positiveCount_eq_ok_iff.mp hconcurrency).1
      minLines_pos := hmin
      minLines_le := hle
      deadline_ok := ⟨deadline, hdeadline⟩
      address_ok := ⟨url, hurl⟩ }

end PostArguments

/-- A plan with a worker and without warm-up is executed, and measures from the start. -/
theorem RunPlan.execute_eq_ok {plan : RunPlan} (hworkers : 0 < plan.workers)
    (hwarmUps : plan.warmUps = 0) {σ : Type} (net : Network σ) (world : σ) :
    ∃ record after, plan.execute net world = .ok (record, after) ∧
      record.workers = plan.workers ∧ record.warmUps = [] := by
  let pool : ClientPool := ⟨plan.workers, plan.deadline, hworkers⟩
  have hpool : ClientPool.make plan.workers plan.deadline = .ok pool := dif_pos hworkers
  have hwarmUp : plan.warmUp net pool world = ([], world) := by
    rw [RunPlan.warmUp, hwarmUps]
    rfl
  refine ⟨(plan.executeWith net pool world).1, (plan.executeWith net pool world).2, ?_, rfl, ?_⟩
  · rw [RunPlan.execute, hpool]
    rfl
  · exact congrArg Prod.fst hwarmUp

namespace PostSettings

/-- **How a plan, its batch and the settings go together**: there are as many bodies as requests, a
pool can be made and nothing is sent to warm up, and the request with number `i` sends the bill with
index `i + 1`, whose number of lines is reported at position `i`. -/
structure Aligned (s : PostSettings) (batch : Batch) (plan : RunPlan) : Prop where
  total_eq : plan.total = s.total
  length_bodies : batch.bodies.length = s.total
  workers_pos : 1 ≤ plan.workers
  workers_le : plan.workers ≤ s.total
  pool_ok : ∃ pool, ClientPool.make plan.workers plan.deadline = .ok pool
  warmUps_eq : plan.warmUps = 0
  execute_ok : ∀ {σ : Type} (net : Network σ) (world : σ), ∃ record after,
    plan.execute net world = .ok (record, after) ∧ record.workers = plan.workers ∧
      record.warmUps = []
  body_at : ∀ i < s.total, ∃ bill, batch.bills[i]? = some bill ∧
    plan.bodies.get? i = some (Bytes.ofString bill.encode) ∧
    bill.billNumber = Bill.numberFor s.marker (i + 1) ∧
    (s.parameters batch.linesPerBill).linesPerBill[i]? = some bill.lines.length
  body_beyond : ∀ i, s.total ≤ i → plan.bodies.get? i = none

variable {s : PostSettings}

/-- **Checked settings have a plan**, whose pool is not empty and which has no warm-up. -/
theorem Checked.plan_eq (h : s.Checked) (bodies : List Bytes) :
    ∃ plan, s.plan bodies = .ok plan ∧ plan.total = s.total ∧ plan.bodies = .each bodies ∧
      plan.warmUps = 0 ∧ 1 ≤ plan.workers ∧ plan.workers ≤ s.total := by
  obtain ⟨deadline, hdeadline⟩ := h.deadline_ok
  refine ⟨_, by rw [plan, hdeadline]; rfl, rfl, rfl, rfl, ?_, ?_⟩
  · exact Nat.le_min.mpr ⟨h.concurrency_pos, h.total_pos⟩
  · exact Nat.min_le_right ..

/-- The bills of checked settings are drawn, unless a draw never returns or there may be no room for
the lines of a bill. -/
theorem Checked.batch_eq (h : s.Checked) (today : Date) :
    (∃ fault, s.batch today = .error fault ∧ Bill.Undrawn s.maxLines fault) ∨
      ∃ batch, s.batch today = .ok batch ∧
        batch.Drawn s.marker today s.minLines s.maxLines s.total :=
  Batch.generate_eq h.minLines_le s.marker today s.total s.seed

theorem Checked.aligned (h : s.Checked) {today : Date} {batch : Batch}
    (hbatch : batch.Drawn s.marker today s.minLines s.maxLines s.total) :
    ∃ plan, s.plan batch.bodies = .ok plan ∧ s.Aligned batch plan := by
  obtain ⟨plan, hplan, htotal, hbodies, hwarmUps, hpos, hle⟩ := h.plan_eq batch.bodies
  refine ⟨plan, hplan, ?_⟩
  exact
    { total_eq := htotal
      length_bodies := hbatch.length_bodies
      workers_pos := hpos
      workers_le := hle
      pool_ok := ⟨⟨plan.workers, plan.deadline, hpos⟩, dif_pos hpos⟩
      warmUps_eq := hwarmUps
      execute_ok := RunPlan.execute_eq_ok hpos hwarmUps
      body_at := fun i hi => by
        obtain ⟨n, bill, hn, hbill, -, -, hdrawn⟩ := hbatch.bill_at i hi
        refine ⟨bill, hbill, ?_, hdrawn.billNumber_eq, ?_⟩
        · rw [hbodies, Bodies.get?, Batch.getElem?_bodies, hbill, Option.map_some]
        · rw [hdrawn.length_lines]
          exact hn
      body_beyond := fun i hi => by
        rw [hbodies, Bodies.get?]
        exact List.getElem?_eq_none (Nat.le_trans (Nat.le_of_eq hbatch.length_bodies) hi) }

end PostSettings

/-- **A run with checked settings gets as far as its requests.** No range to draw from is empty:
unless a draw never returns, or there may be no room for the lines of a bill, there are bills, and
then a plan for them, and both go together with the settings. -/
theorem PostArguments.settings_aligned {a : PostArguments} {unixSeconds : Nat} {s : PostSettings}
    (h : a.settings unixSeconds = .ok s) (today : Date) :
    (∃ fault, s.batch today = .error fault ∧ Bill.Undrawn s.maxLines fault) ∨
      ∃ batch plan, s.batch today = .ok batch ∧ s.plan batch.bodies = .ok plan ∧
        s.Aligned batch plan := by
  have hchecked := PostArguments.checked_of_settings h
  rcases hchecked.batch_eq today with hfault | ⟨batch, hbatch, hdrawn⟩
  · exact .inl hfault
  · obtain ⟨plan, hplan, haligned⟩ := hchecked.aligned hdrawn
    exact .inr ⟨batch, plan, hbatch, hplan, haligned⟩

def leapDay : Date := ⟨2024, 2, 29, by decide, by decide, by decide⟩

/-- Two bills for a service on this machine. -/
def twoBills : PostArguments where
  url := "http://[::1]:8080/bills"
  requests := 2
  minLines := 1
  maxLines := 2
  marker := some "run"

def twoBillsSettings : PostSettings where
  name := "POST-Target"
  url := "http://[::1]:8080/bills"
  marker := "run"
  total := 2
  concurrency := 5
  timeoutSeconds := Double.ofNat 10
  minLines := 1
  maxLines := 2
  seed := 42
  skipsCleanup := false
  quiet := false
  reportPath := none
  store := twoBills.store

theorem settings_aligned_twoBills :
    twoBills.settings 0 = .ok twoBillsSettings ∧
      ∃ batch plan, twoBillsSettings.batch leapDay = .ok batch ∧
        twoBillsSettings.plan batch.bodies = .ok plan ∧ twoBillsSettings.Aligned batch plan := by
  have hsettings : twoBills.settings 0 = .ok twoBillsSettings :=
    toOption_eq_some_iff.mp (by decide +kernel)
  refine ⟨hsettings, ?_⟩
  rcases PostArguments.settings_aligned hsettings leapDay with ⟨fault, hfault, -⟩ | hbatch
  · have hdrawn : (twoBillsSettings.batch leapDay).toOption.isSome = true := by decide +kernel
    rw [hfault] at hdrawn
    exact nomatch hdrawn
  · exact hbatch

/-- One bill with as many lines as an option can ask for. -/
def crowdedBill : PostArguments where
  url := "http://[::1]:8080/bills"
  requests := 1
  minLines := 9223372036854775807
  maxLines := 9223372036854775807
  marker := some "run"

/-- **Checked settings may ask for more lines than there can be room for**: the options are right,
and no bill is generated. -/
theorem settings_aligned_crowded :
    ∃ s, crowdedBill.settings 0 = .ok s ∧ s.batch leapDay = .error .capacityOverflow := by
  have hcrowded : ((crowdedBill.settings 0).toOption.bind fun s => fault? (s.batch leapDay)) =
      some .capacityOverflow := by decide +kernel
  obtain ⟨s, hsettings, hfault⟩ := Option.bind_eq_some_iff.mp hcrowded
  exact ⟨s, toOption_eq_some_iff.mp hsettings, fault?_eq_some_iff.mp hfault⟩

/-!
## Warm-up requests

Warm-up requests are dealt to the clients of a pool in turn, starting with the first one. There need
not be enough of them to go round: the clients that have sent one before anything is measured are
those that are numbered below the number of warm-up requests.
-/

/-- **A client is primed** in a run: it has sent a request before anything was measured. -/
def RunRecord.Primed (record : RunRecord) (client : Nat) : Prop :=
  ∃ w ∈ record.warmUps, w.client = client

namespace RunPlan

section

variable {σ : Type} (net : Network σ) (plan : RunPlan) (pool : ClientPool)

/-- One warm-up request is sent before the others. -/
theorem warmUpFrom_cons (number left : Nat) (s : σ) :
    plan.warmUpFrom net pool number (left + 1) s =
      (⟨pool.dealt number, number, (plan.send net number s).1⟩ ::
          (plan.warmUpFrom net pool (number + 1) left (plan.send net number s).2).1,
        (plan.warmUpFrom net pool (number + 1) left (plan.send net number s).2).2) := rfl

theorem map_warmUpFrom (number left : Nat) (s : σ) :
    (plan.warmUpFrom net pool number left s).1.map (fun w => (w.client, w.number)) =
      (List.range' number left).map fun i => (pool.dealt i, i) := by
  induction left generalizing number s with
  | zero => rfl
  | succ left ih =>
    rw [warmUpFrom_cons, List.map_cons, ih, List.range'_succ, List.map_cons]

/-- **The warm-up requests in their order**: the one with number `i` is sent by the client that `i`
is dealt to. -/
theorem map_warmUp (s : σ) :
    (plan.warmUp net pool s).1.map (fun w => (w.client, w.number)) =
      (List.range plan.warmUps).map fun i => (pool.dealt i, i) := by
  rw [warmUp, map_warmUpFrom, List.range_eq_range']

theorem length_warmUp (s : σ) : (plan.warmUp net pool s).1.length = plan.warmUps := by
  simpa using congrArg List.length (map_warmUp net plan pool s)

/-- A client gets a warm-up request if it is one of the pool and the requests reach as far as it:
the first round of dealing is the one that reaches it. -/
theorem exists_dealt_iff (client : Nat) :
    (∃ i < plan.warmUps, pool.dealt i = client) ↔ client < min pool.size plan.warmUps := by
  rw [Nat.lt_min]
  constructor
  · rintro ⟨i, hi, rfl⟩
    have hle : pool.dealt i ≤ i := Nat.mod_le i pool.size
    exact ⟨Nat.mod_lt i pool.size_pos, Nat.lt_of_le_of_lt hle hi⟩
  · rintro ⟨hsize, hwarmUps⟩
    exact ⟨client, hwarmUps, Nat.mod_eq_of_lt hsize⟩

/-- The clients that are primed in a run with a given pool. -/
theorem primed_executeWith_iff (s : σ) (client : Nat) :
    (plan.executeWith net pool s).1.Primed client ↔ client < min pool.size plan.warmUps := by
  have hclients : (plan.executeWith net pool s).1.warmUps.map WarmUp.client =
      (List.range plan.warmUps).map pool.dealt := by
    have hmap := congrArg (List.map Prod.fst) (map_warmUp net plan pool s)
    rw [List.map_map, List.map_map] at hmap
    exact hmap
  have hmem : (plan.executeWith net pool s).1.Primed client ↔
      client ∈ (plan.executeWith net pool s).1.warmUps.map WarmUp.client :=
    List.mem_map.symm
  rw [hmem, hclients, List.mem_map, ← exists_dealt_iff]
  simp only [List.mem_range]

/-- A plan that has a worker is executed with a pool of its size. -/
theorem execute_eq_executeWith (hworkers : 0 < plan.workers) (s : σ) :
    plan.execute net s = .ok (plan.executeWith net ⟨plan.workers, plan.deadline, hworkers⟩ s) := by
  have hpool : ClientPool.make plan.workers plan.deadline =
      .ok ⟨plan.workers, plan.deadline, hworkers⟩ := dif_pos hworkers
  rw [execute, hpool]
  rfl

end

end RunPlan

/-- **A checked plan has a worker.** -/
theorem BenchArguments.workers_pos_of_plan {a : BenchArguments}
    {read : String → Except FileFault Bytes} {plan : RunPlan} (h : a.plan read = .ok plan) :
    0 < plan.workers := by
  simp only [BenchArguments.plan, bind_eq_ok_iff] at h
  obtain ⟨total, htotal, concurrency, hconcurrency, _, -, _, -, _, -, _, -, _, -, _, -, hplan⟩ := h
  obtain rfl := Except.ok.inj hplan
  exact Nat.lt_min.mpr
    ⟨(positiveCount_eq_ok_iff.mp hconcurrency).1, (positiveCount_eq_ok_iff.mp htotal).1⟩

/-- **The clients that are primed when measuring starts.** Whatever options a command line gives, as
long as they make a plan, the plan is executed with all its warm-up requests, and a client is primed
exactly if its number is below their number. So all clients are primed exactly if there are at least
as many warm-up requests as workers. -/
theorem BenchArguments.primed_iff {σ : Type} (around : Surroundings σ) (a : BenchArguments)
    {plan : RunPlan} (h : a.plan around.files.read = .ok plan) :
    ∃ record state, around.execute plan = .ok (record, state) ∧
      record.workers = min plan.concurrency plan.total ∧
      record.warmUps.length = plan.warmUps ∧
      (∀ client, record.Primed client ↔ client < min record.workers plan.warmUps) ∧
      ((∀ client < record.workers, record.Primed client) ↔ record.workers ≤ plan.warmUps) := by
  -- proxies change the request of a plan, but none of its counts
  let proxies := Proxies.ofEnvironment around.environment
  have hplanned : 0 < plan.workers := workers_pos_of_plan h
  have hworkers : 0 < (plan.through proxies).workers := hplanned
  have hprimed := RunPlan.primed_executeWith_iff (proxies.network around.network)
    (plan.through proxies) ⟨_, (plan.through proxies).deadline, hworkers⟩ around.state
  refine ⟨_, _, RunPlan.execute_eq_executeWith _ _ hworkers _, rfl, ?_, hprimed, ?_⟩
  · exact RunPlan.length_warmUp _ _ _ _
  · constructor
    · intro hall
      have hlast := (hprimed _).mp (hall ((plan.through proxies).workers - 1)
        (Nat.sub_lt hworkers Nat.one_pos))
      exact Nat.le_of_pred_lt (Nat.lt_min.mp hlast).2
    · intro hle client hclient
      exact (hprimed client).mpr (Nat.lt_min.mpr ⟨hclient, Nat.lt_of_lt_of_le hclient hle⟩)

namespace BenchArguments

/-- A command line with no option but the address. -/
def addressOnly : BenchArguments where
  url := "http://[::1]:8080/"

/-- A place where nobody answers and nothing is found. -/
def nowhere : Surroundings Unit where
  words := []
  environment := []
  files := {}
  network := ⟨fun _ s => (.failed .refused, s), fun _ _ => Double.zero, fun _ _ => ⟨0, 0⟩⟩
  state := ()

/-- Ten warm-up requests reach all clients of a run without other options. -/
theorem primed_iff_tenWarmUps :
    ∃ plan record state,
      { addressOnly with warmUps := 10 }.plan nowhere.files.read = .ok plan ∧
        nowhere.execute plan = .ok (record, state) ∧ record.workers = 10 ∧
        ∀ client < record.workers, record.Primed client := by
  have hcounts : ({ addressOnly with warmUps := 10 }.plan nowhere.files.read).toOption.map
      (fun plan : RunPlan => (min plan.concurrency plan.total, plan.warmUps)) = some (10, 10) := by
    decide +kernel
  obtain ⟨plan, hplan, hcounts⟩ := Option.map_eq_some_iff.mp hcounts
  obtain ⟨hworkers, hwarmUps⟩ := Prod.mk.inj hcounts
  rw [toOption_eq_some_iff] at hplan
  obtain ⟨record, state, hexecute, hrecord, -, -, hall⟩ := primed_iff nowhere _ hplan
  rw [hworkers] at hrecord
  have hle : record.workers ≤ plan.warmUps := Nat.le_of_eq (hrecord.trans hwarmUps.symm)
  exact ⟨plan, record, state, hplan, hexecute, hrecord, hall.mpr hle⟩

/-- **Half of the clients are not primed in a run without options**: there are five warm-up requests
for ten workers. -/
theorem unprimed_of_defaults :
    ∃ plan record state, addressOnly.plan nowhere.files.read = .ok plan ∧ plan.warmUps = 5 ∧
      nowhere.execute plan = .ok (record, state) ∧ record.workers = 10 ∧
      ∀ client, 5 ≤ client → ¬record.Primed client := by
  have hcounts : (addressOnly.plan nowhere.files.read).toOption.map
      (fun plan : RunPlan => (plan.workers, plan.warmUps)) = some (10, 5) := by
    decide +kernel
  obtain ⟨plan, hplan, hcounts⟩ := Option.map_eq_some_iff.mp hcounts
  obtain ⟨hworkers, hwarmUps⟩ := Prod.mk.inj hcounts
  rw [toOption_eq_some_iff] at hplan
  have hplanned : 0 < plan.workers := workers_pos_of_plan hplan
  have hpos : 0 < (plan.through {}).workers := hplanned
  refine ⟨plan, _, _, hplan, hwarmUps, RunPlan.execute_eq_executeWith _ _ hpos _, hworkers, ?_⟩
  intro client hclient hprimed
  have hlt := (RunPlan.primed_executeWith_iff _ _ _ _ _).mp hprimed
  have hreached : client < plan.warmUps := (Nat.lt_min.mp hlt).2
  omega

end BenchArguments

end HttpLoad
