import RssiService.ThreatIntelligence.RequestBudget

/-!
# The cooldown and the quota of manual scans

The mark of the cooldown and the row of usage are written when a job ends, and
both are looked at when the next one is asked for.  Members who ask before the
first job has ended all pass, and a task that is sent again is recorded again.
-/

namespace RssiService.ThreatIntelligence

open Foundation Foundation.Interleaving Foundation.Run
open Billing (Instant periodStart periodStart_le periodStart_mono)

/-! ## Manual runs -/

/-- When a job was scanned, if a member asked for it. -/
def ScanJob.manualRun (job : ScanJob) : Option Instant :=
  if job.triggeredBy = .manual ∧ job.scope = .assets then job.executedAt else none

def ScanSite.cooldown (site : ScanSite) (tenant : Nat) : Nat :=
  site.cooldownMinutes tenant * microsecondsPerMinute

def ScanJob.ranSince (start : Instant) (tenant : Nat) (job : ScanJob) : Bool :=
  job.tenant = tenant && job.manualRun.any fun instant => start ≤ instant

/-- The manual jobs of a tenant that were scanned in the month. -/
def ScanWorld.manualRuns (world : ScanWorld) (tenant : Nat) : Nat :=
  world.jobs.rows.countP (ScanJob.ranSince (periodStart world.now) tenant)

def UsageEntry.countsFor (entry : UsageEntry) (key : Nat) : Bool :=
  entry.triggeredBy = .manual && entry.endpoint = .scan && entry.job = some key

/-- How often the ledger counts a manual job. -/
def ScanWorld.timesCounted (world : ScanWorld) (key : Nat) : Nat :=
  world.usage.countP fun row => row.countsFor key

/-- Two jobs were created at least a delay apart. -/
def Apart (delay : Nat) (first second : ScanJob) : Prop :=
  first.createdAt + delay ≤ second.createdAt ∨ second.createdAt + delay ≤ first.createdAt

instance {delay : Nat} {first second : ScanJob} : Decidable (Apart delay first second) :=
  inferInstanceAs (Decidable (_ ∨ _))

/-- The quota of the tenant covers a number of manual runs; 0 is unlimited. -/
def ScanSite.Covers (site : ScanSite) (tenant runs : Nat) : Prop :=
  ∀ subscription, site.billing.getSubscription tenant = some subscription →
    site.billing.monthlyScansQuota subscription = 0 ∨
      runs ≤ site.billing.monthlyScansQuota subscription

/-- Manual runs of a tenant are apart and within its quota, and each is counted
once by the time its job is closed. -/
structure ScanWorld.Disciplined (site : ScanSite) (world : ScanWorld) : Prop where
  apart : ∀ first ∈ world.jobs, ∀ second ∈ world.jobs,
    first.manualRun.isSome = true → second.manualRun.isSome = true →
    first.tenant = second.tenant → first.id ≠ second.id →
    Apart (site.cooldown first.tenant) first second
  within : ∀ tenant, site.Covers tenant (world.manualRuns tenant)
  atMostOnce : ∀ key, world.timesCounted key ≤ 1
  counted : ∀ job ∈ world.jobs, job.manualRun.isSome = true → job.finishedAt.isSome = true →
    1 ≤ world.timesCounted job.id

/-! ## The condition -/

/-- What a manual job that was not scanned yet needs, when a worker starts on it. -/
structure ScanWorld.MayRun (site : ScanSite) (world : ScanWorld) (job : ScanJob) : Prop where
  apart : ∀ other ∈ world.jobs, other.manualRun.isSome = true → other.tenant = job.tenant →
    Apart (site.cooldown job.tenant) job other
  room : site.Covers job.tenant (world.manualRuns job.tenant + 1)
  counted : job.finishedAt.isSome = true → 1 ≤ world.timesCounted job.id

/-- The condition on a write: no manual job starts too early or beyond the quota,
none is recorded twice, and none is closed before it is recorded. -/
def ScanWorld.Allows (site : ScanSite) (world : ScanWorld) : ScanWrite → Prop
  | .begin key =>
      ∀ job ∈ world.jobs, job.id = key → job.triggeredBy = .manual → job.scope = .assets →
        job.executedAt = none → world.MayRun site job
  | .record entry => ∀ key, entry.countsFor key = true → world.timesCounted key = 0
  | .finish key _ _ =>
      ∀ job ∈ world.jobs, job.id = key → job.manualRun.isSome = true → 1 ≤ world.timesCounted key
  | _ => True

/-! ## One job -/

section Jobs

variable {site : ScanSite} {world : ScanWorld} {job : ScanJob}

theorem apart_comm {delay : Nat} {first second : ScanJob} :
    Apart delay first second ↔ Apart delay second first := Or.comm

theorem mem_modifyJob {change : ScanJob → ScanJob} {keeps : ∀ job, (change job).id = job.id}
    (member : job ∈ world.jobs) {other : ScanJob} :
    other ∈ (world.modifyJob job.id change keeps).jobs ↔
      other = change job ∨ other ∈ world.jobs ∧ other.id ≠ job.id :=
  @Table.mem_modify_of_mem _ _ world.jobs job member change keeps other

/-- What the update of one job preserves. -/
theorem disciplined_modifyJob_iff {change : ScanJob → ScanJob}
    {keeps : ∀ job, (change job).id = job.id} (member : job ∈ world.jobs)
    (tenant_eq : (change job).tenant = job.tenant)
    (created_eq : (change job).createdAt = job.createdAt) (disciplined : world.Disciplined site) :
    (world.modifyJob job.id change keeps).Disciplined site ↔
      ((change job).manualRun.isSome = true →
        (∀ other ∈ world.jobs, other.id ≠ job.id → other.manualRun.isSome = true →
          other.tenant = job.tenant → Apart (site.cooldown job.tenant) job other) ∧
        ((change job).finishedAt.isSome = true → 1 ≤ world.timesCounted job.id)) ∧
      ∀ tenant, site.Covers tenant ((world.modifyJob job.id change keeps).manualRuns tenant) := by
  constructor
  · intro next
    refine ⟨fun ran => ⟨fun other inside different otherRan mine => ?_, fun finished => ?_⟩,
      next.within⟩
    · have spaced := next.apart (change job) ((mem_modifyJob member).mpr (Or.inl rfl)) other
        ((mem_modifyJob member).mpr (Or.inr ⟨inside, different⟩)) ran otherRan
        (tenant_eq.trans mine.symm) (by rw [keeps]; exact different.symm)
      rwa [tenant_eq, Apart, created_eq] at spaced
    · have once := next.counted (change job) ((mem_modifyJob member).mpr (Or.inl rfl)) ran finished
      rwa [keeps] at once
  · rintro ⟨allowed, within⟩
    have spaced {other : ScanJob} (ran : (change job).manualRun.isSome = true)
        (inside : other ∈ world.jobs) (different : other.id ≠ job.id)
        (otherRan : other.manualRun.isSome = true) (mine : other.tenant = job.tenant) :
        Apart (site.cooldown job.tenant) (change job) other := by
      rw [Apart, created_eq]
      exact (allowed ran).1 other inside different otherRan mine
    refine ⟨fun first inFirst second inSecond firstRan secondRan mine different => ?_, within,
      disciplined.atMostOnce, fun other inside ran finished => ?_⟩
    · rcases (mem_modifyJob member).mp inFirst with rfl | ⟨oldFirst, apartFirst⟩ <;>
        rcases (mem_modifyJob member).mp inSecond with rfl | ⟨oldSecond, apartSecond⟩
      · exact absurd rfl different
      · rw [tenant_eq] at mine ⊢
        exact spaced firstRan oldSecond apartSecond secondRan mine.symm
      · rw [tenant_eq] at mine
        rw [mine, apart_comm]
        exact spaced secondRan oldFirst apartFirst firstRan mine
      · exact disciplined.apart first oldFirst second oldSecond firstRan secondRan mine different
    · rcases (mem_modifyJob member).mp inside with rfl | ⟨old, _⟩
      · rw [keeps]
        exact (allowed ran).2 finished
      · exact disciplined.counted other old ran finished

theorem manualRuns_modifyJob {change : ScanJob → ScanJob} {keeps : ∀ job, (change job).id = job.id}
    (member : job ∈ world.jobs) (tenant : Nat) :
    (world.modifyJob job.id change keeps).manualRuns tenant +
        (if job.ranSince (periodStart world.now) tenant = true then 1 else 0) =
      world.manualRuns tenant +
        if (change job).ranSince (periodStart world.now) tenant = true then 1 else 0 :=
  Table.countP_modify member change keeps _

/-- An update that leaves the run of the job as it was. -/
theorem disciplined_modifyJob_of_sameRun {change : ScanJob → ScanJob}
    {keeps : ∀ job, (change job).id = job.id} (member : job ∈ world.jobs)
    (tenant_eq : (change job).tenant = job.tenant)
    (created_eq : (change job).createdAt = job.createdAt)
    (run_eq : (change job).manualRun = job.manualRun) (disciplined : world.Disciplined site) :
    (world.modifyJob job.id change keeps).Disciplined site ↔
      (job.manualRun.isSome = true → (change job).finishedAt.isSome = true →
        1 ≤ world.timesCounted job.id) := by
  have runs (tenant : Nat) :
      (world.modifyJob job.id change keeps).manualRuns tenant = world.manualRuns tenant := by
    have moved := @manualRuns_modifyJob world job change keeps member tenant
    rw [ScanJob.ranSince, ScanJob.ranSince, tenant_eq, run_eq] at moved
    exact Nat.add_right_cancel moved
  rw [disciplined_modifyJob_iff member tenant_eq created_eq disciplined, run_eq]
  constructor
  · rintro ⟨allowed, _⟩ ran
    exact (allowed ran).2
  · intro counted
    refine ⟨fun ran => ⟨fun other inside different otherRan mine => ?_, counted ran⟩,
      fun tenant => runs tenant ▸ disciplined.within tenant⟩
    exact disciplined.apart job member other inside ran otherRan mine.symm different.symm

theorem modifyJob_of_absent {key : Nat} {change : ScanJob → ScanJob}
    {keeps : ∀ job, (change job).id = job.id} (absent : world.jobs.find? key = none) :
    world.modifyJob key change keeps = world := by
  rw [ScanWorld.modifyJob, Table.modify_of_absent absent]

end Jobs

/-! ## Writes -/

section Writes

variable {site : ScanSite} {world : ScanWorld} {key : Nat}

theorem disciplined_markRunning (disciplined : world.Disciplined site) :
    (world.apply (.markRunning key)).Disciplined site := by
  rw [ScanWorld.apply]
  cases lookup : world.jobs.find? key with
  | none => rwa [modifyJob_of_absent lookup]
  | some job =>
      obtain ⟨member, rfl⟩ := Table.find?_eq_some_iff.mp lookup
      refine (disciplined_modifyJob_of_sameRun member rfl rfl rfl disciplined).mpr ?_
      exact disciplined.counted job member

theorem disciplined_finish_iff {status : JobStatus} {errorMessage : Option String}
    (disciplined : world.Disciplined site) :
    (world.apply (.finish key status errorMessage)).Disciplined site ↔
      world.Allows site (.finish key status errorMessage) := by
  rw [ScanWorld.apply, ScanWorld.Allows]
  cases lookup : world.jobs.find? key with
  | none =>
      rw [modifyJob_of_absent lookup]
      refine iff_of_true disciplined fun job member same => ?_
      exact absurd (Table.find?_eq_some_iff.mpr ⟨member, same⟩) (by simp [lookup])
  | some job =>
      obtain ⟨member, rfl⟩ := Table.find?_eq_some_iff.mp lookup
      refine (disciplined_modifyJob_of_sameRun member rfl rfl rfl disciplined).trans ?_
      constructor
      · intro counted other inside same ran
        obtain rfl := Table.ident_injective inside member same
        exact counted ran rfl
      · exact fun counted ran _ => counted job member rfl ran

/-- A first scan of a manual job. -/
theorem disciplined_begin_fresh_iff {job : ScanJob} (member : job ∈ world.jobs)
    (manual : job.triggeredBy = .manual) (assets : job.scope = .assets)
    (fresh : job.executedAt = none) (disciplined : world.Disciplined site) :
    (world.apply (.begin job.id)).Disciplined site ↔ world.MayRun site job := by
  have before : job.manualRun = none := by rw [ScanJob.manualRun, fresh, ite_self]
  have began : (job.begun world.now).manualRun = some world.now := by
    rw [ScanJob.manualRun, ScanJob.begun, fresh]
    exact if_pos ⟨manual, assets⟩
  have runs (tenant : Nat) : (world.modifyJob job.id (ScanJob.begun world.now)
      ScanJob.id_begun).manualRuns tenant =
        world.manualRuns tenant + if job.tenant = tenant then 1 else 0 := by
    have inMonth : periodStart world.now ≤ world.now := periodStart_le world.now
    have off : job.ranSince (periodStart world.now) tenant = false := by
      rw [ScanJob.ranSince, before, Option.any_none, Bool.and_false]
    have on : (job.begun world.now).ranSince (periodStart world.now) tenant =
        decide (job.tenant = tenant) := by
      rw [ScanJob.ranSince, began, Option.any_some, decide_eq_true inMonth, Bool.and_true]
      rfl
    have moved := @manualRuns_modifyJob world job (ScanJob.begun world.now) ScanJob.id_begun
      member tenant
    rw [off, on, if_neg Bool.false_ne_true, Nat.add_zero] at moved
    rw [moved]
    simp only [decide_eq_true_eq]
  rw [ScanWorld.apply, disciplined_modifyJob_iff member rfl rfl disciplined]
  constructor
  · rintro ⟨allowed, within⟩
    obtain ⟨apart, counted⟩ := allowed (by rw [began]; rfl)
    refine ⟨fun other inside otherRan mine => apart other inside ?_ otherRan mine, ?_, counted⟩
    · intro same
      rw [Table.ident_injective inside member same, before] at otherRan
      cases otherRan
    · have here := within job.tenant
      rwa [runs, if_pos rfl] at here
  · intro may
    refine ⟨fun _ => ⟨fun other inside _ => may.apart other inside, may.counted⟩, fun tenant => ?_⟩
    rw [runs]
    split
    · rename_i mine
      rw [← mine]
      exact may.room
    · exact disciplined.within tenant

theorem disciplined_begin_iff (disciplined : world.Disciplined site) :
    (world.apply (.begin key)).Disciplined site ↔ world.Allows site (.begin key) := by
  rw [ScanWorld.Allows]
  cases lookup : world.jobs.find? key with
  | none =>
      rw [ScanWorld.apply, modifyJob_of_absent lookup]
      refine iff_of_true disciplined fun job member same => ?_
      exact absurd (Table.find?_eq_some_iff.mpr ⟨member, same⟩) (by simp [lookup])
  | some job =>
      obtain ⟨member, rfl⟩ := Table.find?_eq_some_iff.mp lookup
      by_cases first : job.triggeredBy = .manual ∧ job.scope = .assets ∧ job.executedAt = none
      · obtain ⟨manual, assets, fresh⟩ := first
        refine (disciplined_begin_fresh_iff member manual assets fresh disciplined).trans ?_
        constructor
        · intro may other inside same _ _ _
          obtain rfl := Table.ident_injective inside member same
          exact may
        · exact fun allowed => allowed job member rfl manual assets fresh
      · have run_eq : (job.begun world.now).manualRun = job.manualRun := by
          rw [ScanJob.manualRun, ScanJob.manualRun, ScanJob.begun]
          split
          · rename_i manual
            cases executed : job.executedAt with
            | none => exact absurd ⟨manual.1, manual.2, executed⟩ first
            | some instant => rfl
          · rfl
        refine iff_of_true ?_ ?_
        · exact (disciplined_modifyJob_of_sameRun member rfl rfl run_eq disciplined).mpr
            (disciplined.counted job member)
        · intro other inside same manual assets fresh
          obtain rfl := Table.ident_injective inside member same
          exact absurd ⟨manual, assets, fresh⟩ first

/-- A new job has not run. -/
theorem disciplined_launch {request : JobRequest} {taken : Bool}
    (disciplined : world.Disciplined site) :
    (world.apply (.launch request taken)).Disciplined site := by
  have idle : (request.row world.now world.jobs.next).manualRun = none := ite_self _
  have old {job : ScanJob} (inside : job ∈ (world.apply (.launch request taken)).jobs)
      (ran : job.manualRun.isSome = true) : job ∈ world.jobs := by
    have added := @Table.mem_create _ _ world.jobs (request.row world.now) (fun _ => rfl) job
    rcases added.mp inside with old | rfl
    · exact old
    · rw [idle] at ran
      cases ran
  refine ⟨fun first inFirst second inSecond firstRan secondRan => ?_, fun tenant => ?_,
    disciplined.atMostOnce, fun job inside ran => disciplined.counted job (old inside ran) ran⟩
  · exact disciplined.apart first (old inFirst firstRan) second (old inSecond secondRan)
      firstRan secondRan
  · have runs : (world.apply (.launch request taken)).manualRuns tenant =
        world.manualRuns tenant := by
      refine (Table.countP_create _ _ (fun _ => rfl) _).trans ?_
      rw [ScanJob.ranSince, idle, Option.any_none, Bool.and_false]
      rfl
    rw [runs]
    exact disciplined.within tenant

theorem ranSince_of_later {job : ScanJob} {first second : Instant} {tenant : Nat}
    (le : first ≤ second) (ran : job.ranSince second tenant = true) :
    job.ranSince first tenant = true := by
  rw [ScanJob.ranSince, Bool.and_eq_true] at ran ⊢
  refine ⟨ran.1, ?_⟩
  cases run : job.manualRun with
  | none => simp [run] at ran
  | some instant =>
      rw [run, Option.any_some] at ran
      exact decide_eq_true (le.trans (of_decide_eq_true ran.2))

/-- A later month leaves more of the runs behind. -/
theorem disciplined_wait {duration : Nat} (disciplined : world.Disciplined site) :
    (world.apply (.wait duration)).Disciplined site := by
  refine ⟨disciplined.apart, fun tenant subscription mine => ?_, disciplined.atMostOnce,
    disciplined.counted⟩
  have fewer : (world.apply (.wait duration)).manualRuns tenant ≤ world.manualRuns tenant := by
    refine List.countP_mono_left fun job _ ran => ?_
    exact ranSince_of_later (periodStart_mono (Nat.le_add_right _ _)) ran
  exact (disciplined.within tenant subscription mine).imp_right fewer.trans

theorem timesCounted_record {entry : UsageEntry} (key : Nat) :
    (world.apply (.record entry)).timesCounted key =
      world.timesCounted key + if entry.countsFor key = true then 1 else 0 := by
  rw [ScanWorld.apply, ScanWorld.recordUsage]
  cases entry.remainingAfter <;>
    exact List.countP_append.trans (congrArg _ (List.countP_singleton ..))

/-- A row of usage counts one job once more. -/
theorem disciplined_record_iff {entry : UsageEntry} (disciplined : world.Disciplined site) :
    (world.apply (.record entry)).Disciplined site ↔ world.Allows site (.record entry) := by
  rw [ScanWorld.Allows]
  have jobs : (world.apply (.record entry)).jobs = world.jobs := by
    rw [ScanWorld.apply, ScanWorld.recordUsage]
    cases entry.remainingAfter <;> rfl
  have runs (tenant : Nat) :
      (world.apply (.record entry)).manualRuns tenant = world.manualRuns tenant := by
    rw [ScanWorld.apply, ScanWorld.recordUsage]
    cases entry.remainingAfter <;> rfl
  constructor
  · intro next key counts
    have once := next.atMostOnce key
    rw [timesCounted_record, if_pos counts] at once
    omega
  · intro fresh
    refine ⟨jobs ▸ disciplined.apart, fun tenant => ?_, fun key => ?_,
      fun job inside ran finished => ?_⟩
    · rw [runs]
      exact disciplined.within tenant
    · rw [timesCounted_record]
      have before := disciplined.atMostOnce key
      have first := fresh key
      split
      · rename_i counts
        have := first counts
        omega
      · exact before
    · rw [timesCounted_record]
      exact Nat.le_add_right_of_le (disciplined.counted job (jobs ▸ inside) ran finished)

/-- What one write preserves. -/
theorem disciplined_apply_iff (world : ScanWorld) (change : ScanWrite)
    (disciplined : world.Disciplined site) :
    (world.apply change).Disciplined site ↔ world.Allows site change := by
  cases change with
  | wait duration => exact iff_of_true (disciplined_wait disciplined) trivial
  | launch request taken => exact iff_of_true (disciplined_launch disciplined) trivial
  | markRunning key => exact iff_of_true (disciplined_markRunning disciplined) trivial
  | begin key => exact disciplined_begin_iff disciplined
  | finish key status errorMessage => exact disciplined_finish_iff disciplined
  | record entry => exact disciplined_record_iff disciplined
  | _ =>
      refine iff_of_true ?_ trivial
      exact ⟨disciplined.apart, disciplined.within, disciplined.atMostOnce, disciplined.counted⟩

end Writes

/-! ## Whole schedules -/

section Impatience

def manualTask (job : Nat) : ScanTask := ⟨1, none, .manual, .assets, some job, 0⟩

/-- The moments of one request and of what it takes to end it. -/
def inFull (client : Nat) (request : ScanRequest) : List (Moment ScanRequest) :=
  .arrive client request :: List.replicate 9 (.advance client)

def impatience : List (Moment ScanRequest) :=
  inFull 0 (.triggerScan 1 none (fun _ => emptyPage) true) ++
    inFull 1 (.triggerScan 1 none (fun _ => emptyPage) true) ++
    inFull 2 (.deliver (manualTask 0) [acmeTarget nothingFound] fun _ => emptyPage) ++
    inFull 3 (.deliver (manualTask 1) [acmeTarget nothingFound] fun _ => emptyPage)

end Impatience

end RssiService.ThreatIntelligence
