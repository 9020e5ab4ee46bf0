import RssiService.Billing.Entitlements
import RssiService.Foundation.Interleaving
import RssiService.ThreatIntelligence.ProviderClient

/-!
# Scan jobs and the ledger of usage

A request creates a job and sends a message to the workers; the worker scans,
records what the scan reports and closes the job.  Beside the tables and the
cache, the state keeps what no column holds: the requests that were really sent,
and when a job was first scanned.
-/

namespace RssiService.ThreatIntelligence

open Foundation Foundation.Interleaving Python
open Billing (Instant periodStart)

/-! ## Tables -/

inductive TriggeredBy where
  | initial
  | manual
  | platformAdmin
  deriving DecidableEq, Repr

inductive JobStatus where
  | pending
  | running
  | done
  | failed
  deriving DecidableEq, Repr

inductive JobScope where
  | assets
  | watchedAccounts
  deriving DecidableEq, Repr

/-- A job.  `executedAt` is no column: it is when a worker first went through the
targets of the job. -/
structure ScanJob where
  id : Nat
  tenant : Nat
  asset : Option Nat
  status : JobStatus
  triggeredBy : TriggeredBy
  scope : JobScope
  accountIds : List Nat
  errorMessage : String
  createdAt : Instant
  finishedAt : Option Instant
  executedAt : Option Instant
  deriving DecidableEq, Repr

instance : Identified ScanJob := ⟨ScanJob.id⟩

def ScanJob.isClosed (job : ScanJob) : Bool := job.status = .done || job.status = .failed

/-- What a job is created with. -/
structure JobRequest where
  tenant : Nat
  asset : Option Nat
  triggeredBy : TriggeredBy
  scope : JobScope
  accountIds : List Nat

def JobRequest.row (request : JobRequest) (now : Instant) (key : Nat) : ScanJob where
  id := key
  tenant := request.tenant
  asset := request.asset
  status := .pending
  triggeredBy := request.triggeredBy
  scope := request.scope
  accountIds := request.accountIds
  errorMessage := ""
  createdAt := now
  finishedAt := none
  executedAt := none

/-- A message to the workers.  The scan of a new asset has no job. -/
structure ScanTask where
  tenant : Nat
  asset : Option Nat
  triggeredBy : TriggeredBy
  scope : JobScope
  job : Option Nat
  retries : Nat
  deriving DecidableEq, Repr

def JobRequest.task (request : JobRequest) (key : Nat) : ScanTask where
  tenant := request.tenant
  asset := request.asset
  triggeredBy := request.triggeredBy
  scope := request.scope
  job := some key
  retries := 0

inductive UsageEndpoint where
  | scan
  | watchedAccount
  deriving DecidableEq, Repr

/-- What a scan consumed.  `job` is no column: it is the job that was scanned. -/
structure UsageEntry where
  tenant : Nat
  endpoint : UsageEndpoint
  requestsConsumed : Nat
  remainingAfter : Option Int
  triggeredBy : TriggeredBy
  findingsCreated : Nat
  job : Option Nat
  deriving DecidableEq, Repr

structure Usage extends UsageEntry where
  createdAt : Instant
  deriving DecidableEq, Repr

/-! ## State -/

structure ScanWorld where
  now : Instant
  jobs : Table ScanJob
  queue : List ScanTask
  usage : List Usage
  /-- Until when a tenant waits for its next manual scan. -/
  cooldown : Nat → Option Instant
  /-- The remaining budget of the licence, and until when it is kept. -/
  remaining : Option (Int × Instant)
  /-- The requests sent to the provider, with their instants. -/
  sent : List (Instant × Nat)

@[irreducible]
def microsecondsPerMinute : Nat := 60000000

@[irreducible]
def remainingCacheMicroseconds : Nat := 300 * 1000000

inductive ScanWrite where
  | wait (duration : Nat)
  | launch (request : JobRequest) (taken : Bool)
  | enqueue (task : ScanTask)
  | markRunning (job : Nat)
  | begin (job : Nat)
  | finish (job : Nat) (status : JobStatus) (errorMessage : Option String)
  | send (count : Nat)
  | cacheRemaining (figure : Int)
  | record (entry : UsageEntry)
  | markCooldown (tenant minutes : Nat)
  | acknowledge (task : ScanTask)

def ScanJob.begun (now : Instant) (job : ScanJob) : ScanJob :=
  { job with executedAt := job.executedAt <|> some now }

def ScanJob.finished (status : JobStatus) (errorMessage : Option String) (now : Instant)
    (job : ScanJob) : ScanJob :=
  { job with
    status
    errorMessage := errorMessage.getD job.errorMessage
    finishedAt := some now }

theorem ScanJob.id_begun {now : Instant} (job : ScanJob) : (job.begun now).id = job.id := rfl

theorem ScanJob.id_finished {status : JobStatus} {errorMessage : Option String} {now : Instant}
    (job : ScanJob) : (ScanJob.finished status errorMessage now job).id = job.id := rfl

def ScanWorld.modifyJob (world : ScanWorld) (key : Nat) (change : ScanJob → ScanJob)
    (keeps : ∀ job, (change job).id = job.id) : ScanWorld :=
  { world with jobs := world.jobs.modify key change keeps }

def ScanWorld.cacheRemaining (world : ScanWorld) (figure : Int) : ScanWorld :=
  { world with remaining := some (figure, world.now + remainingCacheMicroseconds) }

def ScanWorld.recordUsage (world : ScanWorld) (entry : UsageEntry) : ScanWorld :=
  let kept := { world with usage := world.usage ++ [⟨entry, world.now⟩] }
  match entry.remainingAfter with
  | none => kept
  | some figure => kept.cacheRemaining figure

def ScanWorld.apply (world : ScanWorld) : ScanWrite → ScanWorld
  | .wait duration => { world with now := world.now + duration }
  | .launch request taken =>
      { world with
        jobs := world.jobs.create (request.row world.now) (fun _ => rfl)
        queue := if taken then request.task world.jobs.next :: world.queue else world.queue }
  | .enqueue task => { world with queue := task :: world.queue }
  | .markRunning job =>
      world.modifyJob job (fun row => { row with status := .running }) fun _ => rfl
  | .begin job => world.modifyJob job (ScanJob.begun world.now) ScanJob.id_begun
  | .finish job status errorMessage =>
      world.modifyJob job (ScanJob.finished status errorMessage world.now) ScanJob.id_finished
  | .send count => { world with sent := world.sent ++ [(world.now, count)] }
  | .cacheRemaining figure => world.cacheRemaining figure
  | .record entry => world.recordUsage entry
  | .markCooldown tenant minutes =>
      { world with
        cooldown := Function.update world.cooldown tenant
          (some (world.now + minutes * microsecondsPerMinute)) }
  | .acknowledge task => { world with queue := world.queue.erase task }

abbrev ScanProgram := Program ScanWorld ScanWrite

/-! ## What the guards read -/

/-- Requests of the month that the ledger knows of, for the whole platform. -/
def ScanWorld.monthlyRequestsUsed (world : ScanWorld) : Nat :=
  ((world.usage.filter fun row => periodStart world.now ≤ row.createdAt).map
    fun row => row.requestsConsumed).sum

/-- The scans of a tenant in the month, those of watched accounts left out. -/
def ScanWorld.monthlyScansUsed (world : ScanWorld) (tenant : Nat) : Nat :=
  world.usage.countP fun row =>
    row.tenant = tenant && periodStart world.now ≤ row.createdAt && row.endpoint ≠ .watchedAccount

def ScanWorld.watchedAccountScansUsed (world : ScanWorld) (tenant : Nat) : Nat :=
  world.usage.countP fun row =>
    row.tenant = tenant && row.endpoint = .watchedAccount && periodStart world.now ≤ row.createdAt

def ScanWorld.coolsDown (world : ScanWorld) (tenant : Nat) : Bool :=
  (world.cooldown tenant).any fun expiry => world.now < expiry

def ScanWorld.cachedRemaining (world : ScanWorld) : Option Int :=
  world.remaining.bind fun (figure, expiry) => if world.now < expiry then some figure else none

/-- A task has nothing left to do where its job is unknown or closed. -/
def ScanWorld.isSettled (world : ScanWorld) (task : ScanTask) : Bool :=
  task.job.any fun key => (world.jobs.find? key).all ScanJob.isClosed

end RssiService.ThreatIntelligence
