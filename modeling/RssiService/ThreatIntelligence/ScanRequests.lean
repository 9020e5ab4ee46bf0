import RssiService.ThreatIntelligence.ScanJobs

/-!
# Scans, from the request to the worker

Four entry points ask for a scan, and each passes guards of its own.  A worker
goes through the targets one by one, records what they report and closes the
job; where all of them fail the task is sent again, twice at most.
-/

namespace RssiService.ThreatIntelligence

open Foundation Foundation.Interleaving Python
open Foundation.Interleaving.Program (attempt)

/-! ## Settings -/

structure ScanSite where
  billing : Billing.Store
  monthlyScanCap : Nat
  quotaSafetyMargin : Int
  /-- The delay of one tenant, in minutes, where it has its own. -/
  tenantCooldown : Nat → Option Nat
  platformCooldown : Nat
  /-- `int`, which raises on what it cannot read. -/
  toInt : Json → Option Int

def ScanSite.cooldownMinutes (site : ScanSite) (tenant : Nat) : Nat :=
  (site.tenantCooldown tenant).getD site.platformCooldown

/-! ## The remaining budget of the licence -/

def accountRemaining (attempts : Nat → Attempt) : Sending Json :=
  (requestWithRetries attempts).andThen fun response =>
    match response.content with
    | .empty => .done (.obj [])
    | .unreadable => ⟨.error .unreadableBody, 0⟩
    | .json value => .done value

/-- The figure of the provider, which may be unknown; nothing where the call
raises. -/
def getRemainingQuota (toInt : Json → Option Int) (attempts : Nat → Attempt) :
    Option (Option Int) :=
  match (accountRemaining attempts).outcome with
  | .error _ => some none
  | .ok (.obj fields) =>
      match (fields.lookup "Remaining").getD ((fields.lookup "remaining").getD .null) with
      | .null => some none
      | figure => (toInt figure).map some
  | .ok _ => none

/-- The kept figure, or the one that the provider is asked for. -/
def getRemaining (site : ScanSite) (lookup : Nat → Attempt)
    (next : Option (Option Int) → ScanProgram) : ScanProgram :=
  .read fun world =>
    match world.cachedRemaining with
    | some figure => next (some (some figure))
    | none =>
        .write (.send (accountRemaining lookup).sent)
          (match getRemainingQuota site.toInt lookup with
            | some (some figure) => .write (.cacheRemaining figure) (next (some (some figure)))
            | found => next found)

/-! ## Guards -/

inductive ScanRefusal where
  | cooldownActive (message : String)
  | quotaExceeded (message : String)
  | noTarget (message : String)
  deriving DecidableEq, Repr

def scanCooldown : String :=
  "Une analyse a déjà été lancée récemment pour votre entreprise. " ++
    "Une nouvelle analyse sera possible dans quelques heures — les fuites " ++
    "détectées entre-temps vous parviennent sans attendre."

def scanTemporarilyUnavailable : String :=
  "L'analyse est momentanément indisponible. Réessayez d'ici quelques " ++
    "minutes ; si cela persiste, contactez-nous."

def scanFailed : String :=
  "L'analyse n'a pas pu aboutir. Nos équipes en sont informées, et vous " ++
    "pouvez la relancer dans quelques minutes. Les résultats déjà présents " ++
    "dans votre espace restent valables."

def checkScanQuota (site : ScanSite) (tenant : Nat) (world : ScanWorld) :
    Except Billing.EntitlementError Unit :=
  site.billing.ensureScanQuota tenant (world.monthlyScansUsed tenant)

def checkWatchedScanQuota (site : ScanSite) (tenant : Nat) (world : ScanWorld) :
    Except Billing.EntitlementError Unit :=
  site.billing.ensureWatchedAccountScanQuota tenant (world.watchedAccountScansUsed tenant)

def checkScanBudget (site : ScanSite) (additional : Nat) (world : ScanWorld) :
    Except Billing.Failure Unit :=
  Billing.ensureScanBudgetAvailable site.monthlyScanCap world.monthlyRequestsUsed additional

def ensureScanCooldownElapsed (site : ScanSite) (tenant : Nat) (world : ScanWorld) :
    Except ScanRefusal Unit :=
  if site.cooldownMinutes tenant = 0 then .ok ()
  else if world.coolsDown tenant then .error (.cooldownActive scanCooldown)
  else .ok ()

/-- An unknown figure lets everything through. -/
def checkMargin (site : ScanSite) (figure : Option Int) : Except ScanRefusal Unit :=
  if figure.any (· ≤ site.quotaSafetyMargin) then
    .error (.quotaExceeded scanTemporarilyUnavailable)
  else .ok ()

def ensureQueryBudgetAvailable (site : ScanSite) (lookup : Nat → Attempt)
    (next : ScanProgram) : ScanProgram :=
  getRemaining site lookup fun
    | none => .done
    | some figure => attempt (fun _ => checkMargin site figure) fun _ => next

/-! ## Entry points -/

def createScanJob (site : ScanSite) (request : JobRequest) (lookup : Nat → Attempt)
    (taken : Bool) : ScanProgram :=
  attempt (fun world =>
    if request.triggeredBy = .manual then ensureScanCooldownElapsed site request.tenant world
    else .ok ()) fun _ =>
  ensureQueryBudgetAvailable site lookup (.write (.launch request taken) .done)

/-- The scan that a member asks for, of one asset or of all. -/
def triggerScan (site : ScanSite) (tenant : Nat) (asset : Option Nat) (lookup : Nat → Attempt)
    (taken : Bool) : ScanProgram :=
  attempt (fun _ => site.billing.ensureOperational tenant "Le lancement d'une analyse") fun _ =>
  attempt (checkScanQuota site tenant) fun _ =>
  attempt (checkScanBudget site 1) fun _ =>
  createScanJob site ⟨tenant, asset, .manual, .assets, []⟩ lookup taken

/-- The scan of the console: the budget of the platform is not looked at, and the
remaining figure is, twice. -/
def consoleScan (site : ScanSite) (tenant : Nat) (first second : Nat → Attempt)
    (taken : Bool) : ScanProgram :=
  attempt (fun _ => site.billing.ensureOperational tenant "Une analyse") fun _ =>
  attempt (checkScanQuota site tenant) fun _ =>
  ensureQueryBudgetAvailable site first
    (createScanJob site ⟨tenant, none, .platformAdmin, .assets, []⟩ second taken)

/-- The scan of a new asset: no guard, and no job. -/
def triggerInitialScan (tenant asset : Nat) (taken : Bool) : ScanProgram :=
  if taken then .write (.enqueue ⟨tenant, some asset, .initial, .assets, none, 0⟩) .done
  else .done

def checkAccounts (accounts : List Nat) : Except ScanRefusal Unit :=
  if accounts.isEmpty then .error (.noTarget "Aucun compte à analyser.") else .ok ()

/-- The scan of watched accounts, which has a quota of its own and no cooldown. -/
def triggerWatchedAccountScan (site : ScanSite) (tenant : Nat) (accounts : List Nat)
    (taken : Bool) : ScanProgram :=
  attempt (fun _ => site.billing.ensureFeature tenant Billing.watchedAccounts) fun _ =>
  attempt (fun _ => checkAccounts accounts) fun _ =>
  attempt (fun _ => site.billing.ensureOperational tenant "Le lancement d'une analyse") fun _ =>
  attempt (checkWatchedScanQuota site tenant) fun _ =>
  attempt (checkScanBudget site accounts.length) fun _ =>
  .write (.launch ⟨tenant, none, .manual, .watchedAccounts, accounts⟩ taken) .done

/-! ## Executions -/

/-- An asset or an account to scan: what the provider is asked about, where it
can be derived, what it answers, and how many findings come out of it, unless
their ingestion raises. -/
structure Target where
  value : String
  query : Option String
  answers : Answers
  ingest : List (SourceEndpoint × Json) → Option Nat

structure Tally where
  created : Nat := 0
  requests : Nat := 0
  failed : List String := []

/-- One target more.  The requests of a scan that fails are not counted. -/
def Tally.add (tally : Tally) (target : Target) : Tally :=
  match (scan target.answers).outcome with
  | .error _ => { tally with failed := tally.failed ++ [target.value] }
  | .ok result =>
      let requests := tally.requests + result.requestsConsumed
      match target.ingest result.findings with
      | none => { tally with requests, failed := tally.failed ++ [target.value] }
      | some created => { tally with requests, created := tally.created + created }

/-- One target after the other.  The query is derived before anything can be
caught, so that everything stops where it cannot be. -/
def scanTargets (next : Option Tally → ScanProgram) : List Target → Tally → ScanProgram
  | [], tally => next (some tally)
  | target :: rest, tally =>
      match target.query with
      | none => next none
      | some _ =>
          .write (.send (scan target.answers).sent) (scanTargets next rest (tally.add target))

/-- A batch of targets that a worker scans for a tenant. -/
structure Execution where
  tenant : Nat
  triggeredBy : TriggeredBy
  job : Option Nat
  targets : List Target
  lookup : Nat → Attempt

/-- Record the usage, unless nothing was reported. -/
def recordBatch (site : ScanSite) (endpoint : UsageEndpoint) (execution : Execution)
    (triggeredBy : TriggeredBy) (tally : Tally) (raise next : ScanProgram) : ScanProgram :=
  if tally.requests = 0 then next
  else getRemaining site execution.lookup fun
    | none => raise
    | some remainingAfter =>
        .write (.record
          { tenant := execution.tenant, endpoint, requestsConsumed := tally.requests
            remainingAfter, triggeredBy, findingsCreated := tally.created
            job := execution.job }) next

/-- Scan the targets, record the usage and conclude; some step on the way may raise. -/
def executeBatch (site : ScanSite) (endpoint : UsageEndpoint) (execution : Execution)
    (triggeredBy : TriggeredBy) (targets : List Target) (raise : ScanProgram)
    (conclude : Tally → ScanProgram) : ScanProgram :=
  scanTargets (fun
    | none => raise
    | some tally =>
        recordBatch site endpoint execution triggeredBy tally raise (conclude tally))
    targets {}

/-- Every target has failed and nothing was found: the execution raises. -/
def Tally.isFailure (tally : Tally) (targets : List Target) : Bool :=
  tally.failed ≠ [] && tally.created = 0 && tally.failed.length = targets.length

def Tally.conclude (tally : Tally) (targets : List Target) : Option Tally :=
  if tally.isFailure targets then none else some tally

def markScanCooldown (site : ScanSite) (tenant : Nat) (next : ScanProgram) : ScanProgram :=
  if site.cooldownMinutes tenant = 0 then next
  else .write (.markCooldown tenant (site.cooldownMinutes tenant)) next

/-- `next` gets nothing where the execution raises. -/
def executeScan (site : ScanSite) (execution : Execution) (next : Option Tally → ScanProgram) :
    ScanProgram :=
  executeBatch site .scan execution execution.triggeredBy execution.targets (next none) fun tally =>
    if execution.triggeredBy = .manual then
      markScanCooldown site execution.tenant (next (tally.conclude execution.targets))
    else next (tally.conclude execution.targets)

/-- Accounts are queried by their address. -/
def byAddress (targets : List Target) : List Target :=
  targets.map fun target => { target with query := some target.value }

/-- The scan of watched accounts leaves no cooldown. -/
def executeWatchedAccountScan (site : ScanSite) (execution : Execution)
    (next : Option Tally → ScanProgram) : ScanProgram :=
  executeBatch site .watchedAccount execution .manual (byAddress execution.targets) (next none)
    fun tally => next (tally.conclude execution.targets)

/-! ## Tasks -/

def maxTaskRetries : Nat := 2

/-- A step on the job of a task, if it has one. -/
def onJob (task : ScanTask) (change : Nat → ScanWrite) (next : ScanProgram) : ScanProgram :=
  match task.job with
  | none => next
  | some key => .write (change key) next

/-- The end of a task: it is sent again or closes its job, and is acknowledged last. -/
def concludeTask (task : ScanTask) : Option Tally → ScanProgram
  | some _ => onJob task (.finish · .done none) (.write (.acknowledge task) .done)
  | none =>
      if task.retries < maxTaskRetries then
        .write (.enqueue { task with retries := task.retries + 1 })
          (.write (.acknowledge task) .done)
      else onJob task (.finish · .failed (some scanFailed)) (.write (.acknowledge task) .done)

def ScanTask.execution (task : ScanTask) (targets : List Target) (lookup : Nat → Attempt) :
    Execution where
  tenant := task.tenant
  triggeredBy := task.triggeredBy
  job := task.job
  targets := targets
  lookup := lookup

/-- A worker takes a message that is still in the queue; it may be taken again
until it is acknowledged. -/
def runTask (site : ScanSite) (task : ScanTask) (targets : List Target) (lookup : Nat → Attempt) :
    ScanProgram :=
  .read fun world =>
    if task ∉ world.queue then .done
    else if world.isSettled task then .write (.acknowledge task) .done
    else
      onJob task .markRunning <|
      if targets.isEmpty then concludeTask task (some {})
      else
        onJob task .begin <|
        match task.scope with
        | .assets => executeScan site (task.execution targets lookup) (concludeTask task)
        | .watchedAccounts =>
            executeWatchedAccountScan site (task.execution targets lookup) (concludeTask task)

/-! ## Requests -/

inductive ScanRequest where
  | triggerScan (tenant : Nat) (asset : Option Nat) (lookup : Nat → Attempt) (taken : Bool)
  | consoleScan (tenant : Nat) (first second : Nat → Attempt) (taken : Bool)
  | declareAsset (tenant asset : Nat) (taken : Bool)
  | triggerWatchedAccountScan (tenant : Nat) (accounts : List Nat) (taken : Bool)
  | deliver (task : ScanTask) (targets : List Target) (lookup : Nat → Attempt)
  | wait (duration : Nat)

def scanProgram (site : ScanSite) : ScanRequest → ScanProgram
  | .triggerScan tenant asset lookup taken => triggerScan site tenant asset lookup taken
  | .consoleScan tenant first second taken => consoleScan site tenant first second taken
  | .declareAsset tenant asset taken => triggerInitialScan tenant asset taken
  | .triggerWatchedAccountScan tenant accounts taken =>
      triggerWatchedAccountScan site tenant accounts taken
  | .deliver task targets lookup => runTask site task targets lookup
  | .wait duration => .write (.wait duration) .done

end RssiService.ThreatIntelligence
