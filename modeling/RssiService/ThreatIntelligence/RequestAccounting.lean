import Mathlib.Data.List.TakeWhile
import RssiService.Foundation.Counting
import RssiService.ThreatIntelligence.ScanRequests

/-!
# Requests recorded and requests sent

The ledger should hold as many requests as were sent to the provider.  A scan
reports one request for each page it reads and nothing where it fails, so that
retries, endpoints that answer before another one fails, and the look at the
remaining budget go unrecorded.
-/

namespace RssiService.ThreatIntelligence

open Foundation Foundation.Interleaving Foundation.Run Python

/-! ## Runs -/

inductive ScanEvent where
  | wait (duration : Nat)
  | scan (execution : Execution)
  | watchedAccountScan (execution : Execution)

def scanEventProgram (site : ScanSite) : ScanEvent → ScanProgram
  | .wait duration => .write (.wait duration) .done
  | .scan execution => executeScan site execution fun _ => .done
  | .watchedAccountScan execution => executeWatchedAccountScan site execution fun _ => .done

def scanStep (site : ScanSite) (world : ScanWorld) (event : ScanEvent) : ScanWorld :=
  (scanEventProgram site event).alone ScanWorld.apply world

def ScanWorld.recordedTotal (world : ScanWorld) : Nat :=
  (world.usage.map fun row => row.requestsConsumed).sum

def ScanWorld.sentTotal (world : ScanWorld) : Nat := (world.sent.map Prod.snd).sum

/-- The same state with nothing recorded and nothing sent yet. -/
def ScanWorld.opened (world : ScanWorld) : ScanWorld := { world with usage := [], sent := [] }

/-! ## The condition -/

/-- The targets before the first one whose query cannot be derived. -/
def askedTargets (targets : List Target) : List Target :=
  targets.takeWhile fun target => target.query.isSome

/-- Every scan obtains each page by the first request it sends, or fails before it
sends any; once something is reported, the look at the remaining budget sends
nothing.  Where some query cannot be derived, nothing is sent before it. -/
def BatchAccounted (world : ScanWorld) (lookup : Nat → Attempt) (targets : List Target) : Prop :=
  if targets.all (fun target => target.query.isSome) then
    (∀ target ∈ targets, AllAtOnce target.answers ∨ NothingSent (target.answers .stealer 1)) ∧
      ((∃ target ∈ targets, AllAtOnce target.answers) →
        world.cachedRemaining.isSome = true ∨ NothingSent lookup)
  else ∀ target ∈ askedTargets targets, NothingSent (target.answers .stealer 1)

def Accounted (world : ScanWorld) : ScanEvent → Prop
  | .wait _ => True
  | .scan execution => BatchAccounted world execution.lookup execution.targets
  | .watchedAccountScan execution =>
      BatchAccounted world execution.lookup (byAddress execution.targets)

/-! ## Totals after one write -/

section Totals

variable {world : ScanWorld}

@[simp]
theorem sentTotal_send {count : Nat} :
    (world.apply (.send count)).sentTotal = world.sentTotal + count := by
  simp [ScanWorld.sentTotal, ScanWorld.apply]

@[simp]
theorem recordedTotal_record {entry : UsageEntry} :
    (world.apply (.record entry)).recordedTotal =
      world.recordedTotal + entry.requestsConsumed := by
  rw [ScanWorld.apply, ScanWorld.recordUsage]
  cases entry.remainingAfter <;> simp [ScanWorld.recordedTotal, ScanWorld.cacheRemaining]

@[simp]
theorem sentTotal_record {entry : UsageEntry} :
    (world.apply (.record entry)).sentTotal = world.sentTotal := by
  rw [ScanWorld.apply, ScanWorld.recordUsage]
  cases entry.remainingAfter <;> rfl

end Totals

/-! ## One execution -/

section Executions

variable {site : ScanSite} {world : ScanWorld} {lookup : Nat → Attempt} {targets : List Target}

/-- What is sent for a list of targets. -/
def ScanWorld.sendAll (world : ScanWorld) (targets : List Target) : ScanWorld :=
  targets.foldl (fun world target => world.apply (.send (scan target.answers).sent)) world

/-- The loop over the targets sends for those it asks about, and ends with their
tally or with nothing. -/
theorem alone_scanTargets (next : Option Tally → ScanProgram) : ∀ (tally : Tally)
    (world : ScanWorld), (scanTargets next targets tally).alone ScanWorld.apply world =
      (next (if targets.all (fun target => target.query.isSome)
        then some (targets.foldl Tally.add tally) else none)).alone ScanWorld.apply
          (world.sendAll (askedTargets targets)) := by
  induction targets with
  | nil => exact fun _ _ => rfl
  | cons target rest ih =>
      intro tally world
      rw [scanTargets, askedTargets, List.takeWhile_cons]
      cases derived : target.query with
      | none => simp [derived, ScanWorld.sendAll]
      | some query =>
          simp only [Program.alone_write, ih, List.all_cons, derived, Option.isSome_some,
            Bool.true_and, if_true, List.foldl_cons, ScanWorld.sendAll, askedTargets]

theorem cachedRemaining_sendAll : (world.sendAll targets).cachedRemaining = world.cachedRemaining := by
  induction targets generalizing world with
  | nil => rfl
  | cons target rest ih => exact ih

theorem recordedTotal_sendAll : (world.sendAll targets).recordedTotal = world.recordedTotal := by
  induction targets generalizing world with
  | nil => rfl
  | cons target rest ih => exact ih

theorem sentTotal_sendAll : (world.sendAll targets).sentTotal =
    world.sentTotal + (targets.map fun target => (scan target.answers).sent).sum := by
  induction targets generalizing world with
  | nil => rfl
  | cons target rest ih =>
      rw [ScanWorld.sendAll, List.foldl_cons, ← ScanWorld.sendAll, ih, sentTotal_send,
        List.map_cons, List.sum_cons, Nat.add_assoc]

theorem requests_add (tally : Tally) (target : Target) :
    (tally.add target).requests = tally.requests + reportedBy target.answers := by
  rw [Tally.add, reportedBy]
  cases (scan target.answers).outcome with
  | error error => rfl
  | ok result =>
      dsimp only
      cases target.ingest result.findings <;> rfl

theorem requests_foldl {tally : Tally} : (targets.foldl Tally.add tally).requests =
    tally.requests + (targets.map fun target => reportedBy target.answers).sum := by
  induction targets generalizing tally with
  | nil => rfl
  | cons target rest ih =>
      rw [List.foldl_cons, ih, requests_add, List.map_cons, List.sum_cons, Nat.add_assoc]

/-- What a look at the remaining budget sends. -/
def ScanWorld.lookupCost (world : ScanWorld) (lookup : Nat → Attempt) : Nat :=
  if world.cachedRemaining.isSome then 0 else (accountRemaining lookup).sent

theorem sent_accountRemaining : (accountRemaining lookup).sent = (requestWithRetries lookup).sent := by
  rw [accountRemaining, Sending.andThen]
  cases (requestWithRetries lookup).outcome with
  | error error => rfl
  | ok response =>
      dsimp only
      cases response.content <;> rfl

theorem lookupCost_eq_zero : world.lookupCost lookup = 0 ↔
    world.cachedRemaining.isSome = true ∨ NothingSent lookup := by
  rw [ScanWorld.lookupCost, ← sent_request_eq_zero, ← sent_accountRemaining]
  split <;> simp_all

/-- A call that raises has reached the provider. -/
theorem paid_of_raise (raises : getRemainingQuota site.toInt lookup = none) :
    1 ≤ (accountRemaining lookup).sent := by
  rw [getRemainingQuota] at raises
  cases outcome : (accountRemaining lookup).outcome with
  | error error => simp [outcome] at raises
  | ok value =>
      obtain ⟨response, answered, _⟩ := Sending.andThen_eq_ok.mp outcome
      rw [sent_accountRemaining]
      exact (answered_requestFrom answered).2

/-- The figure that a look at the remaining budget finds, and the state it leaves. -/
def ScanWorld.look (site : ScanSite) (lookup : Nat → Attempt) (world : ScanWorld) :
    Option (Option Int) × ScanWorld :=
  match world.cachedRemaining with
  | some figure => (some (some figure), world)
  | none =>
      let asked := world.apply (.send (accountRemaining lookup).sent)
      match getRemainingQuota site.toInt lookup with
      | some (some figure) => (some (some figure), asked.cacheRemaining figure)
      | found => (found, asked)

theorem alone_getRemaining (next : Option (Option Int) → ScanProgram) :
    (getRemaining site lookup next).alone ScanWorld.apply world =
      (next (world.look site lookup).1).alone ScanWorld.apply (world.look site lookup).2 := by
  rw [getRemaining, Program.alone, ScanWorld.look]
  cases world.cachedRemaining with
  | some figure => rfl
  | none =>
      dsimp only
      rw [Program.alone_write]
      cases getRemainingQuota site.toInt lookup with
      | none => rfl
      | some found => cases found <;> rfl

/-- A look records nothing, and raises only where it has sent something. -/
theorem look_spec :
    (world.look site lookup).2.recordedTotal = world.recordedTotal ∧
      (world.look site lookup).2.sentTotal = world.sentTotal + world.lookupCost lookup ∧
      ((world.look site lookup).1 = none → 1 ≤ world.lookupCost lookup) := by
  rw [ScanWorld.look, ScanWorld.lookupCost]
  cases world.cachedRemaining with
  | some figure => exact ⟨rfl, rfl, (by rintro ⟨⟩)⟩
  | none =>
      dsimp only
      cases answered : getRemainingQuota site.toInt lookup with
      | none => exact ⟨rfl, sentTotal_send, fun _ => paid_of_raise answered⟩
      | some found => cases found <;> exact ⟨rfl, sentTotal_send, (by rintro ⟨⟩)⟩

/-- The totals of a state that a batch leaves: what its scans report is recorded,
unless the look at the remaining budget raises. -/
theorem totals_recordBatch {endpoint : UsageEndpoint} {execution : Execution}
    {triggeredBy : TriggeredBy} {tally : Tally} {conclude : ScanProgram}
    (keeps : ∀ world, (conclude.alone ScanWorld.apply world).recordedTotal = world.recordedTotal ∧
      (conclude.alone ScanWorld.apply world).sentTotal = world.sentTotal)
    {after : ScanWorld} (ends : (recordBatch site endpoint execution triggeredBy tally .done
      conclude).alone ScanWorld.apply world = after) :
    if tally.requests = 0 then
      after.recordedTotal = world.recordedTotal ∧ after.sentTotal = world.sentTotal
    else after.sentTotal = world.sentTotal + world.lookupCost execution.lookup ∧
      (after.recordedTotal = world.recordedTotal + tally.requests ∨
        after.recordedTotal = world.recordedTotal ∧ 1 ≤ world.lookupCost execution.lookup) := by
  subst ends
  rw [recordBatch]
  split
  · exact keeps world
  · obtain ⟨recorded, sent, paid⟩ := @look_spec site world execution.lookup
    rw [alone_getRemaining]
    cases found : (world.look site execution.lookup).1 with
    | none => exact ⟨sent, Or.inr ⟨recorded, paid found⟩⟩
    | some figure =>
        simp only [Program.alone_write, keeps, recordedTotal_record, sentTotal_record, sent,
          recorded, true_or, and_self]

/-- A scan that is counted in full reports something. -/
theorem reported_of_atOnce {answers : Answers} (atOnce : AllAtOnce answers) :
    reportedBy answers ≠ 0 := by
  obtain ⟨result, ok, _⟩ := scanFrom_exact_iff.mpr atOnce
  have counted := (scanFrom_count ok).1
  simp only [queryEndpoints, List.length_cons, List.length_nil] at counted
  rw [reportedBy, scan, ok]
  dsimp only
  omega

/-- Where every target is counted in full or not at all, something is reported
exactly where some target is counted. -/
theorem reported_eq_zero_iff
    (counted : ∀ target ∈ targets,
      AllAtOnce target.answers ∨ NothingSent (target.answers .stealer 1)) :
    (targets.map fun target => reportedBy target.answers).sum = 0 ↔
      ¬ ∃ target ∈ targets, AllAtOnce target.answers := by
  rw [List.sum_eq_zero_iff]
  simp only [List.forall_mem_map, not_exists, not_and]
  refine forall₂_congr fun target member => ?_
  constructor
  · exact fun nothing atOnce => reported_of_atOnce atOnce nothing
  · intro partly
    have silent := (counted target member).resolve_left partly
    have bound := reportedBy_le_sent target.answers
    rw [sent_scan_eq_zero.mpr silent] at bound
    exact Nat.le_zero.mp bound

/-- A batch whose queries are all derived: the totals it leaves agree where its
scans are counted in full, and its look at the budget is free. -/
theorem derived_exact {after : ScanWorld} (behind : world.recordedTotal ≤ world.sentTotal)
    (totals : if (targets.map fun target => reportedBy target.answers).sum = 0 then
        after.recordedTotal = world.recordedTotal ∧
          after.sentTotal = (world.sendAll targets).sentTotal
      else after.sentTotal = (world.sendAll targets).sentTotal + world.lookupCost lookup ∧
        (after.recordedTotal =
            world.recordedTotal + (targets.map fun target => reportedBy target.answers).sum ∨
          after.recordedTotal = world.recordedTotal ∧ 1 ≤ world.lookupCost lookup)) :
    after.recordedTotal ≤ after.sentTotal ∧
      (after.recordedTotal = after.sentTotal ↔ world.recordedTotal = world.sentTotal ∧
        (∀ target ∈ targets, AllAtOnce target.answers ∨ NothingSent (target.answers .stealer 1)) ∧
        ((∃ target ∈ targets, AllAtOnce target.answers) →
          world.cachedRemaining.isSome = true ∨ NothingSent lookup)) := by
  rw [sentTotal_sendAll] at totals
  have bound : ∀ target ∈ targets, reportedBy target.answers ≤ (scan target.answers).sent :=
    fun target _ => reportedBy_le_sent target.answers
  have below := List.sum_le_sum bound
  have full := sum_map_eq_iff bound
  simp only [reportedBy_eq_sent_iff] at full
  rw [← lookupCost_eq_zero, ← full]
  by_cases nothing : (targets.map fun target => reportedBy target.answers).sum = 0
  · rw [if_pos nothing] at totals
    refine ⟨by omega, fun even => ⟨by omega, by omega, fun some => ?_⟩, by omega⟩
    have same : (targets.map fun target => reportedBy target.answers).sum =
        (targets.map fun target => (scan target.answers).sent).sum := by omega
    exact absurd some ((reported_eq_zero_iff (full.mp same)).mp nothing)
  · rw [if_neg nothing] at totals
    obtain ⟨sent, totals⟩ := totals
    have some (same : (targets.map fun target => reportedBy target.answers).sum =
        (targets.map fun target => (scan target.answers).sent).sum) :
        ∃ target ∈ targets, AllAtOnce target.answers :=
      not_not.mp fun none => nothing ((reported_eq_zero_iff (full.mp same)).mpr none)
    rcases totals with recorded | ⟨recorded, paid⟩
    · refine ⟨by omega, fun even => ⟨by omega, by omega, fun _ => by omega⟩, ?_⟩
      rintro ⟨even, same, free⟩
      have := free (some same)
      omega
    · refine ⟨by omega, fun even => by omega, ?_⟩
      rintro ⟨even, same, free⟩
      have := free (some same)
      omega

/-- A batch that stops at a query it cannot derive records nothing of what it sent. -/
theorem underived_exact (behind : world.recordedTotal ≤ world.sentTotal) :
    (world.sendAll targets).recordedTotal ≤ (world.sendAll targets).sentTotal ∧
      ((world.sendAll targets).recordedTotal = (world.sendAll targets).sentTotal ↔
        world.recordedTotal = world.sentTotal ∧
          ∀ target ∈ targets, NothingSent (target.answers .stealer 1)) := by
  have silent : (targets.map fun target => (scan target.answers).sent).sum = 0 ↔
      ∀ target ∈ targets, NothingSent (target.answers .stealer 1) := by
    rw [List.sum_eq_zero_iff]
    simp only [List.forall_mem_map, sent_scan_eq_zero]
  rw [recordedTotal_sendAll, sentTotal_sendAll, ← silent]
  omega

/-- What a batch does to the totals. -/
theorem executeBatch_exact {endpoint : UsageEndpoint} {execution : Execution}
    {triggeredBy : TriggeredBy} {conclude : Tally → ScanProgram}
    (keeps : ∀ tally world,
      ((conclude tally).alone ScanWorld.apply world).recordedTotal = world.recordedTotal ∧
        ((conclude tally).alone ScanWorld.apply world).sentTotal = world.sentTotal)
    (behind : world.recordedTotal ≤ world.sentTotal) {after : ScanWorld}
    (ends : (executeBatch site endpoint execution triggeredBy targets .done
      conclude).alone ScanWorld.apply world = after) :
    after.recordedTotal ≤ after.sentTotal ∧
      (after.recordedTotal = after.sentTotal ↔
        world.recordedTotal = world.sentTotal ∧
          BatchAccounted world execution.lookup targets) := by
  rw [executeBatch, alone_scanTargets] at ends
  rw [BatchAccounted]
  by_cases derived : targets.all (fun target => target.query.isSome) = true
  · have asked : askedTargets targets = targets :=
      List.takeWhile_eq_self_iff.mpr (List.all_eq_true.mp derived)
    rw [if_pos derived, asked] at ends
    rw [if_pos derived]
    have totals := totals_recordBatch (keeps _) ends
    rw [requests_foldl, Nat.zero_add, recordedTotal_sendAll, ScanWorld.lookupCost,
      cachedRemaining_sendAll, ← ScanWorld.lookupCost] at totals
    exact derived_exact behind totals
  · rw [if_neg derived] at ends
    rw [if_neg derived, ← ends]
    exact underived_exact behind

/-- What one event does to the totals. -/
theorem scanStep_exact (site : ScanSite) (world : ScanWorld) (event : ScanEvent)
    (behind : world.recordedTotal ≤ world.sentTotal) :
    (scanStep site world event).recordedTotal ≤ (scanStep site world event).sentTotal ∧
      ((scanStep site world event).recordedTotal = (scanStep site world event).sentTotal ↔
        world.recordedTotal = world.sentTotal ∧ Accounted world event) := by
  cases event with
  | wait duration => exact ⟨behind, (and_iff_left trivial).symm⟩
  | scan execution =>
      refine executeBatch_exact (fun tally world => ?_) behind rfl
      dsimp only
      split
      · rw [markScanCooldown]
        split <;> exact ⟨rfl, rfl⟩
      · exact ⟨rfl, rfl⟩
  | watchedAccountScan execution =>
      exact executeBatch_exact (fun _ _ => ⟨rfl, rfl⟩) behind rfl

end Executions

/-! ## Whole runs -/

/-- Over any run of scans, the ledger holds as many requests as were sent exactly
where every scan is counted in full or sends nothing. -/
theorem recorded_eq_sent_iff (site : ScanSite) (start : ScanWorld) (events : List ScanEvent) :
    (after (scanStep site) start.opened events).recordedTotal =
        (after (scanStep site) start.opened events).sentTotal ↔
      EachStep (scanStep site) Accounted start.opened events := by
  have run := after_iff_eachStep (I := fun world => world.recordedTotal ≤ world.sentTotal)
    (P := fun world => world.recordedTotal = world.sentTotal) (scanStep site)
    (fun world event behind => (scanStep_exact site world event behind).1)
    (fun world event behind => (scanStep_exact site world event behind).2)
    start.opened (Nat.le_refl 0) events
  rw [run]
  exact and_iff_right rfl

/-! One endpoint answers, and the next one refuses. -/

section Partial

/-- A page with nothing on it. -/
def emptyPage : Attempt := .answered ⟨200, "", .empty⟩

def badRequest : Attempt :=
  .answered ⟨400, "Request missing the appropriate parameters", .empty⟩

/-- The first endpoint alone answers. -/
def stealerOnly : Answers := fun endpoint _ _ => if endpoint = .stealer then emptyPage else badRequest

def acmeTarget (answers : Answers) : Target where
  value := "acme.fr"
  query := some "acme.fr"
  answers
  ingest := fun findings => some findings.length

def quietSite : ScanSite where
  billing := ⟨Table.empty, Table.empty, []⟩
  monthlyScanCap := 1000
  quotaSafetyMargin := 50
  tenantCooldown := fun _ => none
  platformCooldown := 1440
  toInt := fun
    | .int figure => some figure
    | _ => none

def quietWorld : ScanWorld where
  now := 0
  jobs := Table.empty
  queue := []
  usage := []
  cooldown := fun _ => none
  remaining := none
  sent := []

def partialScan : Execution where
  tenant := 1
  triggeredBy := .initial
  job := none
  targets := [acmeTarget stealerOnly]
  lookup := fun _ => emptyPage

theorem partial_scan_unrecorded :
    (after (scanStep quietSite) quietWorld.opened [.scan partialScan]).recordedTotal ≠
      (after (scanStep quietSite) quietWorld.opened [.scan partialScan]).sentTotal := by
  decide +kernel

end Partial

end RssiService.ThreatIntelligence
