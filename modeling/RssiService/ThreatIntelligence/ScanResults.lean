import Mathlib.Data.Finset.Card
import Mathlib.Data.List.Dedup
import RssiService.ThreatIntelligence.Ingestion
import RssiService.ThreatIntelligence.MonitoredPool

/-!
# The result of a scan

A scan ingests what the provider answers for one asset after the other, under
one report, and tells how many findings it saw again that were treated or
ignored.  Its usage and its cooldown are recorded apart.
-/

namespace RssiService.ThreatIntelligence

open Foundation Foundation.Run Python
open Monitoring (Asset)

/-- An asset of a scan, when its answer is ingested, and the answer: the requests consumed and
the records, unless the provider raises. -/
structure ScanTurn where
  asset : Asset
  now : Nat
  answer : Option (Nat × List Delivery)

structure ScanProgress where
  store : Store
  report : IngestionReport
  created : Nat
  requests : Nat
  failed : List String
  /-- An asset had no domain to ask about: the exception is not caught. -/
  raised : Bool

def ScanProgress.start (store : Store) : ScanProgress :=
  { store, report := ⟨[], [], []⟩, created := 0, requests := 0, failed := [], raised := false }

structure ScanSummary where
  findingsCreated : Nat
  requestsConsumed : Nat
  assetsEnEchec : List String
  alreadyTreatedSeen : Nat
  alreadyTreatedIds : List Nat
  findingsSeenAgain : Nat
  deriving DecidableEq, Repr

inductive ScanFailure where
  | malformedValue
  | impossible (message : String)
  deriving DecidableEq, Repr

def maxReportedTreatedIds : Nat := 50

/-- The body of the loop: an asset whose query or ingestion raises is noted, and leaves what
was written. -/
def scanAsset (runtime : Runtime) (tenant : Nat) (progress : ScanProgress) (turn : ScanTurn) :
    ScanProgress :=
  if progress.raised then progress
  else
    match assetDomain runtime.unicode turn.asset with
    | none => { progress with raised := true }
    | some _ =>
        match turn.answer with
        | none => { progress with failed := progress.failed ++ [turn.asset.value] }
        | some (requests, deliveries) =>
            let ingested := ingestRawFindings runtime tenant turn.asset turn.now progress.report
              deliveries progress.store
            let progress :=
              { progress with
                store := ingested.store
                report := ingested.report
                requests := progress.requests + requests }
            match ingested.failure with
            | some _ => { progress with failed := progress.failed ++ [turn.asset.value] }
            | none => { progress with created := progress.created + ingested.created.length }

def ScanProgress.result (progress : ScanProgress) : ScanSummary where
  findingsCreated := progress.created
  requestsConsumed := progress.requests
  assetsEnEchec := progress.failed
  alreadyTreatedSeen := progress.report.seenAgainTreated.length
  alreadyTreatedIds := progress.report.seenAgainTreated.take maxReportedTreatedIds
  findingsSeenAgain := progress.report.seenAgain.length

def ScanProgress.conclude (progress : ScanProgress) (turns : List ScanTurn) :
    Except ScanFailure ScanSummary :=
  if progress.raised then .error .malformedValue
  else if progress.failed ≠ [] ∧ progress.created = 0 ∧ progress.failed.length = turns.length then
    .error (.impossible
      ("Analyse impossible pour " ++ String.intercalate ", " progress.failed ++ "."))
  else .ok progress.result

/-- `execute_scan` over the answers of the provider. -/
def executeTurns (runtime : Runtime) (tenant : Nat) (store : Store) (turns : List ScanTurn) :
    Store × Except ScanFailure ScanSummary :=
  let progress := after (scanAsset runtime tenant) (ScanProgress.start store) turns
  (progress.store, progress.conclude turns)

/-! ## What a scan observes again -/

/-- The finding that a record leads to, where its last observation is moved. -/
def observedAgain (runtime : Runtime) (tenant : Nat) (progress : Progress) (delivery : Delivery) :
    Option BreachFinding :=
  let normalized := normalizeFinding runtime delivery.raw.endpoint delivery.raw.payload
  if progress.failure.isSome ∨ delivery.raw.isTest = true ∨
      (normalized.secretPlain ≠ "" ∧ delivery.fault = some .encryption) ∨
      delivery.fault = some .lookup ∨ delivery.fault = some .observation then none
  else (findExistingFinding progress.store tenant normalized).map Prod.snd

/-- The treated or ignored finding that a record observes again. -/
def closedAgain (runtime : Runtime) (tenant : Nat) (progress : Progress) (delivery : Delivery) :
    List Nat :=
  (((observedAgain runtime tenant progress delivery).filter fun finding =>
    finding.status.isClosed).map fun finding => finding.id).toList

/-- Those of an asset, record after record. -/
def closedOfAsset (runtime : Runtime) (tenant : Nat) (progress : ScanProgress)
    (turn : ScanTurn) : List Nat :=
  if progress.raised ∨ assetDomain runtime.unicode turn.asset = none then []
  else
    (turn.answer.toList.flatMap Prod.snd |>
      gathered (ingestRecord runtime tenant turn.asset turn.now) (closedAgain runtime tenant)
        (Progress.start progress.store progress.report))

/-- Those of a scan, asset after asset. -/
def closedOfScan (runtime : Runtime) (tenant : Nat) (store : Store) (turns : List ScanTurn) :
    List Nat :=
  gathered (scanAsset runtime tenant) (closedOfAsset runtime tenant) (ScanProgress.start store)
    turns

section Reports

variable (runtime : Runtime) (tenant now : Nat) (asset : Asset)

theorem seenAgainTreated_noteSeenAgain (report : IngestionReport) (finding : BreachFinding) :
    (report.noteSeenAgain finding).seenAgainTreated = report.seenAgainTreated ++
      (((some finding).filter fun finding => finding.status.isClosed).map
        fun finding => finding.id).toList := by
  rw [IngestionReport.noteSeenAgain]
  cases closed : finding.status.isClosed <;> simp [Option.filter, closed]

theorem seenAgainTreated_raiseAlert {progress : Progress} {fault : Option Fault}
    {finding : BreachFinding} :
    (raiseAlert asset now progress fault finding).report.seenAgainTreated =
      progress.report.seenAgainTreated := by
  rw [raiseAlert]
  split
  · rfl
  · dsimp only
    split <;> rfl

/-- A record adds the closed finding that it observes again, and nothing else. -/
theorem seenAgainTreated_ingestRecord (progress : Progress) (delivery : Delivery) :
    (ingestRecord runtime tenant asset now progress delivery).report.seenAgainTreated =
      progress.report.seenAgainTreated ++ closedAgain runtime tenant progress delivery := by
  have course := ingestRecord_course runtime tenant now asset progress delivery
  generalize ingestRecord runtime tenant asset now progress delivery = later at course ⊢
  have unseen (dark : observedAgain runtime tenant progress delivery = none) :
      progress.report.seenAgainTreated = progress.report.seenAgainTreated ++
        closedAgain runtime tenant progress delivery := by
    rw [closedAgain, dark]
    exact (List.append_nil _).symm
  cases course with
  | passed idle =>
      refine unseen (if_pos ?_)
      rw [Option.isSome_iff_ne_none]
      exact idle.imp_right Or.inl
  | unencrypted running real secret stopped =>
      exact unseen (if_pos (Or.inr (Or.inr (Or.inl ⟨secret, stopped⟩))))
  | unlooked running real stopped =>
      exact unseen (if_pos (Or.inr (Or.inr (Or.inr (Or.inl stopped)))))
  | @known store existing looks found =>
      rw [observeExisting]
      split
      · rename_i stopped
        exact unseen (if_pos (Or.inr (Or.inr (Or.inr (Or.inr stopped)))))
      · rename_i observes
        have seen : observedAgain runtime tenant progress delivery = some existing := by
          refine (if_neg ?_).trans (congrArg (Option.map Prod.snd) found)
          rintro (failed | test | ⟨secret, stopped⟩ | stopped | stopped)
          · rw [looks.running] at failed
            cases failed
          · rw [looks.real] at test
            cases test
          · exact looks.encrypted.elim secret fun encrypts => encrypts stopped
          · exact looks.looked stopped
          · exact observes stopped
        rw [closedAgain, seen]
        exact seenAgainTreated_noteSeenAgain _ _
  | uninserted looks unknown stopped =>
      refine unseen ?_
      rw [observedAgain, unknown]
      exact ite_self none
  | inserted secretEncrypted looks unknown inserts =>
      rw [seenAgainTreated_raiseAlert]
      refine unseen ?_
      rw [observedAgain, unknown]
      exact ite_self none

theorem report_ingestRawFindings {report : IngestionReport} {deliveries : List Delivery}
    {store : Store} :
    (ingestRawFindings runtime tenant asset now report deliveries store).report =
      (after (ingestRecord runtime tenant asset now) (Progress.start store report)
        deliveries).report := by
  rw [ingestRawFindings]
  split <;> rfl

theorem seenAgainTreated_scanAsset (progress : ScanProgress) (turn : ScanTurn) :
    (scanAsset runtime tenant progress turn).report.seenAgainTreated =
      progress.report.seenAgainTreated ++ closedOfAsset runtime tenant progress turn := by
  rw [scanAsset, closedOfAsset]
  split
  · rename_i raised
    rw [if_pos (Or.inl raised), List.append_nil]
  · rename_i running
    cases domain : assetDomain runtime.unicode turn.asset with
    | none => rw [if_pos (Or.inr rfl), List.append_nil]
    | some _ =>
        rw [if_neg (by simp [running])]
        cases answered : turn.answer with
        | none => exact (List.append_nil _).symm
        | some answer =>
            have log := log_after (fun progress => progress.report.seenAgainTreated)
              (seenAgainTreated_ingestRecord runtime tenant turn.now turn.asset)
              (Progress.start progress.store progress.report) answer.2
            dsimp only
            rw [← report_ingestRawFindings] at log
            split
            all_goals
              rw [Option.toList_some, List.flatMap_singleton]
              exact log

end Reports

/-- The count of treated findings that a scan reports is that of the distinct treated or
ignored ones it observed again exactly when it observed none of them twice. -/
theorem alreadyTreatedSeen_iff (runtime : Runtime) (tenant : Nat) (store : Store)
    (turns : List ScanTurn) (result : ScanSummary)
    (reported : (executeTurns runtime tenant store turns).2 = .ok result) :
    result.alreadyTreatedSeen = (closedOfScan runtime tenant store turns).toFinset.card ↔
      (closedOfScan runtime tenant store turns).Nodup := by
  have seen := log_after (fun progress => progress.report.seenAgainTreated)
    (seenAgainTreated_scanAsset runtime tenant)
    (ScanProgress.start store) turns
  have counted : result.alreadyTreatedSeen =
      (closedOfScan runtime tenant store turns).length := by
    rw [executeTurns, ScanProgress.conclude] at reported
    split at reported
    · cases reported
    · split at reported
      · cases reported
      · cases reported
        exact congrArg List.length seen
  rw [counted, List.card_toFinset, ← List.dedup_eq_self]
  constructor
  · intro same
    exact (List.dedup_sublist _).eq_of_length same.symm
  · intro same
    rw [same]

/-! One treated leak, which the provider returns twice. -/

def returnedTwice : List ScanTurn :=
  [{ asset := acmeSite, now := 30
     answer := some (2, [⟨leakedCredential, "token", none⟩, ⟨leakedCredential, "token", none⟩]) }]

/-- It counts twice. -/
theorem returned_twice_counts_twice :
    ¬ ∀ result, (executeTurns plainRuntime 1 treatedLegacyStore returnedTwice).2 = .ok result →
      result.alreadyTreatedSeen =
        (closedOfScan plainRuntime 1 treatedLegacyStore returnedTwice).toFinset.card := by
  intro counts
  have reported : (executeTurns plainRuntime 1 treatedLegacyStore returnedTwice).2 =
      .ok ⟨0, 2, [], 2, [0, 0], 2⟩ := by
    decide +kernel
  have seen : closedOfScan plainRuntime 1 treatedLegacyStore returnedTwice = [0, 0] := by
    decide +kernel
  have count := counts _ reported
  rw [seen] at count
  exact absurd count (by decide)

theorem alreadyTreatedSeen_iff_returned :
    (⟨0, 1, [], 1, [0], 1⟩ : ScanSummary).alreadyTreatedSeen =
        (closedOfScan plainRuntime 1 treatedLegacyStore
          [⟨acmeSite, 30, some (1, [⟨leakedCredential, "token", none⟩])⟩]).toFinset.card ↔
      (closedOfScan plainRuntime 1 treatedLegacyStore
        [⟨acmeSite, 30, some (1, [⟨leakedCredential, "token", none⟩])⟩]).Nodup :=
  alreadyTreatedSeen_iff plainRuntime 1 treatedLegacyStore _ _ (by decide +kernel)

end RssiService.ThreatIntelligence
