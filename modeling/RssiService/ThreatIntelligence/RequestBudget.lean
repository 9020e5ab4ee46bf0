import RssiService.ThreatIntelligence.RegistryAgreement
import RssiService.ThreatIntelligence.RequestAccounting

/-!
# The monthly cap on requests

The guard is asked before a job is created, for one request, over what the ledger
knows of.  What counts is sent later: a scan costs what its pages and retries
cost, and neither the scan of a new asset nor that of the console is guarded.
-/

namespace RssiService.ThreatIntelligence

open Foundation Foundation.Interleaving Foundation.Run
open Billing (periodStart periodStart_le periodStart_mono)

/-- The requests sent to the provider in the month. -/
def ScanWorld.requestsThisMonth (world : ScanWorld) : Nat :=
  ((world.sent.filter fun batch => periodStart world.now ≤ batch.1).map Prod.snd).sum

def ScanWorld.WithinCap (site : ScanSite) (world : ScanWorld) : Prop :=
  world.requestsThisMonth ≤ site.monthlyScanCap

/-- The guard would pass, were it asked when requests are sent, for all of them,
over those that were sent before. -/
def ScanWorld.Affords (site : ScanSite) (world : ScanWorld) : ScanWrite → Prop
  | .send count =>
      Billing.ensureScanBudgetAvailable site.monthlyScanCap world.requestsThisMonth count = .ok ()
  | _ => True

section Writes

variable {site : ScanSite} {world : ScanWorld}

theorem requestsThisMonth_send (count : Nat) :
    (world.apply (.send count)).requestsThisMonth = world.requestsThisMonth + count := by
  have inMonth : periodStart world.now ≤ world.now := periodStart_le world.now
  have here : [(world.now, count)].filter (fun batch => periodStart world.now ≤ batch.1) =
      [(world.now, count)] := List.filter_eq_self.mpr (by simpa using inMonth)
  rw [ScanWorld.requestsThisMonth, ScanWorld.apply, List.filter_append, here, List.map_append,
    List.sum_append]
  rfl

/-- A later month leaves more of the requests behind. -/
theorem requestsThisMonth_wait (duration : Nat) :
    (world.apply (.wait duration)).requestsThisMonth ≤ world.requestsThisMonth := by
  refine List.Sublist.sum_le_sum (List.Sublist.map _ ?_) fun _ _ => Nat.zero_le _
  refine List.monotone_filter_right _ fun batch kept => ?_
  have later : periodStart world.now ≤ periodStart (world.now + duration) :=
    periodStart_mono (Nat.le_add_right _ _)
  exact decide_eq_true (later.trans (of_decide_eq_true kept))

/-- What one write preserves. -/
theorem withinCap_apply_iff (world : ScanWorld) (change : ScanWrite)
    (within : world.WithinCap site) :
    (world.apply change).WithinCap site ↔ world.Affords site change := by
  cases change with
  | send count =>
      rw [ScanWorld.WithinCap, requestsThisMonth_send, ScanWorld.Affords,
        Billing.ensureScanBudgetAvailable_eq_ok]
      rw [ScanWorld.WithinCap] at within
      omega
  | wait duration => exact iff_of_true ((requestsThisMonth_wait duration).trans within) trivial
  | record entry =>
      refine iff_of_true ?_ trivial
      rw [ScanWorld.apply, ScanWorld.recordUsage]
      cases entry.remainingAfter <;> exact within
  | _ => exact iff_of_true within trivial

end Writes

/-! ## Whole schedules -/

section Overrun

def billedSite : ScanSite := { quietSite with billing := acmeBilling, monthlyScanCap := 5 }

/-- Every endpoint has one empty page. -/
def nothingFound : Answers := fun _ _ _ => emptyPage

/-- The request passes the guards, and a worker takes its message. -/
def overrun : List (Moment ScanRequest) :=
  .arrive 0 (.triggerScan 1 none (fun _ => emptyPage) true) :: List.replicate 9 (.advance 0) ++
    .arrive 1 (.deliver ⟨1, none, .manual, .assets, some 0, 0⟩ [acmeTarget nothingFound]
      fun _ => emptyPage) :: List.replicate 9 (.advance 1)

end Overrun

end RssiService.ThreatIntelligence
