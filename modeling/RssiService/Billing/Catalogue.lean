import Mathlib.Data.List.Sort
import RssiService.Foundation.Table
import RssiService.Python.Date

/-!
# Plans and subscriptions

The commercial model: what is sold (`Plan`), to whom (`Subscription`), and the
journal of its transitions (`SubscriptionEvent`).  A subscription follows the
quotas of its plan unless an override was negotiated.  In a plan the quota 0
means unlimited.
-/

namespace RssiService.Billing

open Foundation

/-- Microseconds since the epoch, the resolution of the database. -/
abbrev Instant := Nat

def Instant.addDays (instant : Instant) (days : Nat) : Instant :=
  instant + days * 86400000000

/-- The ordinal of 1970-01-01. -/
def epochOrdinal : Nat := 719163

@[irreducible]
def microsecondsPerDay : Nat := 86400000000

/-- Midnight of the first day of the month. -/
def periodStart (now : Instant) : Instant :=
  (Python.firstOfMonth (Python.monthOf (now / microsecondsPerDay + epochOrdinal)) -
    epochOrdinal) * microsecondsPerDay

inductive PlanStatus where
  | draft
  | published
  | retired
  | internal
  deriving DecidableEq, Repr

structure Plan where
  id : Nat
  code : String
  name : String
  tagline : String
  description : String
  priceMonthly : Nat
  priceYearly : Nat
  currency : String
  isQuoteOnly : Bool
  status : PlanStatus
  displayOrder : Nat
  isHighlighted : Bool
  monitoredAssets : Nat
  monthlyScans : Nat
  maxUsers : Nat
  watchedAccounts : Nat := 0
  monthlyWatchedAccountScans : Nat := 0
  features : List String
  deriving DecidableEq, Repr

instance : Identified Plan := ⟨Plan.id⟩

inductive SubscriptionStatus where
  | trial
  | active
  | suspended
  | cancelled
  | expired
  deriving DecidableEq, Repr

inductive Period where
  | monthly
  | yearly
  deriving DecidableEq, Repr

/-- The subscription of a tenant.  An override of `none` follows the plan. -/
structure Subscription where
  id : Nat
  tenant : Nat
  plan : Nat
  status : SubscriptionStatus
  period : Period
  startedAt : Instant
  trialEndsAt : Option Instant
  renewsAt : Option Instant
  endsAt : Option Instant
  overrideMonitoredAssets : Option Nat
  overrideMonthlyScans : Option Nat
  overrideMaxUsers : Option Nat
  overrideWatchedAccounts : Option Nat := none
  overrideMonthlyWatchedAccountScans : Option Nat := none
  overrideFeatures : Option (List String)
  deriving DecidableEq, Repr

instance : Identified Subscription := ⟨Subscription.id⟩

/-- A suspended, cancelled or expired subscription keeps read access but
consumes no resource. -/
def Subscription.isOperational (subscription : Subscription) : Bool :=
  subscription.status = .trial ∨ subscription.status = .active

/-- One line of the journal.  `fromStatus` is `none` for the opening event. -/
structure SubscriptionEvent where
  subscription : Nat
  fromStatus : Option SubscriptionStatus
  toStatus : SubscriptionStatus
  fromPlan : String
  toPlan : String
  reason : String
  actor : Option Nat
  deriving DecidableEq, Repr

/-- The tables of the billing application. -/
structure Store where
  plans : Table Plan
  subscriptions : Table Subscription
  events : List SubscriptionEvent

/-- The operating settings that the billing operations read. -/
structure Settings where
  monitoredSlotPool : Nat
  defaultTrialPlanCode : String
  trialDays : Nat
  deriving DecidableEq, Repr

/-! ## Effective rights -/

/-- The plan quota a subscription falls back on.  The foreign key is protected,
so the plan of a stored subscription always exists. -/
def Store.planQuota (store : Store) (quota : Plan → Nat) (subscription : Subscription) : Nat :=
  ((store.plans.find? subscription.plan).map quota).getD 0

def Store.monitoredAssetsQuota (store : Store) (subscription : Subscription) : Nat :=
  subscription.overrideMonitoredAssets.getD (store.planQuota Plan.monitoredAssets subscription)

def Store.monthlyScansQuota (store : Store) (subscription : Subscription) : Nat :=
  subscription.overrideMonthlyScans.getD (store.planQuota Plan.monthlyScans subscription)

def Store.maxUsersQuota (store : Store) (subscription : Subscription) : Nat :=
  subscription.overrideMaxUsers.getD (store.planQuota Plan.maxUsers subscription)

def Store.watchedAccountsQuota (store : Store) (subscription : Subscription) : Nat :=
  subscription.overrideWatchedAccounts.getD (store.planQuota Plan.watchedAccounts subscription)

def Store.monthlyWatchedAccountScansQuota (store : Store) (subscription : Subscription) : Nat :=
  subscription.overrideMonthlyWatchedAccountScans.getD
    (store.planQuota Plan.monthlyWatchedAccountScans subscription)

/-! ## Months -/

theorem periodStart_le (now : Instant) : periodStart now ≤ now := by
  have begun : Python.firstOfMonth (Python.monthOf (now / microsecondsPerDay + epochOrdinal)) ≤
      now / microsecondsPerDay + epochOrdinal :=
    (Python.firstOfMonth_le_iff (Nat.le_add_left _ _)).mpr (Nat.le_refl _)
  calc periodStart now
      ≤ now / microsecondsPerDay * microsecondsPerDay :=
        Nat.mul_le_mul_right _ (Nat.sub_le_iff_le_add.mpr begun)
    _ ≤ now := Nat.div_mul_le_self _ _

theorem periodStart_mono {first second : Instant} (le : first ≤ second) :
    periodStart first ≤ periodStart second := by
  have days : first / microsecondsPerDay + epochOrdinal ≤
      second / microsecondsPerDay + epochOrdinal :=
    Nat.add_le_add_right (Nat.div_le_div_right le) _
  have begun : Python.firstOfMonth (Python.monthOf (first / microsecondsPerDay + epochOrdinal)) ≤
      first / microsecondsPerDay + epochOrdinal :=
    (Python.firstOfMonth_le_iff (Nat.le_add_left _ _)).mpr (Nat.le_refl _)
  have month : Python.monthOf (first / microsecondsPerDay + epochOrdinal) ≤
      Python.monthOf (second / microsecondsPerDay + epochOrdinal) :=
    (Python.firstOfMonth_le_iff (Nat.le_add_left _ _)).mp (begun.trans days)
  exact Nat.mul_le_mul_right _ (Nat.sub_le_sub_right (Python.monotone_firstOfMonth month) _)

/-! ## Catalogue -/

/-- Published plans by display order, then by monthly price. -/
def Store.listPublishedPlans (store : Store) : List Plan :=
  (store.plans.rows.filter fun plan => plan.status = .published).insertionSort fun first second =>
    first.displayOrder < second.displayOrder ∨
      (first.displayOrder = second.displayOrder ∧ first.priceMonthly ≤ second.priceMonthly)

/-- The configured trial plan, or the first published plan when the code is
empty or matches nothing. -/
def Store.getDefaultTrialPlan (settings : Settings) (store : Store) : Option Plan :=
  let configured :=
    if settings.defaultTrialPlanCode = "" then none
    else store.plans.rows.find? fun plan => plan.code = settings.defaultTrialPlanCode
  configured <|> store.listPublishedPlans.head?

theorem mem_listPublishedPlans {store : Store} {plan : Plan} :
    plan ∈ store.listPublishedPlans ↔ plan ∈ store.plans ∧ plan.status = .published := by
  simp [Store.listPublishedPlans, Table.mem_def]

theorem mem_of_getDefaultTrialPlan {settings : Settings} {store : Store} {plan : Plan}
    (chosen : store.getDefaultTrialPlan settings = some plan) : plan ∈ store.plans := by
  unfold Store.getDefaultTrialPlan at chosen
  rw [Option.orElse_eq_orElse, Option.orElse_eq_or] at chosen
  rcases Option.or_eq_some_iff.mp chosen with configured | ⟨_, first⟩
  · split at configured
    · cases configured
    · exact List.mem_of_find?_eq_some configured
  · exact (mem_listPublishedPlans.mp (List.mem_of_head? first)).1

/-! ## Journal -/

/-- Append one event; the reason is cut to the 255 characters of its column. -/
def Store.recordEvent (store : Store) (subscription : Nat)
    (fromStatus : Option SubscriptionStatus) (toStatus : SubscriptionStatus)
    (fromPlan toPlan reason : String) (actor : Option Nat) : Store :=
  { store with
    events := store.events ++
      [{ subscription, fromStatus, toStatus, fromPlan, toPlan,
         reason := String.ofList (reason.toList.take 255), actor }] }

@[simp]
theorem recordEvent_subscriptions (store : Store) (subscription : Nat)
    (fromStatus : Option SubscriptionStatus) (toStatus : SubscriptionStatus)
    (fromPlan toPlan reason : String) (actor : Option Nat) :
    (store.recordEvent subscription fromStatus toStatus fromPlan toPlan reason actor).subscriptions =
      store.subscriptions := rfl

/-- The events of one subscription, the oldest first. -/
def Store.journalOf (store : Store) (subscription : Nat) : List SubscriptionEvent :=
  store.events.filter fun event => event.subscription = subscription

/-- Save the changed fields of one subscription. -/
def Store.saveSubscription (store : Store) (subscription : Nat)
    (change : Subscription → Subscription) (keeps : ∀ row, (change row).id = row.id) : Store :=
  { store with subscriptions := store.subscriptions.modify subscription change keeps }

end RssiService.Billing
