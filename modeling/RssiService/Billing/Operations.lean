import RssiService.Billing.Capacity
import RssiService.Foundation.Outcome

/-!
# The billing operations

Each operation runs in one transaction: it either returns the new store or
fails and leaves nothing behind.  Every operation loads its subscription or its
plan by key.
-/

namespace RssiService.Billing

open Foundation Python

/-- The row a request names, or the not-found answer. -/
def require {Row : Type} (found : Option Row) : Except Failure Row :=
  match found with
  | some row => .ok row
  | none => .error .notFound

theorem require_eq_ok {Row : Type} {found : Option Row} {row : Row} :
    require found = .ok row ↔ found = some row := by
  cases found <;> simp [require]

/-! ## Life cycle -/

/-- Open the trial of a tenant that has no subscription yet. -/
def Store.startTrial (settings : Settings) (now : Instant) (store : Store) (tenant : Nat)
    (plan : Option Nat) (actor : Option Nat) (days : Option Nat) : Except Failure Store :=
  if store.subscriptions.rows.any (fun subscription => subscription.tenant = tenant) then
    .error (.billing "Cette entreprise a déjà un abonnement.")
  else do
    let requested ←
      (match plan with
        | some key => (require (store.plans.find? key)).map some
        | none => .ok (store.getDefaultTrialPlan settings))
    match requested with
    | none => .error (.billing "Aucune offre disponible pour démarrer un essai.")
    | some plan => do
        store.ensureMonitoredSlotsAvailable settings plan.monitoredAssets none
        let days := days.getD settings.trialDays
        let opened : Store := { store with
          subscriptions := store.subscriptions.create (fun key =>
            { id := key, tenant, plan := plan.id, status := .trial, period := .monthly
              startedAt := now, trialEndsAt := some (now.addDays days)
              renewsAt := none, endsAt := none
              overrideMonitoredAssets := none, overrideMonthlyScans := none
              overrideMaxUsers := none, overrideFeatures := none })
            (fun _ => rfl) }
        .ok (opened.recordEvent store.subscriptions.next none .trial "" plan.name
          s!"Essai de {days} jours ouvert à la création de l'entreprise." actor)

/-- Put a subscription in the active state.  Only a subscription that counts
for nothing today goes through the capacity guard. -/
def Store.activate (settings : Settings) (now : Instant) (store : Store) (key : Nat)
    (period : Option Period) (actor : Option Nat) (reason : String) : Except Failure Store := do
  let subscription ← require (store.subscriptions.find? key)
  if subscription.status = .active then
    .ok store
  else
    (if subscription.isOperational then .ok ()
      else store.ensureMonitoredSlotsAvailable settings (store.monitoredAssetsQuota subscription)
        (some subscription.id))
    let chosen := period.getD subscription.period
    let delta := match chosen with
      | .yearly => 365
      | .monthly => 30
    let saved := store.saveSubscription key (fun row =>
      { row with
        status := .active, period := chosen, renewsAt := some (now.addDays delta), endsAt := none })
      (fun _ => rfl)
    .ok (saved.recordEvent key (some subscription.status) .active "" ""
      (textOr reason "Abonnement activé.") actor)

def Store.suspend (store : Store) (key : Nat) (actor : Option Nat) (reason : String) :
    Except Failure Store := do
  let subscription ← require (store.subscriptions.find? key)
  let saved := store.saveSubscription key (fun row => { row with status := .suspended })
    (fun _ => rfl)
  .ok (saved.recordEvent key (some subscription.status) .suspended "" ""
    (textOr reason "Abonnement suspendu.") actor)

def Store.cancel (now : Instant) (store : Store) (key : Nat) (actor : Option Nat)
    (reason : String) : Except Failure Store := do
  let subscription ← require (store.subscriptions.find? key)
  let saved := store.saveSubscription key
    (fun row => { row with status := .cancelled, endsAt := some now }) (fun _ => rfl)
  .ok (saved.recordEvent key (some subscription.status) .cancelled "" ""
    (textOr reason "Abonnement résilié.") actor)

/-- Move a subscription to another plan.  The negotiated overrides belonged to
the former plan and are dropped. -/
def Store.changePlan (settings : Settings) (store : Store) (key plan : Nat)
    (actor : Option Nat) (reason : String) : Except Failure Store := do
  let subscription ← require (store.subscriptions.find? key)
  let target ← require (store.plans.find? plan)
  if target.id = subscription.plan then
    .ok store
  else
    let previous ← require (store.plans.find? subscription.plan)
    (if subscription.isOperational ∧ store.monitoredAssetsQuota subscription < target.monitoredAssets
      then store.ensureMonitoredSlotsAvailable settings target.monitoredAssets (some subscription.id)
      else .ok ())
    let saved := store.saveSubscription key (fun row =>
      { row with
        plan := target.id
        overrideMonitoredAssets := none, overrideMonthlyScans := none
        overrideMaxUsers := none, overrideFeatures := none }) (fun _ => rfl)
    .ok (saved.recordEvent key (some subscription.status) subscription.status previous.name
      target.name (textOr reason s!"Changement d'offre : {previous.name} vers {target.name}.") actor)

/-- One turn of the expiry loop. -/
def Store.expireTrial (now : Instant) (store : Store) (key : Nat) : Store :=
  (store.saveSubscription key (fun row => { row with status := .expired, endsAt := some now })
    (fun _ => rfl)).recordEvent key (some .trial) .expired "" "" "Fin de la période d'essai." none

def Subscription.trialDue (now : Instant) (subscription : Subscription) : Bool :=
  subscription.status = .trial && subscription.trialEndsAt.any (fun ends => ends ≤ now)

/-- Expire every trial that is due; the count is the number of rows expired. -/
def Store.expireDueTrials (now : Instant) (store : Store) : Store × Nat :=
  let due := store.subscriptions.rows.filter (Subscription.trialDue now)
  ((due.map Subscription.id).foldl (Store.expireTrial now) store, due.length)

/-! ## Trial ends -/

/-- `%d/%m/%Y`, of the day in the time zone of the database. -/
def Instant.dayText (instant : Instant) : String :=
  let ordinal := instant / microsecondsPerDay + epochOrdinal
  dayMonth ordinal ++ "/" ++ toString (monthOf ordinal / 12 + 1)

/-- An end of trial as a request gives it: the instant, and its day in the time zone of the
request. -/
structure TrialEnd where
  instant : Instant
  day : String
  deriving DecidableEq, Repr

inductive TrialEndFailure where
  | billing (message : String)
  /-- No day is written for an end that is not given. -/
  | typeError
  | notFound
  deriving DecidableEq, Repr

/-- What the journal says of a new end. -/
def trialEndReason (endsAt : Option TrialEnd) (previous : Option Instant) (reason : String) :
    Except TrialEndFailure String :=
  if reason ≠ "" then .ok reason
  else
    match endsAt with
    | none => .error .typeError
    | some ends =>
        let movedFrom := match previous with
          | some instant => s!" (auparavant {instant.dayText})"
          | none => ""
        .ok s!"Échéance d'essai portée au {ends.day}{movedFrom}."

/-- Move the end of a trial. -/
def Store.setTrialEnd (store : Store) (key : Nat) (endsAt : Option TrialEnd) (actor : Option Nat)
    (reason : String) : Except TrialEndFailure Store :=
  match store.subscriptions.find? key with
  | none => .error .notFound
  | some subscription =>
      if subscription.status ≠ .trial then
        .error (.billing "Seul un abonnement en période d'essai a une échéance d'essai.")
      else do
        let reason ← trialEndReason endsAt subscription.trialEndsAt reason
        let saved := store.saveSubscription key
          (fun row => { row with trialEndsAt := endsAt.map TrialEnd.instant }) (fun _ => rfl)
        .ok (saved.recordEvent key (some subscription.status) subscription.status "" "" reason
          actor)

/-! ## Negotiated quotas -/

/-- The overrides of a request.  A field left out is `none`; `some none` gives
the quota of the plan back. -/
structure QuotaOverrides where
  monitoredAssets : Option (Option Nat)
  monthlyScans : Option (Option Nat)
  maxUsers : Option (Option Nat)
  features : Option (Option (List String))
  deriving DecidableEq, Repr

/-- The overrides that differ from the stored ones. -/
def QuotaOverrides.changed (overrides : QuotaOverrides) (subscription : Subscription) :
    QuotaOverrides where
  monitoredAssets := overrides.monitoredAssets.filter (· ≠ subscription.overrideMonitoredAssets)
  monthlyScans := overrides.monthlyScans.filter (· ≠ subscription.overrideMonthlyScans)
  maxUsers := overrides.maxUsers.filter (· ≠ subscription.overrideMaxUsers)
  features := overrides.features.filter (· ≠ subscription.overrideFeatures)

def QuotaOverrides.none : QuotaOverrides := ⟨.none, .none, .none, .none⟩

def QuotaOverrides.apply (overrides : QuotaOverrides) (row : Subscription) : Subscription :=
  { row with
    overrideMonitoredAssets := overrides.monitoredAssets.getD row.overrideMonitoredAssets
    overrideMonthlyScans := overrides.monthlyScans.getD row.overrideMonthlyScans
    overrideMaxUsers := overrides.maxUsers.getD row.overrideMaxUsers
    overrideFeatures := overrides.features.getD row.overrideFeatures }

/-- Apply negotiated quotas; a rise of an operational subscription goes through
the capacity guard. -/
def Store.setQuotaOverrides (settings : Settings) (store : Store) (key : Nat)
    (overrides : QuotaOverrides) (actor : Option Nat) : Except Failure Store := do
  let subscription ← require (store.subscriptions.find? key)
  let changed := overrides.changed subscription
  if changed = QuotaOverrides.none then
    .ok store
  else
    (match changed.monitoredAssets with
      | some quota =>
          let effective := quota.getD (store.planQuota Plan.monitoredAssets subscription)
          if subscription.isOperational ∧ store.monitoredAssetsQuota subscription < effective
            then store.ensureMonitoredSlotsAvailable settings effective (some subscription.id)
            else .ok ()
      | none => .ok ())
    .ok ((store.saveSubscription key changed.apply (fun _ => rfl)).recordEvent key
      (some subscription.status) subscription.status "" "" "Quotas négociés modifiés." actor)

/-! ## Plan edits -/

inductive QuotaField where
  | monitoredAssets
  | monthlyScans
  | maxUsers
  deriving DecidableEq, Repr

def quotaFields : List QuotaField := [.monitoredAssets, .monthlyScans, .maxUsers]

/-- The edited fields of a plan; a field left out is `none`. -/
structure PlanChanges where
  name : Option String := none
  tagline : Option String := none
  description : Option String := none
  priceMonthly : Option Nat := none
  priceYearly : Option Nat := none
  currency : Option String := none
  isQuoteOnly : Option Bool := none
  status : Option PlanStatus := none
  displayOrder : Option Nat := none
  isHighlighted : Option Bool := none
  monitoredAssets : Option Nat := none
  monthlyScans : Option Nat := none
  maxUsers : Option Nat := none
  features : Option (List String) := none
  deriving DecidableEq, Repr

def Plan.quota (plan : Plan) : QuotaField → Nat
  | .monitoredAssets => plan.monitoredAssets
  | .monthlyScans => plan.monthlyScans
  | .maxUsers => plan.maxUsers

def Subscription.override (subscription : Subscription) : QuotaField → Option Nat
  | .monitoredAssets => subscription.overrideMonitoredAssets
  | .monthlyScans => subscription.overrideMonthlyScans
  | .maxUsers => subscription.overrideMaxUsers

def PlanChanges.quota (changes : PlanChanges) : QuotaField → Option Nat
  | .monitoredAssets => changes.monitoredAssets
  | .monthlyScans => changes.monthlyScans
  | .maxUsers => changes.maxUsers

def PlanChanges.apply (changes : PlanChanges) (plan : Plan) : Plan :=
  { plan with
    name := changes.name.getD plan.name
    tagline := changes.tagline.getD plan.tagline
    description := changes.description.getD plan.description
    priceMonthly := changes.priceMonthly.getD plan.priceMonthly
    priceYearly := changes.priceYearly.getD plan.priceYearly
    currency := changes.currency.getD plan.currency
    isQuoteOnly := changes.isQuoteOnly.getD plan.isQuoteOnly
    status := changes.status.getD plan.status
    displayOrder := changes.displayOrder.getD plan.displayOrder
    isHighlighted := changes.isHighlighted.getD plan.isHighlighted
    monitoredAssets := changes.monitoredAssets.getD plan.monitoredAssets
    monthlyScans := changes.monthlyScans.getD plan.monthlyScans
    maxUsers := changes.maxUsers.getD plan.maxUsers
    features := changes.features.getD plan.features }

/-- Whether an edit lowers a quota.  Leaving the unlimited quota 0 for a finite
one lowers it, whatever the number. -/
def Plan.lowers (plan : Plan) (changes : PlanChanges) (field : QuotaField) : Bool :=
  match changes.quota field with
  | none => false
  | some value =>
      !(value ≥ plan.quota field && !(plan.quota field = 0 && value ≠ 0))

/-- What an edit would do to one quota of one subscriber. -/
structure AffectedQuota where
  field : QuotaField
  current : Nat
  after : Nat
  frozenByOverride : Bool
  deriving DecidableEq, Repr

structure TenantImpact where
  tenant : Nat
  status : SubscriptionStatus
  quotas : List AffectedQuota
  deriving DecidableEq, Repr

structure PlanImpact where
  subscriberCount : Nat
  loweredQuotas : List QuotaField
  willFreezeExisting : Bool
  tenants : List TenantImpact
  deriving DecidableEq, Repr

def affectedQuotas (plan : Plan) (changes : PlanChanges) (subscription : Subscription) :
    List AffectedQuota :=
  quotaFields.filterMap fun field =>
    (changes.quota field).map fun value =>
      let override := subscription.override field
      let current := override.getD (plan.quota field)
      { field, current
        after := if override.isSome then current else value
        frozenByOverride := override.isSome }

/-- The preview shown before a plan edit is confirmed. -/
def Store.planImpact (store : Store) (plan : Plan) (changes : PlanChanges) : PlanImpact :=
  let subscriptions := store.subscriptions.rows.filter fun row => row.plan = plan.id
  let lowered := quotaFields.filter (plan.lowers changes)
  { subscriberCount := subscriptions.length
    loweredQuotas := lowered
    willFreezeExisting := !lowered.isEmpty && !subscriptions.isEmpty
    tenants := subscriptions.map fun row =>
      { tenant := row.tenant, status := row.status, quotas := affectedQuotas plan changes row } }

def Subscription.setOverride (row : Subscription) (field : QuotaField) (value : Nat) :
    Subscription :=
  match field with
  | .monitoredAssets => { row with overrideMonitoredAssets := some value }
  | .monthlyScans => { row with overrideMonthlyScans := some value }
  | .maxUsers => { row with overrideMaxUsers := some value }

/-- Freeze one quota at its value in the plan, unless an override holds it already. -/
def Subscription.freezeField (plan : Plan) (row : Subscription) (field : QuotaField) :
    Subscription :=
  if (row.override field).isNone then row.setOverride field (plan.quota field) else row

/-- Freeze the lowered quotas that the subscription still took from the plan. -/
def Subscription.freeze (plan : Plan) (lowered : List QuotaField) (row : Subscription) :
    Subscription :=
  lowered.foldl (Subscription.freezeField plan) row

theorem freezeField_frame (plan : Plan) (row : Subscription) (field : QuotaField) :
    (row.freezeField plan field).id = row.id ∧ (row.freezeField plan field).plan = row.plan ∧
      (row.freezeField plan field).status = row.status := by
  unfold Subscription.freezeField
  split
  · cases field <;> exact ⟨rfl, rfl, rfl⟩
  · exact ⟨rfl, rfl, rfl⟩

/-- Freezing touches the overrides only. -/
theorem freeze_frame (plan : Plan) (lowered : List QuotaField) (row : Subscription) :
    (row.freeze plan lowered).id = row.id ∧ (row.freeze plan lowered).plan = row.plan ∧
      (row.freeze plan lowered).status = row.status := by
  induction lowered generalizing row with
  | nil => exact ⟨rfl, rfl, rfl⟩
  | cons field rest ih =>
      obtain ⟨id_eq, plan_eq, status_eq⟩ := ih (row.freezeField plan field)
      obtain ⟨first_id, first_plan, first_status⟩ := freezeField_frame plan row field
      exact ⟨id_eq.trans first_id, plan_eq.trans first_plan, status_eq.trans first_status⟩

theorem override_freezeField (plan : Plan) (row : Subscription) (frozen field : QuotaField) :
    (row.freezeField plan frozen).override field =
      if field = frozen then some ((row.override field).getD (plan.quota field))
      else row.override field := by
  unfold Subscription.freezeField
  cases held : row.override frozen with
  | some quota =>
      by_cases same : field = frozen
      · subst same
        simp [held]
      · simp [same]
  | none =>
      by_cases same : field = frozen
      · subst same
        cases field <;> simp_all [Subscription.setOverride, Subscription.override, Plan.quota]
      · cases frozen <;> cases field <;>
          simp_all [Subscription.setOverride, Subscription.override]

/-- A frozen quota is held at what the subscription had; the others do not move. -/
theorem override_freeze (plan : Plan) (lowered : List QuotaField) (row : Subscription)
    (field : QuotaField) :
    (row.freeze plan lowered).override field =
      if field ∈ lowered then some ((row.override field).getD (plan.quota field))
      else row.override field := by
  induction lowered generalizing row with
  | nil => rfl
  | cons frozen rest ih =>
      have tail := ih (row.freezeField plan frozen)
      rw [override_freezeField] at tail
      change ((row.freezeField plan frozen).freeze plan rest).override field = _
      rw [tail]
      by_cases same : field = frozen <;> by_cases later : field ∈ rest <;> simp [same, later]

/-- Edit a plan.  Lowered quotas are first frozen for the existing subscribers;
the tenants frozen are returned with the new store. -/
def Store.updatePlan (store : Store) (key : Nat) (changes : PlanChanges) :
    Except Failure (Store × List Nat) := do
  let plan ← require (store.plans.find? key)
  let impact := store.planImpact plan changes
  let subscriber (row : Subscription) : Bool := row.plan = plan.id
  let frozen :=
    if impact.willFreezeExisting then
      (store.subscriptions.rows.filter fun row =>
        subscriber row && impact.loweredQuotas.any (fun field => (row.override field).isNone)).map
          Subscription.tenant
    else []
  let subscriptions :=
    if impact.willFreezeExisting then
      store.subscriptions.updateWhere subscriber (Subscription.freeze plan impact.loweredQuotas)
        (fun row => (freeze_frame plan impact.loweredQuotas row).1)
    else store.subscriptions
  .ok ({ store with
    subscriptions
    plans := store.plans.modify key changes.apply (fun _ => rfl) }, frozen)

/-! ## Runs -/

inductive Operation where
  | startTrial (tenant : Nat) (plan : Option Nat) (actor : Option Nat) (days : Option Nat)
  | activate (subscription : Nat) (period : Option Period) (actor : Option Nat) (reason : String)
  | suspend (subscription : Nat) (actor : Option Nat) (reason : String)
  | cancel (subscription : Nat) (actor : Option Nat) (reason : String)
  | changePlan (subscription plan : Nat) (actor : Option Nat) (reason : String)
  | expireDueTrials
  | setQuotaOverrides (subscription : Nat) (overrides : QuotaOverrides) (actor : Option Nat)
  | updatePlan (plan : Nat) (changes : PlanChanges)

def Store.perform (settings : Settings) (now : Instant) (store : Store) :
    Operation → Except Failure Store
  | .startTrial tenant plan actor days => store.startTrial settings now tenant plan actor days
  | .activate key period actor reason => store.activate settings now key period actor reason
  | .suspend key actor reason => store.suspend key actor reason
  | .cancel key actor reason => store.cancel now key actor reason
  | .changePlan key plan actor reason => store.changePlan settings key plan actor reason
  | .expireDueTrials => .ok (store.expireDueTrials now).1
  | .setQuotaOverrides key overrides actor =>
      store.setQuotaOverrides settings key overrides actor
  | .updatePlan key changes => (store.updatePlan key changes).map Prod.fst

/-- One request at a given time; a failed transaction leaves the store as it was. -/
def Store.step (settings : Settings) (store : Store) (request : Instant × Operation) : Store :=
  match store.perform settings request.1 request.2 with
  | .ok next => next
  | .error _ => store

end RssiService.Billing
