import RssiService.Billing.Commitment
import RssiService.Billing.Entitlements

/-!
# The subscription of a client, from the console

A request may move the end of the trial, the notes, the negotiated quotas and
the period.  Each is written in a transaction of its own, and the administration
audit log is written last.
-/

namespace RssiService.PlatformAdmin

open Foundation Foundation.Outcome Python
open Billing (Subscription Period QuotaOverrides TrialEnd TrialEndFailure Instant)

/-! ## Requests -/

/-- A field of a body: left out, refused by its type, or given. -/
inductive Submitted (Value : Type) where
  | absent
  | malformed
  | given (value : Value)

/-- A field refused by its type, or by a check that says why. -/
inductive FieldError where
  | malformed (field : String)
  | refused (field message : String)
  deriving DecidableEq, Repr

/-- What the field of a body gives, where it passes its check. -/
def Submitted.read {Value Read : Type} (field : String) (check : Value → Except FieldError Read) :
    Submitted Value → Except FieldError (Option Read)
  | .absent => .ok none
  | .malformed => .error (.malformed field)
  | .given value => (check value).map some

/-- The body of a request on a subscription. -/
structure SubscriptionBody where
  trialEndsAt : Submitted (Option TrialEnd)
  period : Submitted Period
  internalNotes : Submitted String
  overrideMonitoredAssets : Submitted (Option Int)
  overrideMonthlyScans : Submitted (Option Int)
  overrideMaxUsers : Submitted (Option Int)
  overrideFeatures : Submitted (Option (List String))

/-- A body that passes its checks; a field left out is `none`. -/
structure SubscriptionUpdate where
  trialEndsAt : Option (Option TrialEnd)
  period : Option Period
  internalNotes : Option String
  overrides : QuotaOverrides
  deriving DecidableEq, Repr

/-- A whole number from 0 to the maximum, or nothing. -/
def checkQuota (field : String) (maximum : Nat) : Option Int → Except FieldError (Option Nat)
  | none => .ok none
  | some quota =>
      if 0 ≤ quota ∧ quota ≤ maximum then .ok (some quota.toNat) else .error (.malformed field)

def validateOverrideFeatures : Option (List String) → Except FieldError (Option (List String))
  | none => .ok none
  | some keys =>
      let keys := keys.map strip
      if keys.any (· = "") then .error (.malformed "override_features")
      else
        let unknown := keys.filter fun key => !(Billing.registry.map Billing.Feature.key).contains key
        if unknown = [] then .ok (some keys)
        else
          .error (.refused "override_features"
            ("Fonctionnalité(s) inconnue(s) : " ++ String.intercalate ", " unknown ++ "."))

def errorOf {Read : Type} : Except FieldError Read → List FieldError
  | .error error => [error]
  | .ok _ => []

def SubscriptionBody.validate (body : SubscriptionBody) :
    Except (List FieldError) SubscriptionUpdate :=
  let trialEndsAt := body.trialEndsAt.read "trial_ends_at" .ok
  let period := body.period.read "period" .ok
  let internalNotes := body.internalNotes.read "internal_notes" fun notes => .ok (strip notes)
  let monitoredAssets := body.overrideMonitoredAssets.read "override_monitored_assets"
    (checkQuota "override_monitored_assets" 10000)
  let monthlyScans := body.overrideMonthlyScans.read "override_monthly_scans"
    (checkQuota "override_monthly_scans" 1000000)
  let maxUsers := body.overrideMaxUsers.read "override_max_users"
    (checkQuota "override_max_users" 10000)
  let features := body.overrideFeatures.read "override_features" validateOverrideFeatures
  match trialEndsAt, period, internalNotes, monitoredAssets, monthlyScans, maxUsers, features with
  | .ok trialEndsAt, .ok period, .ok internalNotes, .ok monitoredAssets, .ok monthlyScans,
      .ok maxUsers, .ok features =>
      .ok { trialEndsAt, period, internalNotes
            overrides := ⟨monitoredAssets, monthlyScans, maxUsers, features⟩ }
  | _, _, _, _, _, _, _ =>
      .error (errorOf trialEndsAt ++ errorOf period ++ errorOf internalNotes ++
        errorOf monitoredAssets ++ errorOf monthlyScans ++ errorOf maxUsers ++ errorOf features)

/-! ## The audit log -/

/-- A field that changes, with its values before and after. -/
inductive FieldChange where
  | plan (before after : String)
  | status (before after : Billing.SubscriptionStatus)
  | period (before after : Period)
  | trialEndsAt (before after : Option Instant)
  | internalNotes (before after : String)
  | overrideMonitoredAssets (before after : Option Nat)
  | overrideMonthlyScans (before after : Option Nat)
  | overrideMaxUsers (before after : Option Nat)
  | overrideFeatures (before after : Option (List String))
  deriving DecidableEq, Repr

/-- `field.startswith("override_")`. -/
def FieldChange.isOverride : FieldChange → Bool
  | .overrideMonitoredAssets _ _ | .overrideMonthlyScans _ _ | .overrideMaxUsers _ _ |
    .overrideFeatures _ _ => true
  | .plan _ _ | .status _ _ | .period _ _ | .trialEndsAt _ _ | .internalNotes _ _ => false

structure SubscriptionSnapshot where
  plan : String
  status : Billing.SubscriptionStatus
  period : Period
  trialEndsAt : Option Instant
  internalNotes : String
  overrideMonitoredAssets : Option Nat
  overrideMonthlyScans : Option Nat
  overrideMaxUsers : Option Nat
  overrideFeatures : Option (List String)
  deriving DecidableEq, Repr

def changedField {Value : Type} [DecidableEq Value] (change : Value → Value → FieldChange)
    (before after : Value) : List FieldChange :=
  if before = after then [] else [change before after]

def diffFields (before after : SubscriptionSnapshot) : List FieldChange :=
  changedField .plan before.plan after.plan ++
    changedField .status before.status after.status ++
    changedField .period before.period after.period ++
    changedField .trialEndsAt before.trialEndsAt after.trialEndsAt ++
    changedField .internalNotes before.internalNotes after.internalNotes ++
    changedField .overrideMonitoredAssets before.overrideMonitoredAssets
      after.overrideMonitoredAssets ++
    changedField .overrideMonthlyScans before.overrideMonthlyScans after.overrideMonthlyScans ++
    changedField .overrideMaxUsers before.overrideMaxUsers after.overrideMaxUsers ++
    changedField .overrideFeatures before.overrideFeatures after.overrideFeatures

inductive AuditAction where
  | quotaOverridden
  | subscriptionUpdated
  deriving DecidableEq, Repr

structure AdminAuditLog where
  actor : Nat
  action : AuditAction
  tenant : Nat
  target : String
  changes : List FieldChange
  ipAddress : Option String
  deriving DecidableEq, Repr

/-! ## The desk -/

/-- What the request reads and writes: the billing tables, the internal notes of each
subscription, the names of the tenants and the audit log. -/
structure SubscriptionDesk where
  billing : Billing.Store
  notes : Nat → String
  tenantName : Nat → Option String
  audit : List AdminAuditLog

/-- Who asks, and from where. -/
structure Caller where
  actor : Nat
  clientIp : String

inductive PatchOutcome where
  | tenantNotFound
  | noSubscription
  | invalid (errors : List FieldError)
  | refusedTrialEnd (failure : TrialEndFailure)
  | refusedOverrides (failure : Billing.Failure)
  /-- The row of the audit log could not be written. -/
  | auditRaised
  | updated

namespace SubscriptionDesk

def snapshot (desk : SubscriptionDesk) (subscription : Subscription) : SubscriptionSnapshot where
  plan := ((desk.billing.plans.find? subscription.plan).map fun plan => plan.code).getD ""
  status := subscription.status
  period := subscription.period
  trialEndsAt := subscription.trialEndsAt
  internalNotes := desk.notes subscription.id
  overrideMonitoredAssets := subscription.overrideMonitoredAssets
  overrideMonthlyScans := subscription.overrideMonthlyScans
  overrideMaxUsers := subscription.overrideMaxUsers
  overrideFeatures := subscription.overrideFeatures

def writeTrialEnd (desk : SubscriptionDesk) (key actor : Nat) :
    Option (Option TrialEnd) → Except TrialEndFailure SubscriptionDesk
  | none => .ok desk
  | some endsAt =>
      (desk.billing.setTrialEnd key endsAt (some actor) "").map fun billing => { desk with billing }

def setInternalNotes (desk : SubscriptionDesk) (key : Nat) : Option String → SubscriptionDesk
  | none => desk
  | some notes => { desk with notes := Function.update desk.notes key notes }

def writeOverrides (settings : Billing.Settings) (desk : SubscriptionDesk) (key actor : Nat)
    (overrides : QuotaOverrides) : Except Billing.Failure SubscriptionDesk :=
  if overrides = .none then .ok desk
  else
    (desk.billing.setQuotaOverrides settings key overrides (some actor)).map fun billing =>
      { desk with billing }

def writePeriod (desk : SubscriptionDesk) (subscription : Subscription) :
    Option Period → SubscriptionDesk
  | none => desk
  | some period =>
      if period = subscription.period then desk
      else
        { desk with
          billing := desk.billing.saveSubscription subscription.id
            (fun row => { row with period }) fun _ => rfl }

/-- The subscription as the database holds it. -/
def reload (desk : SubscriptionDesk) (subscription : Subscription) : Subscription :=
  (desk.billing.subscriptions.find? subscription.id).getD subscription

/-- The row of the audit log; `stores` tells the texts that the database takes for an
address. -/
def writeAudit (stores : String → Bool) (desk : SubscriptionDesk) (caller : Caller) (tenant : Nat)
    (name : String) (changes : List FieldChange) : SubscriptionDesk × PatchOutcome :=
  if changes = [] then (desk, .updated)
  else if caller.clientIp ≠ "" ∧ stores caller.clientIp = false then (desk, .auditRaised)
  else
    ({ desk with
        audit := desk.audit ++
          [{ actor := caller.actor
             action :=
              if changes.any FieldChange.isOverride then .quotaOverridden else .subscriptionUpdated
             tenant
             target := takeChars name 200
             changes
             ipAddress := if caller.clientIp = "" then none else some caller.clientIp }] },
      .updated)

/-- The writes of a request that passes its checks, one after the other. -/
def write (settings : Billing.Settings) (stores : String → Bool) (desk : SubscriptionDesk)
    (caller : Caller) (tenant : Nat) (name : String) (subscription : Subscription)
    (update : SubscriptionUpdate) : SubscriptionDesk × PatchOutcome :=
  match desk.writeTrialEnd subscription.id caller.actor update.trialEndsAt with
  | .error failure => (desk, .refusedTrialEnd failure)
  | .ok dated =>
      let noted := dated.setInternalNotes subscription.id update.internalNotes
      match noted.writeOverrides settings subscription.id caller.actor update.overrides with
      | .error failure => (noted, .refusedOverrides failure)
      | .ok negotiated =>
          let saved := negotiated.writePeriod subscription update.period
          saved.writeAudit stores caller tenant name
            (diffFields (desk.snapshot subscription) (saved.snapshot (saved.reload subscription)))

def patch (settings : Billing.Settings) (stores : String → Bool) (desk : SubscriptionDesk)
    (caller : Caller) (tenant : Nat) (body : SubscriptionBody) :
    SubscriptionDesk × PatchOutcome :=
  match desk.tenantName tenant with
  | none => (desk, .tenantNotFound)
  | some name =>
      match desk.billing.getSubscription tenant with
      | none => (desk, .noSubscription)
      | some subscription =>
          match body.validate with
          | .error errors => (desk, .invalid errors)
          | .ok update => desk.write settings stores caller tenant name subscription update

end SubscriptionDesk

/-! ## What a request comes to -/

/-- A request that does not go through leaves the subscriptions, their notes and their events as
they were, and what changes of the subscription of the client is in the audit log. -/
structure PatchSound (desk after : SubscriptionDesk) (outcome : PatchOutcome) (caller : Caller)
    (tenant : Nat) : Prop where
  refused : outcome ≠ .updated → after.billing = desk.billing ∧ after.notes = desk.notes
  recorded : ∀ subscription, desk.billing.getSubscription tenant = some subscription →
    (after.reload subscription = subscription ∧
        after.notes subscription.id = desk.notes subscription.id) ∨
      ∃ entry, after.audit = desk.audit ++ [entry] ∧ entry.actor = caller.actor ∧
        entry.tenant = tenant ∧ entry.changes ≠ [] ∧
        entry.changes = diffFields (desk.snapshot subscription)
          (after.snapshot (after.reload subscription))

/-- The subscription once the update is written. -/
def SubscriptionUpdate.apply (update : SubscriptionUpdate) (row : Subscription) : Subscription :=
  { update.overrides.apply row with
    trialEndsAt := (update.trialEndsAt.map fun ends => ends.map TrialEnd.instant).getD
      row.trialEndsAt
    period := update.period.getD row.period }

/-- The end of the trial is refused before anything is written. -/
def SubscriptionUpdate.TrialEndRefused (update : SubscriptionUpdate) (row : Subscription) : Prop :=
  ∃ endsAt, update.trialEndsAt = some endsAt ∧ (row.status ≠ .trial ∨ endsAt = none)

/-- A negotiated quota of monitored assets rises above the one in force, and the pool has no room
for it. -/
def PoolRefuses (settings : Billing.Settings) (store : Billing.Store) (row : Subscription)
    (overrides : QuotaOverrides) : Prop :=
  ∃ quota, (overrides.changed row).monitoredAssets = some quota ∧ row.isOperational = true ∧
    store.monitoredAssetsQuota row <
      quota.getD (store.planQuota Billing.Plan.monitoredAssets row) ∧
    ∃ failure, store.ensureMonitoredSlotsAvailable settings
      (quota.getD (store.planQuota Billing.Plan.monitoredAssets row)) (some row.id) =
        .error failure

def SubscriptionDesk.KeepsNotes (desk : SubscriptionDesk) (key : Nat)
    (update : SubscriptionUpdate) : Prop :=
  update.internalNotes.getD (desk.notes key) = desk.notes key

/-- The pool refuses no quota after something else is written, and what changes comes from an
address that the audit log can store. -/
def SubscriptionDesk.Undivided (settings : Billing.Settings) (stores : String → Bool)
    (desk : SubscriptionDesk) (caller : Caller) (tenant : Nat) (body : SubscriptionBody) : Prop :=
  ∀ name subscription update, desk.tenantName tenant = some name →
    desk.billing.getSubscription tenant = some subscription → body.validate = .ok update →
    update.TrialEndRefused subscription ∨
      (PoolRefuses settings desk.billing subscription update.overrides →
        update.trialEndsAt = none ∧ desk.KeepsNotes subscription.id update) ∧
      (¬ PoolRefuses settings desk.billing subscription update.overrides →
        caller.clientIp = "" ∨ stores caller.clientIp = true ∨
          (update.apply subscription = subscription ∧ desk.KeepsNotes subscription.id update))

/-! ## The writes -/

section Writes

variable {settings : Billing.Settings} {store next : Billing.Store} {row : Subscription}
  {key actor : Nat}

theorem found_of_getSubscription {tenant : Nat}
    (found : store.getSubscription tenant = some row) :
    store.subscriptions.find? row.id = some row :=
  Table.find?_eq_some_iff.mpr ⟨List.mem_of_find?_eq_some found, rfl⟩

/-- The store once the trial ends at another time. -/
def redatedStore (store : Billing.Store) (row : Subscription) (ends : Option Instant)
    (reason : String) (actor : Option Nat) : Billing.Store :=
  (store.saveSubscription row.id (fun row => { row with trialEndsAt := ends })
    fun _ => rfl).recordEvent row.id (some row.status) row.status "" "" reason actor

theorem setTrialEnd_cases (found : store.subscriptions.find? row.id = some row)
    (endsAt : Option TrialEnd) (actor : Option Nat) :
    (row.status ≠ .trial ∨ endsAt = none) ∧
        (∃ failure, store.setTrialEnd row.id endsAt actor "" = .error failure) ∨
      ∃ ends reason, row.status = .trial ∧ endsAt = some ends ∧
        store.setTrialEnd row.id endsAt actor "" =
          .ok (redatedStore store row (some ends.instant) reason actor) := by
  rw [Billing.Store.setTrialEnd, found]
  dsimp only
  by_cases trial : row.status = .trial
  · rw [if_neg (not_not.mpr trial)]
    cases endsAt with
    | none => exact Or.inl ⟨Or.inr rfl, _, rfl⟩
    | some ends => exact Or.inr ⟨ends, _, trial, rfl, rfl⟩
  · rw [if_pos trial]
    exact Or.inl ⟨Or.inl trial, _, rfl⟩

/-- Applying the overrides that differ is applying them all. -/
theorem apply_changed (overrides : QuotaOverrides) (row : Subscription) :
    (overrides.changed row).apply row = overrides.apply row := by
  have filtered {Value : Type} [DecidableEq Value] (given : Option Value) (old : Value) :
      (given.filter (· ≠ old)).getD old = given.getD old := by
    cases given with
    | none => rfl
    | some value =>
        by_cases same : value = old
        · simp [Option.filter, same]
        · simp [Option.filter, same]
  simp only [QuotaOverrides.apply, QuotaOverrides.changed, filtered]

theorem apply_none (row : Subscription) : QuotaOverrides.none.apply row = row := rfl

theorem find?_saved (found : store.subscriptions.find? row.id = some row)
    (change : Subscription → Subscription) (keeps : ∀ row, (change row).id = row.id) :
    (store.saveSubscription row.id change keeps).subscriptions.find? row.id =
      some (change row) := by
  change (store.subscriptions.modify row.id change keeps).find? row.id = _
  rw [Table.find?_modify_self, found, Option.map_some]

theorem setQuotaOverrides_cases (found : store.subscriptions.find? row.id = some row)
    (overrides : QuotaOverrides) (actor : Option Nat) :
    PoolRefuses settings store row overrides ∧
        (∃ failure, store.setQuotaOverrides settings row.id overrides actor = .error failure) ∨
      ¬ PoolRefuses settings store row overrides ∧
        ∃ next, store.setQuotaOverrides settings row.id overrides actor = .ok next ∧
          next.subscriptions.find? row.id = some (overrides.apply row) ∧
          next.plans = store.plans := by
  have known : Billing.require (store.subscriptions.find? row.id) = .ok row := by
    rw [found, Billing.require]
  rw [Billing.Store.setQuotaOverrides, known]
  simp only [bind, Except.bind]
  have applied := apply_changed overrides row
  have saved := find?_saved found (overrides.changed row).apply fun _ => rfl
  rw [applied] at saved
  by_cases unchanged : overrides.changed row = .none
  · rw [if_pos unchanged]
    refine Or.inr ⟨?_, store, rfl, ?_, rfl⟩
    · rintro ⟨quota, given, _⟩
      rw [unchanged] at given
      cases given
    · rw [← applied, unchanged, apply_none, found]
  · rw [if_neg unchanged]
    cases given : (overrides.changed row).monitoredAssets with
    | none =>
        refine Or.inr ⟨?_, _, rfl, saved, rfl⟩
        rintro ⟨quota, some_quota, _⟩
        cases given.symm.trans some_quota
    | some quota =>
        dsimp only
        by_cases rises : row.isOperational = true ∧ store.monitoredAssetsQuota row <
            quota.getD (store.planQuota Billing.Plan.monitoredAssets row)
        · rw [if_pos rises]
          cases guard : store.ensureMonitoredSlotsAvailable settings
              (quota.getD (store.planQuota Billing.Plan.monitoredAssets row)) (some row.id) with
          | error failure =>
              exact Or.inl ⟨⟨quota, given, rises.1, rises.2, failure, guard⟩, failure, rfl⟩
          | ok _ =>
              refine Or.inr ⟨?_, _, rfl, saved, rfl⟩
              rintro ⟨other, same, _, _, failure, refused⟩
              obtain rfl := Option.some.inj (given.symm.trans same)
              cases guard.symm.trans refused
        · rw [if_neg rises]
          refine Or.inr ⟨?_, _, rfl, saved, rfl⟩
          rintro ⟨other, same, operational, above, _⟩
          obtain rfl := Option.some.inj (given.symm.trans same)
          exact rises ⟨operational, above⟩

/-- A save that leaves the status and the quota of a subscription leaves the commitment. -/
theorem projected_saveSubscription {change : Subscription → Subscription}
    {keeps : ∀ row, (change row).id = row.id}
    (operational : ∀ row, (change row).isOperational = row.isOperational)
    (quota : ∀ row, store.monitoredAssetsQuota (change row) = store.monitoredAssetsQuota row)
    (additional : Nat) (excluded : Option Nat) :
    (store.saveSubscription key change keeps).projectedMonitoredSlots additional excluded =
      store.projectedMonitoredSlots additional excluded := by
  let written (row : Subscription) := if ident row == key then change row else row
  have rows : (store.saveSubscription key change keeps).subscriptions.rows =
      store.subscriptions.rows.map written := rfl
  have same_quota (row : Subscription) :
      (store.saveSubscription key change keeps).monitoredAssetsQuota (written row) =
        store.monitoredAssetsQuota row := by
    change store.monitoredAssetsQuota (written row) = _
    dsimp only [written]
    split
    · exact quota row
    · rfl
  have same_counted (row : Subscription) :
      ((written row).isOperational && !(excluded == some (written row).id)) =
        (row.isOperational && !(excluded == some row.id)) := by
    dsimp only [written]
    split
    · rw [operational, keeps]
    · rfl
  rw [Billing.Store.projectedMonitoredSlots, Billing.Store.projectedMonitoredSlots, rows,
    List.filter_map, List.map_map]
  simp only [Function.comp_def, same_quota, same_counted]

/-- The guard does not look at the end of the trial. -/
theorem guarded_redated {ends : Option Instant} {overrides : QuotaOverrides} {reason : String}
    {actor : Option Nat} :
    PoolRefuses settings (redatedStore store row ends reason actor) { row with trialEndsAt := ends }
        overrides ↔
      PoolRefuses settings store row overrides := by
  have projected (additional : Nat) (excluded : Option Nat) :
      (redatedStore store row ends reason actor).projectedMonitoredSlots additional excluded =
        store.projectedMonitoredSlots additional excluded := by
    change (store.saveSubscription row.id (fun row => { row with trialEndsAt := ends })
      fun _ => rfl).projectedMonitoredSlots additional excluded = _
    refine projected_saveSubscription ?_ ?_ additional excluded
    · exact fun _ => rfl
    · exact fun _ => rfl
  have guard (additional : Nat) (excluded : Option Nat) :
      (redatedStore store row ends reason actor).ensureMonitoredSlotsAvailable settings additional
          excluded =
        store.ensureMonitoredSlotsAvailable settings additional excluded := by
    rw [Billing.Store.ensureMonitoredSlotsAvailable, Billing.Store.ensureMonitoredSlotsAvailable,
      projected]
  refine exists_congr fun quota => ?_
  rw [guard]
  exact Iff.rfl

end Writes

/-! ## The request -/

section Desk

variable {settings : Billing.Settings} {stores : String → Bool} {desk : SubscriptionDesk}
  {row written : Subscription} {caller : Caller} {tenant actor : Nat}

theorem diffFields_eq_nil {before after : SubscriptionSnapshot} :
    diffFields before after = [] ↔ before = after := by
  have each {Value : Type} [DecidableEq Value] {change : Value → Value → FieldChange}
      {old new : Value} : changedField change old new = [] ↔ old = new := by
    rw [changedField]
    split <;> simp_all
  cases before
  cases after
  simp only [diffFields, List.append_eq_nil_iff, each, SubscriptionSnapshot.mk.injEq, and_assoc]

/-- A later desk whose subscription is as given, and whose plans and audit log are the same. -/
structure Wrote (desk after : SubscriptionDesk) (row written : Subscription) : Prop where
  found : after.billing.subscriptions.find? row.id = some written
  plans : after.billing.plans = desk.billing.plans
  audit : after.audit = desk.audit

theorem writeOverrides_cases {after : SubscriptionDesk}
    (found : after.billing.subscriptions.find? row.id = some row) (settings : Billing.Settings)
    (actor : Nat) (overrides : QuotaOverrides) :
    PoolRefuses settings after.billing row overrides ∧
        (∃ failure, after.writeOverrides settings row.id actor overrides = .error failure) ∨
      ¬ PoolRefuses settings after.billing row overrides ∧
        ∃ negotiated, after.writeOverrides settings row.id actor overrides = .ok negotiated ∧
          Wrote after negotiated row (overrides.apply row) ∧ negotiated.notes = after.notes := by
  by_cases nothing : overrides = .none
  · subst nothing
    refine Or.inr ⟨?_, after, if_pos rfl, ⟨found, rfl, rfl⟩, rfl⟩
    rintro ⟨quota, given, _⟩
    cases given
  · rw [SubscriptionDesk.writeOverrides, if_neg nothing]
    rcases setQuotaOverrides_cases found overrides (some actor) with
      ⟨guarded, failure, refused⟩ | ⟨free, next, accepted, saved, plans⟩
    · exact Or.inl ⟨guarded, failure, by rw [refused]; rfl⟩
    · exact Or.inr ⟨free, { after with billing := next }, by rw [accepted]; rfl,
        ⟨saved, plans, rfl⟩, rfl⟩

theorem wrote_writePeriod (found : desk.billing.subscriptions.find? row.id = some written)
    (same : written.period = row.period) (period : Option Period) :
    Wrote desk (desk.writePeriod row period) row
        { written with period := period.getD row.period } ∧
      (desk.writePeriod row period).notes = desk.notes := by
  cases period with
  | none =>
      refine ⟨⟨?_, rfl, rfl⟩, rfl⟩
      rw [Option.getD_none, ← same]
      exact found
  | some period =>
      rw [SubscriptionDesk.writePeriod]
      split
      · rename_i kept
        refine ⟨⟨?_, rfl, rfl⟩, rfl⟩
        rw [Option.getD_some, kept, ← same]
        exact found
      · refine ⟨⟨?_, rfl, rfl⟩, rfl⟩
        refine (Table.find?_modify_self desk.billing.subscriptions row.id
          (fun row => { row with period }) fun _ => rfl).trans ?_
        rw [found]
        rfl

/-- The subscription with the end of trial that an update gives. -/
def SubscriptionUpdate.redated (update : SubscriptionUpdate) (row : Subscription) :
    Subscription :=
  { row with
    trialEndsAt := (update.trialEndsAt.map fun ends => ends.map TrialEnd.instant).getD
      row.trialEndsAt }

/-- A new end of trial is refused, or is written with an event. -/
theorem writeTrialEnd_cases (found : desk.billing.subscriptions.find? row.id = some row)
    (settings : Billing.Settings) (actor : Nat) (update : SubscriptionUpdate) :
    update.TrialEndRefused row ∧
        (∃ failure, desk.writeTrialEnd row.id actor update.trialEndsAt = .error failure) ∨
      ¬ update.TrialEndRefused row ∧
        ∃ dated, desk.writeTrialEnd row.id actor update.trialEndsAt = .ok dated ∧
          Wrote desk dated row (update.redated row) ∧ dated.notes = desk.notes ∧
          (PoolRefuses settings dated.billing (update.redated row) update.overrides ↔
            PoolRefuses settings desk.billing row update.overrides) ∧
          (dated.billing = desk.billing ↔ update.trialEndsAt = none) := by
  rw [SubscriptionUpdate.redated, SubscriptionUpdate.TrialEndRefused]
  cases update.trialEndsAt with
  | none =>
      refine Or.inr ⟨?_, desk, rfl, ⟨found, rfl, rfl⟩, rfl, Iff.rfl, iff_of_true rfl rfl⟩
      rintro ⟨_, absent, _⟩
      cases absent
  | some endsAt =>
      rcases setTrialEnd_cases found endsAt (some actor) with
        ⟨why, failure, refused⟩ | ⟨ends, reason, trial, rfl, accepted⟩
      · refine Or.inl ⟨⟨endsAt, rfl, why⟩, failure, ?_⟩
        rw [SubscriptionDesk.writeTrialEnd, refused]
        rfl
      · let billing := redatedStore desk.billing row (some ends.instant) reason (some actor)
        have dated : desk.writeTrialEnd row.id actor (some (some ends)) =
            .ok { desk with billing } := by
          rw [SubscriptionDesk.writeTrialEnd, accepted]
          rfl
        refine Or.inr ⟨?_, { desk with billing }, dated, ⟨?_, rfl, rfl⟩, rfl, guarded_redated, ?_⟩
        · rintro ⟨_, same, why⟩
          cases same
          exact why.elim (fun other => other trial) (fun absent => by cases absent)
        · exact find?_saved found (fun row => { row with trialEndsAt := some ends.instant })
            fun _ => rfl
        · refine iff_of_false (fun same => ?_) (by simp)
          have longer := congrArg (fun store => store.events.length) same
          change (desk.billing.events ++ [_]).length = desk.billing.events.length at longer
          rw [List.length_append, List.length_singleton] at longer
          omega

theorem notes_setInternalNotes (desk : SubscriptionDesk) (key : Nat) (notes : Option String) :
    (desk.setInternalNotes key notes).notes =
      Function.update desk.notes key (notes.getD (desk.notes key)) := by
  cases notes with
  | none => exact (Function.update_eq_self key desk.notes).symm
  | some notes => rfl

theorem billing_setInternalNotes (desk : SubscriptionDesk) (key : Nat) (notes : Option String) :
    (desk.setInternalNotes key notes).billing = desk.billing := by
  cases notes <;> rfl

theorem audit_setInternalNotes (desk : SubscriptionDesk) (key : Nat) (notes : Option String) :
    (desk.setInternalNotes key notes).audit = desk.audit := by
  cases notes <;> rfl

theorem keepsNotes_iff {key : Nat} {update : SubscriptionUpdate} :
    desk.KeepsNotes key update ↔
      Function.update desk.notes key (update.internalNotes.getD (desk.notes key)) = desk.notes := by
  rw [SubscriptionDesk.KeepsNotes, Function.update_eq_self_iff]

theorem reload_of_found (found : desk.billing.subscriptions.find? row.id = some written) :
    desk.reload row = written := by
  rw [SubscriptionDesk.reload, found, Option.getD_some]

/-- A desk with the same tables and notes is sound, whatever the outcome. -/
theorem patchSound_of_unchanged {after : SubscriptionDesk} {outcome : PatchOutcome}
    (billing : after.billing = desk.billing) (notes : after.notes = desk.notes) :
    PatchSound desk after outcome caller tenant where
  refused _ := ⟨billing, notes⟩
  recorded subscription found := by
    refine Or.inl ⟨?_, congrFun notes _⟩
    rw [SubscriptionDesk.reload, billing, found_of_getSubscription found, Option.getD_some]

theorem patchSound_refusedOverrides_iff {after : SubscriptionDesk} {failure : Billing.Failure}
    {update : SubscriptionUpdate}
    (billing : after.billing = desk.billing ↔ update.trialEndsAt = none)
    (notes : after.notes =
      Function.update desk.notes row.id (update.internalNotes.getD (desk.notes row.id))) :
    PatchSound desk after (.refusedOverrides failure) caller tenant ↔
      update.trialEndsAt = none ∧ desk.KeepsNotes row.id update := by
  rw [keepsNotes_iff, ← notes, ← billing]
  constructor
  · intro sound
    exact sound.refused nofun
  · rintro ⟨same, kept⟩
    exact patchSound_of_unchanged same kept

/-- The changes are none exactly where the subscription and its notes are as they were. -/
theorem changes_eq_nil_iff {after : SubscriptionDesk} (row : Subscription)
    (update : SubscriptionUpdate) (plans : after.billing.plans = desk.billing.plans) :
    diffFields (desk.snapshot row) (after.snapshot (update.apply row)) = [] ↔
      update.apply row = row ∧ after.notes row.id = desk.notes row.id := by
  have key : (update.apply row).id = row.id := rfl
  rw [diffFields_eq_nil]
  simp only [SubscriptionDesk.snapshot, SubscriptionSnapshot.mk.injEq, plans, key]
  constructor
  · rintro ⟨_, _, period, ends, notes, assets, scans, users, features⟩
    refine ⟨?_, notes.symm⟩
    rw [SubscriptionUpdate.apply, QuotaOverrides.apply, Subscription.mk.injEq]
    exact ⟨rfl, rfl, rfl, rfl, period.symm, rfl, ends.symm, rfl, rfl, assets.symm, scans.symm,
      users.symm, rfl, rfl, features.symm⟩
  · rintro ⟨same, notes⟩
    rw [same]
    exact ⟨rfl, rfl, rfl, rfl, notes.symm, rfl, rfl, rfl, rfl⟩

theorem patchSound_writeAudit_iff {after : SubscriptionDesk} {update : SubscriptionUpdate}
    (found : desk.billing.getSubscription tenant = some row)
    (wrote : Wrote desk after row (update.apply row)) (name : String) :
    PatchSound desk
        (after.writeAudit stores caller tenant name
          (diffFields (desk.snapshot row) (after.snapshot (after.reload row)))).1
        (after.writeAudit stores caller tenant name
          (diffFields (desk.snapshot row) (after.snapshot (after.reload row)))).2 caller tenant ↔
      caller.clientIp = "" ∨ stores caller.clientIp = true ∨
        (update.apply row = row ∧ after.notes row.id = desk.notes row.id) := by
  have reloaded := reload_of_found wrote.found
  have idle := changes_eq_nil_iff row update wrote.plans
  rw [SubscriptionDesk.writeAudit, reloaded]
  by_cases unchanged :
      diffFields (desk.snapshot row) (after.snapshot (update.apply row)) = []
  · rw [if_pos unchanged]
    have same := idle.mp unchanged
    refine iff_of_true ⟨fun refused => absurd rfl refused, ?_⟩ (Or.inr (Or.inr same))
    intro subscription other
    cases found.symm.trans other
    exact Or.inl ⟨reloaded.trans same.1, same.2⟩
  · rw [if_neg unchanged]
    by_cases refused : caller.clientIp ≠ "" ∧ stores caller.clientIp = false
    · rw [if_pos refused]
      refine iff_of_false ?_ ?_
      · intro sound
        obtain ⟨billing, notes⟩ := sound.refused nofun
        refine unchanged (idle.mpr ⟨?_, congrFun notes _⟩)
        rw [← reloaded, SubscriptionDesk.reload, billing, found_of_getSubscription found,
          Option.getD_some]
      · rintro (empty | stored | same)
        · exact refused.1 empty
        · rw [refused.2] at stored
          cases stored
        · exact unchanged (idle.mpr same)
    · rw [if_neg refused]
      refine iff_of_true ⟨fun fails => absurd rfl fails, ?_⟩ ?_
      · intro subscription other
        cases found.symm.trans other
        refine Or.inr ⟨_, congrArg (· ++ _) wrote.audit, rfl, rfl, unchanged, ?_⟩
        change _ = diffFields (desk.snapshot row) (after.snapshot (after.reload row))
        rw [reloaded]
      · by_cases empty : caller.clientIp = ""
        · exact Or.inl empty
        · refine Or.inr (Or.inl ?_)
          by_contra unstored
          exact refused ⟨empty, by simpa using unstored⟩

/-- The writes of an update are sound exactly when it is not refused halfway, and can be
logged. -/
theorem patchSound_write_iff (found : desk.billing.getSubscription tenant = some row)
    (name : String) (update : SubscriptionUpdate) :
    PatchSound desk (desk.write settings stores caller tenant name row update).1
        (desk.write settings stores caller tenant name row update).2 caller tenant ↔
      update.TrialEndRefused row ∨
        (PoolRefuses settings desk.billing row update.overrides →
          update.trialEndsAt = none ∧ desk.KeepsNotes row.id update) ∧
        (¬ PoolRefuses settings desk.billing row update.overrides →
          caller.clientIp = "" ∨ stores caller.clientIp = true ∨
            (update.apply row = row ∧ desk.KeepsNotes row.id update)) := by
  have held := found_of_getSubscription found
  rw [SubscriptionDesk.write]
  rcases writeTrialEnd_cases held settings caller.actor update with
    ⟨refused, failure, stopped⟩ | ⟨accepted, dated, dates, wrote, notes, guards, moved⟩
  · rw [stopped]
    exact iff_of_true (patchSound_of_unchanged rfl rfl) (Or.inl refused)
  rw [dates, or_iff_right accepted, ← guards]
  have notedNotes := notes_setInternalNotes dated row.id update.internalNotes
  have notedBilling := billing_setInternalNotes dated row.id update.internalNotes
  have notedAudit := audit_setInternalNotes dated row.id update.internalNotes
  rw [notes] at notedNotes
  rw [← notedBilling] at guards moved ⊢
  have notedFound := wrote.found
  have plans := wrote.plans
  rw [← notedBilling] at notedFound plans
  have key : (update.redated row).id = row.id := rfl
  dsimp only
  generalize dated.setInternalNotes row.id update.internalNotes = noted at *
  rw [← key] at notedFound
  rcases writeOverrides_cases notedFound settings caller.actor update.overrides with
    ⟨guarded, failure, refused⟩ | ⟨free, negotiated, negotiates, negotiatedAs, kept⟩
  · rw [key] at refused
    rw [refused]
    refine (patchSound_refusedOverrides_iff moved notedNotes).trans ?_
    exact ⟨fun whole => ⟨fun _ => whole, fun free => absurd guarded free⟩,
      fun both => both.1 guarded⟩
  · rw [key] at negotiates
    rw [negotiates]
    dsimp only
    have unchangedPeriod : (update.overrides.apply (update.redated row)).period = row.period := rfl
    have periodic := wrote_writePeriod (key ▸ negotiatedAs.found) unchangedPeriod update.period
    have saved : Wrote desk (negotiated.writePeriod row update.period) row (update.apply row) :=
      ⟨periodic.1.found, periodic.1.plans.trans (negotiatedAs.plans.trans plans),
        periodic.1.audit.trans (negotiatedAs.audit.trans (notedAudit.trans wrote.audit))⟩
    refine (patchSound_writeAudit_iff found saved name).trans ?_
    have savedNotes : (negotiated.writePeriod row update.period).notes row.id =
        update.internalNotes.getD (desk.notes row.id) := by
      rw [periodic.2, kept, notedNotes, Function.update_self]
    rw [savedNotes, SubscriptionDesk.KeepsNotes]
    exact ⟨fun loggable => ⟨fun guarded => absurd guarded free, fun _ => loggable⟩,
      fun both => both.2 free⟩

end Desk

/-- For every body and state, a request on a subscription that does not go through leaves it and
its events alone, and what it changes is in the audit log, exactly when no quotas are refused after
something else was written and what changes comes from an address that the log can store. -/
theorem patchSound_iff (settings : Billing.Settings) (stores : String → Bool)
    (desk : SubscriptionDesk) (caller : Caller) (tenant : Nat) (body : SubscriptionBody) :
    PatchSound desk (desk.patch settings stores caller tenant body).1
        (desk.patch settings stores caller tenant body).2 caller tenant ↔
      desk.Undivided settings stores caller tenant body := by
  rw [SubscriptionDesk.patch, SubscriptionDesk.Undivided]
  cases named : desk.tenantName tenant with
  | none => exact iff_of_true (patchSound_of_unchanged rfl rfl) (by rintro _ _ _ ⟨⟩)
  | some name =>
      cases found : desk.billing.getSubscription tenant with
      | none => exact iff_of_true (patchSound_of_unchanged rfl rfl) (by rintro _ _ _ _ ⟨⟩)
      | some row =>
          cases validated : body.validate with
          | error errors => exact iff_of_true (patchSound_of_unchanged rfl rfl) (by simp)
          | ok update =>
              refine (patchSound_write_iff found name update).trans ?_
              constructor
              · rintro sound _ _ _ _ ⟨⟩ ⟨⟩
                exact sound
              · intro undivided
                exact undivided name row update rfl rfl rfl

/-- A trial of an offer with one monitored asset, on a pool of two. -/
def trialDesk : SubscriptionDesk where
  billing :=
    { Billing.soloCatalogue with
      subscriptions :=
        ⟨[⟨0, 1, 0, .trial, .monthly, 0, some 50000, none, none, none, none, none, none, none,
          none⟩], 1, by decide, by decide⟩ }
  notes _ := ""
  tenantName _ := some "Acme"
  audit := []

/-- The trial is extended, and three monitored assets are negotiated. -/
def extendedAndRaised : SubscriptionBody where
  trialEndsAt := .given (some ⟨90000, "02/01/1970"⟩)
  period := .absent
  internalNotes := .absent
  overrideMonitoredAssets := .given (some 3)
  overrideMonthlyScans := .absent
  overrideMaxUsers := .absent
  overrideFeatures := .absent

/-- The request is refused for capacity; the trial is extended all the same, with an event and no
row in the audit log. -/
theorem refused_patch_extends_the_trial :
    ¬ PatchSound trialDesk
      (trialDesk.patch Billing.soloSettings (fun _ => true) ⟨7, "192.0.2.1"⟩ 1 extendedAndRaised).1
      (trialDesk.patch Billing.soloSettings (fun _ => true) ⟨7, "192.0.2.1"⟩ 1 extendedAndRaised).2
      ⟨7, "192.0.2.1"⟩ 1 := by
  intro sound
  have refused : ∃ failure, (trialDesk.patch Billing.soloSettings (fun _ => true)
      ⟨7, "192.0.2.1"⟩ 1 extendedAndRaised).2 = .refusedOverrides failure := ⟨_, rfl⟩
  obtain ⟨failure, refused⟩ := refused
  rw [refused] at sound
  have kept := congrArg (fun store => store.events.length) (sound.refused nofun).1
  exact absurd kept (by decide)

end RssiService.PlatformAdmin
