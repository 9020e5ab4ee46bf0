import RssiService.Billing.Operations
import RssiService.Foundation.Run

/-!
# The commitment stays within the pool

Every operation that can raise a term of the commitment goes through the
platform guard, except the edit of a plan: it raises the quota of every
operational subscriber that follows the plan, all at once.  The growth of an
edit is computed exactly, which gives the exact condition for a whole run.
-/

namespace RssiService.Billing

open Foundation Foundation.Outcome Foundation.Run

variable {settings : Settings} {store next : Store} {now : Instant}

/-- The committed slots fit the platform pool. -/
def Store.WithinPool (settings : Settings) (store : Store) : Prop :=
  store.monitoredSlotsCommitted ≤ settings.monitoredSlotPool

instance (settings : Settings) (store : Store) : Decidable (store.WithinPool settings) :=
  inferInstanceAs (Decidable (_ ≤ _))

/-! ## The commitment after one write -/

@[simp]
theorem committedBy_recordEvent (store : Store) (key : Nat) (fromStatus : Option SubscriptionStatus)
    (toStatus : SubscriptionStatus) (fromPlan toPlan reason : String) (actor : Option Nat) :
    (store.recordEvent key fromStatus toStatus fromPlan toPlan reason actor).committedBy =
      store.committedBy := rfl

@[simp]
theorem committed_recordEvent (store : Store) (key : Nat) (fromStatus : Option SubscriptionStatus)
    (toStatus : SubscriptionStatus) (fromPlan toPlan reason : String) (actor : Option Nat) :
    (store.recordEvent key fromStatus toStatus fromPlan toPlan reason actor).monitoredSlotsCommitted =
      store.monitoredSlotsCommitted := by
  simp [monitoredSlotsCommitted_eq_total]

@[simp]
theorem withinPool_recordEvent (store : Store) (key : Nat) (fromStatus : Option SubscriptionStatus)
    (toStatus : SubscriptionStatus) (fromPlan toPlan reason : String) (actor : Option Nat) :
    (store.recordEvent key fromStatus toStatus fromPlan toPlan reason actor).WithinPool settings ↔
      store.WithinPool settings := by
  unfold Store.WithinPool
  rw [committed_recordEvent]

/-- Saving one subscription moves the commitment by the change of its own share. -/
theorem committed_saveSubscription {row : Subscription} (member : row ∈ store.subscriptions)
    (change : Subscription → Subscription) (keeps : ∀ row, (change row).id = row.id) :
    (store.saveSubscription row.id change keeps).monitoredSlotsCommitted + store.committedBy row =
      store.monitoredSlotsCommitted + store.committedBy (change row) := by
  simp only [monitoredSlotsCommitted_eq_total]
  exact Table.total_modify member change keeps store.committedBy

theorem committedBy_of_not_operational {row : Subscription} (idle : row.isOperational = false) :
    store.committedBy row = 0 := by
  simp [Store.committedBy, idle]

theorem committedBy_le_quota (store : Store) (row : Subscription) :
    store.committedBy row ≤ store.monitoredAssetsQuota row := by
  unfold Store.committedBy
  split
  · exact Nat.le_refl _
  · exact Nat.zero_le _

theorem committedBy_of_operational {row : Subscription} (operational : row.isOperational = true) :
    store.committedBy row = store.monitoredAssetsQuota row := by
  simp [Store.committedBy, operational]

/-- A save whose new share is not larger keeps the commitment within the pool. -/
theorem withinPool_of_share_le {row : Subscription} (member : row ∈ store.subscriptions)
    {change : Subscription → Subscription} {keeps : ∀ row, (change row).id = row.id}
    (smaller : store.committedBy (change row) ≤ store.committedBy row)
    (within : store.WithinPool settings) :
    (store.saveSubscription row.id change keeps).WithinPool settings := by
  have moved := committed_saveSubscription member change keeps
  unfold Store.WithinPool at *
  omega

/-- A save whose new share was granted by the guard keeps the commitment within
the pool. -/
theorem withinPool_of_granted {row : Subscription} (member : row ∈ store.subscriptions)
    {change : Subscription → Subscription} {keeps : ∀ row, (change row).id = row.id}
    {additional : Nat}
    (granted : store.ensureMonitoredSlotsAvailable settings additional (some row.id) = .ok ())
    (share : store.committedBy (change row) ≤ additional)
    (within : store.WithinPool settings) :
    (store.saveSubscription row.id change keeps).WithinPool settings := by
  have moved := committed_saveSubscription member change keeps
  have projected := projected_excluding member additional
  unfold Store.WithinPool at *
  rcases projected_le_of_ensured granted with nothing | fits <;> omega

/-- A save that stops the subscription keeps the commitment within the pool. -/
theorem withinPool_of_stopped {row : Subscription} (member : row ∈ store.subscriptions)
    {change : Subscription → Subscription} {keeps : ∀ row, (change row).id = row.id}
    (stopped : (change row).isOperational = false) (within : store.WithinPool settings) :
    (store.saveSubscription row.id change keeps).WithinPool settings := by
  refine withinPool_of_share_le member ?_ within
  rw [committedBy_of_not_operational stopped]
  exact Nat.zero_le _

/-- A new subscription adds its share to the commitment. -/
theorem committed_create {build : Nat → Subscription}
    {ident_build : ∀ key, ident (build key) = key} :
    ({ store with subscriptions := store.subscriptions.create build ident_build } :
        Store).monitoredSlotsCommitted =
      store.monitoredSlotsCommitted + store.committedBy (build store.subscriptions.next) := by
  rw [monitoredSlotsCommitted_eq_total, monitoredSlotsCommitted_eq_total]
  exact Table.total_create store.subscriptions build ident_build store.committedBy

/-- A new subscription whose share was granted keeps the commitment within the
pool. -/
theorem withinPool_of_created {build : Nat → Subscription} {ident_build : ∀ key, ident (build key) = key}
    {additional : Nat} (granted : store.ensureMonitoredSlotsAvailable settings additional none = .ok ())
    (share : store.committedBy (build store.subscriptions.next) ≤ additional)
    (within : store.WithinPool settings) :
    ({ store with subscriptions := store.subscriptions.create build ident_build } : Store).WithinPool
      settings := by
  have projected := projected_le_of_ensured granted
  rw [projected_none] at projected
  unfold Store.WithinPool at *
  rw [committed_create]
  rcases projected with nothing | fits <;> omega

/-- A subscription without override follows its stored plan. -/
theorem followed_quota {plan : Plan} (known : plan ∈ store.plans) {row : Subscription}
    (follows : row.plan = plan.id) (no_override : row.overrideMonitoredAssets = none) :
    store.monitoredAssetsQuota row = plan.monitoredAssets := by
  have lookup : store.plans.find? plan.id = some plan :=
    Table.find?_eq_some_iff.mpr ⟨known, rfl⟩
  simp [Store.monitoredAssetsQuota, Store.planQuota, no_override, follows, lookup]

/-! ## The guarded operations -/

/-- The plan of a trial, given or by default, is a stored plan. -/
theorem requested_plan_mem {plan : Option Nat} {chosen : Plan}
    (requested : (match plan with
      | some key => (require (store.plans.find? key)).map some
      | none => .ok (store.getDefaultTrialPlan settings)) = .ok (some chosen)) :
    chosen ∈ store.plans := by
  cases plan with
  | none => exact mem_of_getDefaultTrialPlan (Except.ok.inj requested)
  | some key =>
      obtain ⟨row, found, same⟩ := map_eq_ok.mp requested
      cases same
      exact Table.mem_of_find? (require_eq_ok.mp found)

theorem withinPool_startTrial {tenant : Nat} {plan actor days : Option Nat}
    (done : store.startTrial settings now tenant plan actor days = .ok next)
    (within : store.WithinPool settings) : next.WithinPool settings := by
  unfold Store.startTrial at done
  split at done
  · cases done
  · obtain ⟨requested, chosen, done⟩ := bind_eq_ok.mp done
    cases requested with
    | none => cases done
    | some plan =>
        obtain ⟨_, granted, done⟩ := bind_eq_ok.mp done
        cases done
        rw [withinPool_recordEvent]
        have known : plan ∈ store.plans := requested_plan_mem chosen
        refine withinPool_of_created granted ?_ within
        refine (committedBy_le_quota _ _).trans (Nat.le_of_eq ?_)
        exact followed_quota known rfl rfl

theorem withinPool_activate {key : Nat} {period : Option Period} {actor : Option Nat}
    {reason : String} (done : store.activate settings now key period actor reason = .ok next)
    (within : store.WithinPool settings) : next.WithinPool settings := by
  unfold Store.activate at done
  obtain ⟨row, found, done⟩ := bind_eq_ok.mp done
  obtain ⟨member, rfl⟩ := Table.find?_eq_some_iff.mp (require_eq_ok.mp found)
  by_cases already : row.status = .active
  · rw [if_pos already] at done
    cases done
    exact within
  · rw [if_neg already] at done
    obtain ⟨_, granted, done⟩ := bind_eq_ok.mp done
    cases done
    rw [withinPool_recordEvent]
    cases operational : row.isOperational with
    | true =>
        refine withinPool_of_share_le member ?_ within
        rw [committedBy_of_operational operational]
        exact committedBy_le_quota _ _
    | false =>
        rw [operational] at granted
        exact withinPool_of_granted member granted (committedBy_le_quota _ _) within

theorem withinPool_suspend {key : Nat} {actor : Option Nat} {reason : String}
    (done : store.suspend key actor reason = .ok next)
    (within : store.WithinPool settings) : next.WithinPool settings := by
  unfold Store.suspend at done
  obtain ⟨row, found, done⟩ := bind_eq_ok.mp done
  obtain ⟨member, rfl⟩ := Table.find?_eq_some_iff.mp (require_eq_ok.mp found)
  cases done
  rw [withinPool_recordEvent]
  exact withinPool_of_stopped member rfl within

theorem withinPool_cancel {key : Nat} {actor : Option Nat} {reason : String}
    (done : store.cancel now key actor reason = .ok next)
    (within : store.WithinPool settings) : next.WithinPool settings := by
  unfold Store.cancel at done
  obtain ⟨row, found, done⟩ := bind_eq_ok.mp done
  obtain ⟨member, rfl⟩ := Table.find?_eq_some_iff.mp (require_eq_ok.mp found)
  cases done
  rw [withinPool_recordEvent]
  exact withinPool_of_stopped member rfl within

theorem withinPool_changePlan {key plan : Nat} {actor : Option Nat} {reason : String}
    (done : store.changePlan settings key plan actor reason = .ok next)
    (within : store.WithinPool settings) : next.WithinPool settings := by
  unfold Store.changePlan at done
  obtain ⟨row, found, done⟩ := bind_eq_ok.mp done
  obtain ⟨member, rfl⟩ := Table.find?_eq_some_iff.mp (require_eq_ok.mp found)
  obtain ⟨target, foundTarget, done⟩ := bind_eq_ok.mp done
  have known : target ∈ store.plans := Table.mem_of_find? (require_eq_ok.mp foundTarget)
  by_cases same : target.id = row.plan
  · rw [if_pos same] at done
    cases done
    exact within
  · rw [if_neg same] at done
    obtain ⟨previous, _, done⟩ := bind_eq_ok.mp done
    obtain ⟨_, granted, done⟩ := bind_eq_ok.mp done
    cases done
    rw [withinPool_recordEvent]
    cases operational : row.isOperational with
    | false => exact withinPool_of_stopped member operational within
    | true =>
        by_cases raised : store.monitoredAssetsQuota row < target.monitoredAssets
        · rw [if_pos ⟨operational, raised⟩] at granted
          refine withinPool_of_granted member granted ?_ within
          exact (committedBy_le_quota _ _).trans (followed_quota known rfl rfl).le
        · refine withinPool_of_share_le member ?_ within
          rw [committedBy_of_operational operational]
          exact (committedBy_le_quota _ _).trans
            ((followed_quota known rfl rfl).le.trans (Nat.le_of_not_lt raised))

theorem withinPool_expireTrial (key : Nat) (within : store.WithinPool settings) :
    (store.expireTrial now key).WithinPool settings := by
  unfold Store.expireTrial
  rw [withinPool_recordEvent]
  cases found : store.subscriptions.find? key with
  | some row =>
      obtain ⟨member, rfl⟩ := Table.find?_eq_some_iff.mp found
      exact withinPool_of_stopped member rfl within
  | none =>
      unfold Store.saveSubscription
      rw [Table.modify_of_absent found]
      exact within

theorem withinPool_expireDueTrials (within : store.WithinPool settings) :
    (store.expireDueTrials now).1.WithinPool settings := by
  unfold Store.expireDueTrials
  dsimp only
  generalize (store.subscriptions.rows.filter (Subscription.trialDue now)).map Subscription.id = due
  induction due generalizing store with
  | nil => exact within
  | cons key rest ih => exact ih (withinPool_expireTrial key within)

theorem withinPool_setQuotaOverrides {key : Nat} {overrides : QuotaOverrides}
    {actor : Option Nat}
    (done : store.setQuotaOverrides settings key overrides actor = .ok next)
    (within : store.WithinPool settings) : next.WithinPool settings := by
  unfold Store.setQuotaOverrides at done
  obtain ⟨row, found, done⟩ := bind_eq_ok.mp done
  obtain ⟨member, rfl⟩ := Table.find?_eq_some_iff.mp (require_eq_ok.mp found)
  by_cases same : overrides.changed row = QuotaOverrides.none
  · rw [if_pos same] at done
    cases done
    exact within
  · rw [if_neg same] at done
    obtain ⟨_, granted, done⟩ := bind_eq_ok.mp done
    cases done
    rw [withinPool_recordEvent]
    cases operational : row.isOperational with
    | false => exact withinPool_of_stopped member operational within
    | true =>
        cases edited : (overrides.changed row).monitoredAssets with
        | none =>
            refine withinPool_of_share_le member ?_ within
            simp [Store.committedBy, Store.monitoredAssetsQuota, Subscription.isOperational,
              QuotaOverrides.apply, edited, Store.planQuota]
        | some quota =>
            have effective : store.monitoredAssetsQuota ((overrides.changed row).apply row) =
                quota.getD (store.planQuota Plan.monitoredAssets row) := by
              simp [Store.monitoredAssetsQuota, QuotaOverrides.apply, edited, Store.planQuota]
            simp only [edited] at granted
            by_cases raised : store.monitoredAssetsQuota row <
                quota.getD (store.planQuota Plan.monitoredAssets row)
            · rw [if_pos ⟨operational, raised⟩] at granted
              refine withinPool_of_granted member granted ?_ within
              exact (committedBy_le_quota _ _).trans effective.le
            · refine withinPool_of_share_le member ?_ within
              rw [committedBy_of_operational operational]
              exact (committedBy_le_quota _ _).trans
                (effective.le.trans (Nat.le_of_not_lt raised))

/-! ## The edit of a plan -/

/-- By how much an edit raises the monitored-asset quota of those who follow
the plan.  An unlimited quota 0 is never raised: existing clients are frozen at
0 when it becomes finite. -/
def Plan.monitoredRise (plan : Plan) (changes : PlanChanges) : Nat :=
  match changes.monitoredAssets with
  | none => 0
  | some value => if plan.monitoredAssets = 0 then 0 else value - plan.monitoredAssets

/-- An operational subscription that takes its monitored assets from the plan. -/
def Subscription.followsPlan (plan : Nat) (row : Subscription) : Bool :=
  row.plan = plan && row.isOperational && row.overrideMonitoredAssets.isNone

def Store.followers (store : Store) (plan : Nat) : Nat :=
  store.subscriptions.rows.countP (Subscription.followsPlan plan)

/-- What an edit adds to the commitment. -/
def Store.editGrowth (store : Store) (plan : Plan) (changes : PlanChanges) : Nat :=
  plan.monitoredRise changes * store.followers plan.id

theorem monitoredRise_of_lowered {plan : Plan} {changes : PlanChanges}
    (lowered : plan.lowers changes .monitoredAssets = true) : plan.monitoredRise changes = 0 := by
  unfold Plan.lowers Plan.monitoredRise at *
  cases edited : changes.monitoredAssets with
  | none => rfl
  | some value =>
      simp only [PlanChanges.quota, Plan.quota, edited] at lowered ⊢
      by_cases unlimited : plan.monitoredAssets = 0
      · simp [unlimited]
      · simp only [unlimited, if_false]
        simp [unlimited] at lowered
        omega

theorem quota_of_not_lowered {plan : Plan} {changes : PlanChanges}
    (kept : plan.lowers changes .monitoredAssets = false) :
    (changes.apply plan).monitoredAssets = plan.monitoredAssets + plan.monitoredRise changes := by
  unfold Plan.lowers Plan.monitoredRise PlanChanges.apply at *
  cases edited : changes.monitoredAssets with
  | none => rfl
  | some value =>
      simp only [PlanChanges.quota, Plan.quota, edited] at kept ⊢
      by_cases unlimited : plan.monitoredAssets = 0
      · simp_all
      · simp [unlimited] at kept ⊢
        omega

/-- What an edit does to one subscription row. -/
def Subscription.afterEdit (plan : Plan) (changes : PlanChanges) (row : Subscription) :
    Subscription :=
  if row.plan = plan.id then row.freeze plan (quotaFields.filter (plan.lowers changes)) else row

/-- What an edit writes: one plan, and the frozen overrides of its subscribers. -/
theorem updatePlan_writes {key : Nat} {changes : PlanChanges} {frozen : List Nat}
    (done : store.updatePlan key changes = .ok (next, frozen)) :
    ∃ plan ∈ store.plans, plan.id = key ∧
      (∀ other, next.plans.find? other =
        if other = plan.id then some (changes.apply plan) else store.plans.find? other) ∧
      next.subscriptions.rows =
        store.subscriptions.rows.map (Subscription.afterEdit plan changes) := by
  unfold Store.updatePlan at done
  obtain ⟨plan, found, written⟩ := bind_eq_ok.mp done
  obtain ⟨known, rfl⟩ := Table.find?_eq_some_iff.mp (require_eq_ok.mp found)
  cases written
  refine ⟨plan, known, rfl, ?_, ?_⟩
  · intro other
    exact Table.find?_modify_of_mem known changes.apply (fun _ => rfl) other
  · dsimp only
    split
    · simp [Table.updateWhere, Subscription.afterEdit, Store.planImpact]
    · rename_i untouched
      have fixed : ∀ row ∈ store.subscriptions.rows, row.afterEdit plan changes = row := by
        intro row member
        unfold Subscription.afterEdit
        split
        · rename_i mine
          have subscribed : row ∈ store.subscriptions.rows.filter fun row => row.plan = plan.id :=
            List.mem_filter.mpr ⟨member, decide_eq_true mine⟩
          have none_lowered : quotaFields.filter (plan.lowers changes) = [] := by
            cases lowered : quotaFields.filter (plan.lowers changes) with
            | nil => rfl
            | cons field rest =>
                refine absurd ?_ untouched
                simp only [Store.planImpact, lowered, List.isEmpty_cons, Bool.not_false,
                  Bool.true_and, Bool.not_eq_true', List.isEmpty_eq_false_iff]
                exact List.ne_nil_of_mem subscribed
          rw [none_lowered]
          rfl
        · rfl
      exact ((List.map_congr_left fixed).trans (List.map_id _)).symm

theorem afterEdit_isOperational (plan : Plan) (changes : PlanChanges) (row : Subscription) :
    (row.afterEdit plan changes).isOperational = row.isOperational := by
  unfold Subscription.afterEdit
  split
  · simp [Subscription.isOperational, freeze_frame]
  · rfl

theorem afterEdit_plan (plan : Plan) (changes : PlanChanges) (row : Subscription) :
    (row.afterEdit plan changes).plan = row.plan := by
  unfold Subscription.afterEdit
  split
  · exact (freeze_frame _ _ _).2.1
  · rfl

/-- The quota of one subscriber after an edit: the rise of the plan, for those
who follow it. -/
theorem quota_afterEdit {plan : Plan} {changes : PlanChanges} (known : plan ∈ store.plans)
    (plans : ∀ other, next.plans.find? other =
      if other = plan.id then some (changes.apply plan) else store.plans.find? other)
    (row : Subscription) :
    next.monitoredAssetsQuota (row.afterEdit plan changes) =
      store.monitoredAssetsQuota row +
        if row.plan = plan.id ∧ row.overrideMonitoredAssets = none then plan.monitoredRise changes
        else 0 := by
  have overridden : (row.afterEdit plan changes).overrideMonitoredAssets =
      if row.plan = plan.id ∧ plan.lowers changes .monitoredAssets
      then some (row.overrideMonitoredAssets.getD plan.monitoredAssets)
      else row.overrideMonitoredAssets := by
    have frozen := override_freeze plan (quotaFields.filter (plan.lowers changes)) row
      .monitoredAssets
    simp only [Subscription.override, Plan.quota, List.mem_filter] at frozen
    unfold Subscription.afterEdit
    rcases eq_or_ne row.plan plan.id with mine | apart
    · simpa [mine, quotaFields] using frozen
    · simp [apart]
  have followed : next.planQuota Plan.monitoredAssets (row.afterEdit plan changes) =
      if row.plan = plan.id then (changes.apply plan).monitoredAssets
      else store.planQuota Plan.monitoredAssets row := by
    unfold Store.planQuota
    rw [afterEdit_plan, plans]
    split <;> rfl
  unfold Store.monitoredAssetsQuota
  rw [overridden, followed]
  cases held : row.overrideMonitoredAssets with
  | some quota => split <;> simp
  | none =>
      rcases eq_or_ne row.plan plan.id with mine | apart
      · have before : store.planQuota Plan.monitoredAssets row = plan.monitoredAssets := by
          have lookup : store.plans.find? plan.id = some plan :=
            Table.find?_eq_some_iff.mpr ⟨known, rfl⟩
          simp [Store.planQuota, mine, lookup]
        cases lowered : plan.lowers changes .monitoredAssets with
        | true => simp [mine, before, monitoredRise_of_lowered lowered]
        | false => simp [mine, before, quota_of_not_lowered lowered]
      · simp [apart]

/-- An edit grows the commitment by the rise of the plan times its operational
followers. -/
theorem committed_updatePlan {key : Nat} {changes : PlanChanges} {frozen : List Nat}
    (done : store.updatePlan key changes = .ok (next, frozen)) :
    ∃ plan ∈ store.plans, plan.id = key ∧
      next.monitoredSlotsCommitted =
        store.monitoredSlotsCommitted + store.editGrowth plan changes := by
  obtain ⟨plan, known, plan_key, plans, rows⟩ := updatePlan_writes done
  refine ⟨plan, known, plan_key, ?_⟩
  have share (row : Subscription) : next.committedBy (row.afterEdit plan changes) =
      store.committedBy row +
        if row.followsPlan plan.id then plan.monitoredRise changes else 0 := by
    have quota := quota_afterEdit known plans row
    cases operational : row.isOperational with
    | false =>
        have stopped : (row.afterEdit plan changes).isOperational = false :=
          (afterEdit_isOperational plan changes row).trans operational
        simp [committedBy_of_not_operational, stopped, operational, Subscription.followsPlan]
    | true =>
        have still : (row.afterEdit plan changes).isOperational = true :=
          (afterEdit_isOperational plan changes row).trans operational
        rw [committedBy_of_operational still, committedBy_of_operational operational, quota]
        simp [Subscription.followsPlan, operational]
  calc next.monitoredSlotsCommitted
      = (store.subscriptions.rows.map fun row =>
          next.committedBy (row.afterEdit plan changes)).sum := by
        rw [monitoredSlotsCommitted_eq_total, Table.total, rows, List.map_map]
        rfl
    _ = store.subscriptions.total fun row => store.committedBy row +
          if row.followsPlan plan.id then plan.monitoredRise changes else 0 := by
        simp only [share]
        rfl
    _ = store.monitoredSlotsCommitted + store.editGrowth plan changes := by
        rw [Table.total_add, Table.total_ite, monitoredSlotsCommitted_eq_total]
        rfl

/-! ## Whole runs -/

/-- What one request has to meet for the commitment to stay within the pool: an
edit of a stored plan must leave room for its growth. -/
def Store.EditFits (settings : Settings) (store : Store) : Instant × Operation → Prop
  | (_, .updatePlan key changes) =>
      ∀ plan ∈ store.plans.find? key,
        store.monitoredSlotsCommitted + store.editGrowth plan changes ≤ settings.monitoredSlotPool
  | _ => True

theorem withinPool_step_iff (request : Instant × Operation) (within : store.WithinPool settings) :
    (store.step settings request).WithinPool settings ↔ store.EditFits settings request := by
  obtain ⟨now, operation⟩ := request
  have guarded (keeps : ∀ next, store.perform settings now operation = .ok next →
      next.WithinPool settings) : (store.step settings (now, operation)).WithinPool settings := by
    unfold Store.step
    cases done : store.perform settings now operation with
    | ok next => exact keeps next done
    | error failure => exact within
  cases operation with
  | startTrial tenant plan actor days =>
      exact iff_of_true (guarded fun next done => withinPool_startTrial done within) trivial
  | activate key period actor reason =>
      exact iff_of_true (guarded fun next done => withinPool_activate done within) trivial
  | suspend key actor reason =>
      exact iff_of_true (guarded fun next done => withinPool_suspend done within) trivial
  | cancel key actor reason =>
      exact iff_of_true (guarded fun next done => withinPool_cancel done within) trivial
  | changePlan key plan actor reason =>
      exact iff_of_true (guarded fun next done => withinPool_changePlan done within) trivial
  | expireDueTrials => exact iff_of_true (withinPool_expireDueTrials within) trivial
  | setQuotaOverrides key overrides actor =>
      exact iff_of_true (guarded fun next done => withinPool_setQuotaOverrides done within) trivial
  | updatePlan key changes =>
      cases done : store.updatePlan key changes with
      | ok result =>
          have edited : store.updatePlan key changes = .ok (result.1, result.2) := done
          obtain ⟨plan, known, plan_key, grown⟩ := committed_updatePlan edited
          have lookup : store.plans.find? key = some plan :=
            Table.find?_eq_some_iff.mpr ⟨known, plan_key⟩
          simp [Store.step, Store.perform, done, Except.map, Store.EditFits, lookup,
            Store.WithinPool, grown]
      | error failure =>
          have unknown : store.plans.find? key = none := by
            cases found : store.plans.find? key with
            | none => rfl
            | some plan =>
                unfold Store.updatePlan at done
                rw [found] at done
                cases done
          simpa [Store.step, Store.perform, done, Except.map, Store.EditFits, unknown] using within

/-- Starting within the pool, the commitment stays within the pool after every
operation exactly when every edit of a plan leaves room for its growth. -/
theorem commitment_within_pool_iff (settings : Settings) (store : Store)
    (within : store.WithinPool settings) (requests : List (Instant × Operation)) :
    Always (Store.step settings) (Store.WithinPool settings) store requests ↔
      EachStep (Store.step settings) (Store.EditFits settings) store requests :=
  always_iff_eachStep_of_start (fun _ request within => withinPool_step_iff request within)
    within requests

/-! ## An edit that overflows the pool -/

/-- One published plan with a single monitored asset, and room for two slots. -/
def soloCatalogue : Store where
  plans := Table.empty.create (fun key =>
    { id := key, code := "solo", name := "Solo", tagline := "", description := ""
      priceMonthly := 0, priceYearly := 0, currency := "EUR", isQuoteOnly := false
      status := .published, displayOrder := 1, isHighlighted := false
      monitoredAssets := 1, monthlyScans := 5, maxUsers := 3, features := [] }) (fun _ => rfl)
  subscriptions := Table.empty
  events := []

def soloSettings : Settings where
  monitoredSlotPool := 2
  defaultTrialPlanCode := "solo"
  trialDays := 14

/-- Two trials fill the pool, then the plan is raised from one slot to two. -/
def soloRequests : List (Instant × Operation) :=
  [(0, .startTrial 1 none none none), (0, .startTrial 2 none none none),
    (0, .updatePlan 0 { monitoredAssets := some 2 })]

theorem commitment_overflow :
    soloCatalogue.WithinPool soloSettings ∧
      ¬ Always (Store.step soloSettings) (Store.WithinPool soloSettings) soloCatalogue
        soloRequests := by
  refine ⟨by decide, ?_⟩
  intro always
  exact absurd always.last (by decide)

theorem commitment_within_pool_iff_solo :
    Always (Store.step soloSettings) (Store.WithinPool soloSettings) soloCatalogue soloRequests ↔
      EachStep (Store.step soloSettings) (Store.EditFits soloSettings) soloCatalogue soloRequests :=
  commitment_within_pool_iff soloSettings soloCatalogue (by decide) soloRequests

end RssiService.Billing
