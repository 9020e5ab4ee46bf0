import RssiService.Billing.Compositions
import RssiService.Billing.PlanEdits

/-!
# Coherent subscriptions

A subscription is coherent when each of its features has the features and the quota that it
needs.  A composition is checked for that; the other operations that change the features or
the quotas of a subscription are not.
-/

namespace RssiService.Billing

open Foundation Foundation.Outcome Foundation.Run Python

/-! ## Coherence -/

/-- The features have what they need, with these quotas. -/
structure Composable (features : List String) (watched monitored : Nat) : Prop where
  studio : trainingStudio ∈ features → training ∈ features
  accounts : watchedAccounts ∈ features → watched ≠ 0
  realtime : realtimeMonitoring ∈ features → monitored ≠ 0

/-- Nothing is wrong with what the subscription has. -/
def Store.IsCoherent (store : Store) (row : Subscription) : Prop :=
  store.incoherencesDeComposition row (store.effectiveFeatures row) = []

def Store.Coherent (store : Store) : Prop := ∀ row ∈ store.subscriptions, store.IsCoherent row

section Compositions

variable {store after : Store} {row : Subscription} {features keys : List String}

theorem mem_sanitize {key : String} :
    key ∈ sanitize keys ↔ key ∈ registry.map Feature.key ∧ key ∈ keys := by
  rw [sanitize, List.mem_filter, List.contains_iff_mem]

/-- To keep the known keys twice is to keep them once. -/
theorem sanitize_sanitize (keys : List String) : sanitize (sanitize keys) = sanitize keys := by
  refine List.filter_congr fun key known => ?_
  rw [Bool.eq_iff_iff, List.contains_iff_mem, List.contains_iff_mem, mem_sanitize]
  exact and_iff_right known

/-- The studio is the only feature that needs another one. -/
theorem dependances_eq_nil_iff {cle : String} {retenues : List String} :
    ((((dependDe.find? fun pair => pair.1 = cle).map Prod.snd).getD []).filterMap fun requise =>
        if retenues.contains requise then none else some (dependanceManquante cle requise)) = [] ↔
      (cle = trainingStudio → training ∈ retenues) := by
  by_cases studio : trainingStudio = cle
  · subst studio
    simp [dependDe]
  · simp [dependDe, studio, Ne.symm studio]

theorem quotas_eq_nil_iff {store : Store} {row : Subscription} {retenues : List String} :
    (quotaRequis.filterMap fun (cle, attribut, compte) =>
        if retenues.contains cle && store.requiredQuota row attribut = 0
        then some (quotaManquant cle compte) else none) = [] ↔
      (watchedAccounts ∈ retenues → store.watchedAccountsQuota row ≠ 0) ∧
        (realtimeMonitoring ∈ retenues → store.monitoredAssetsQuota row ≠ 0) := by
  simp only [quotaRequis, List.filterMap_cons, List.filterMap_nil, Store.requiredQuota]
  by_cases accounts : watchedAccounts ∈ retenues <;>
    by_cases realtime : realtimeMonitoring ∈ retenues <;>
      by_cases watched : store.watchedAccountsQuota row = 0 <;>
        by_cases monitored : store.monitoredAssetsQuota row = 0 <;>
          simp [accounts, realtime, watched, monitored]

theorem incoherences_eq_nil_iff :
    store.incoherencesDeComposition row keys = [] ↔
      Composable (sanitize keys) (store.watchedAccountsQuota row)
        (store.monitoredAssetsQuota row) := by
  rw [Store.incoherencesDeComposition]
  dsimp only
  rw [List.append_eq_nil_iff, quotas_eq_nil_iff, List.flatMap_eq_nil_iff]
  constructor
  · rintro ⟨depend, accounts, realtime⟩
    refine ⟨fun studio => ?_, accounts, realtime⟩
    exact dependances_eq_nil_iff.mp (depend _ ((List.mem_insertionSort _).mpr studio)) rfl
  · rintro ⟨studio, accounts, realtime⟩
    refine ⟨fun cle kept => dependances_eq_nil_iff.mpr ?_, accounts, realtime⟩
    rintro rfl
    exact studio ((List.mem_insertionSort _).mp kept)

theorem isCoherent_iff :
    store.IsCoherent row ↔
      Composable (store.effectiveFeatures row) (store.watchedAccountsQuota row)
        (store.monitoredAssetsQuota row) := by
  rw [Store.IsCoherent, incoherences_eq_nil_iff, Store.effectiveFeatures, sanitize_sanitize]

/-- Only the plans matter besides the subscription itself. -/
theorem isCoherent_congr (plans : after.plans = store.plans) :
    after.IsCoherent row ↔ store.IsCoherent row := by
  rw [isCoherent_iff, isCoherent_iff, Store.effectiveFeatures, Store.effectiveFeatures,
    Store.watchedAccountsQuota, Store.watchedAccountsQuota, Store.monitoredAssetsQuota,
    Store.monitoredAssetsQuota, Store.planQuota, Store.planQuota, Store.planQuota,
    Store.planQuota, plans]

/-- One subscription is changed. -/
theorem coherent_save_iff (coherent : store.Coherent) (member : row ∈ store.subscriptions)
    {change : Subscription → Subscription} (keeps : ∀ row, (change row).id = row.id)
    {events : List SubscriptionEvent} :
    Store.Coherent
        { plans := store.plans
          subscriptions := store.subscriptions.modify row.id change keeps, events } ↔
      store.IsCoherent (change row) := by
  rw [Store.Coherent, Table.forall_mem_modify]
  constructor
  · intro each
    have own := each row member
    rw [if_pos (show ident row = row.id from rfl)] at own
    exact (isCoherent_congr rfl).mp own
  · intro own other inside
    refine (isCoherent_congr rfl).mpr ?_
    split
    · next same =>
        cases Table.ident_injective inside member same
        exact own
    · exact coherent other inside

end Compositions

/-! ## Edits -/

/-- What may change the features or the quotas of a subscription. -/
inductive CompositionEdit where
  | setFeatureOverrides (subscription : Nat) (keys : List String) (actor : Option Nat)
  | clearFeatureOverrides (subscription : Nat) (actor : Option Nat)
  | setQuotaOverrides (subscription : Nat) (overrides : QuotaOverrides) (actor : Option Nat)
  | changePlan (subscription plan : Nat) (actor : Option Nat) (reason : String)
  | updatePlan (plan : Nat) (changes : PlanChanges)

/-- The store that an edit leaves, where it is accepted. -/
def CompositionEdit.result (settings : Settings) (store : Store) :
    CompositionEdit → Option Store
  | .setFeatureOverrides key keys actor => (store.setFeatureOverrides key keys actor).toOption
  | .clearFeatureOverrides key actor => (store.clearFeatureOverrides key actor).toOption
  | .setQuotaOverrides key overrides actor =>
      (store.setQuotaOverrides settings key overrides actor).toOption
  | .changePlan key plan actor reason =>
      (store.changePlan settings key plan actor reason).toOption
  | .updatePlan key changes => ((store.updatePlan key changes).map Prod.fst).toOption

/-- An edit that is refused changes nothing. -/
def Store.compose (settings : Settings) (store : Store) (edit : CompositionEdit) : Store :=
  (edit.result settings store).getD store

/-- The features of the plan of a subscription. -/
def Store.planFeatures (store : Store) (row : Subscription) : List String :=
  ((store.plans.find? row.plan).map Plan.features).getD []

/-- What an edit would have to check.  A composition is checked, and so the first edit needs
nothing more. -/
def Store.Supports (settings : Settings) (store : Store) : CompositionEdit → Prop
  | .setFeatureOverrides _ _ _ => True
  | .clearFeatureOverrides key _ =>
      ∀ row ∈ store.subscriptions, row.id = key →
        Composable (sanitize (store.planFeatures row)) (store.watchedAccountsQuota row)
          (store.monitoredAssetsQuota row)
  | .setQuotaOverrides key overrides actor =>
      (store.setQuotaOverrides settings key overrides actor).isOk = true →
        ∀ row ∈ store.subscriptions, row.id = key →
          Composable
            (sanitize ((overrides.features.getD row.overrideFeatures).getD
              (store.planFeatures row)))
            (store.watchedAccountsQuota row)
            ((overrides.monitoredAssets.getD row.overrideMonitoredAssets).getD
              (store.planQuota Plan.monitoredAssets row))
  | .changePlan key plan actor reason =>
      (store.changePlan settings key plan actor reason).isOk = true →
        ∀ row ∈ store.subscriptions, row.id = key → row.plan ≠ plan →
          ∀ target ∈ store.plans.find? plan,
            Composable (sanitize target.features)
              (row.overrideWatchedAccounts.getD target.watchedAccounts) target.monitoredAssets
  | .updatePlan key changes =>
      ∀ plan ∈ store.plans.find? key, ∀ features ∈ changes.features,
        ∀ row ∈ store.subscriptions, row.plan = key → row.overrideFeatures = none →
          Composable (sanitize features) (store.watchedAccountsQuota row)
            (if row.overrideMonitoredAssets = none ∧ plan.lowers changes .monitoredAssets = false
              then changes.monitoredAssets.getD plan.monitoredAssets
              else store.monitoredAssetsQuota row)

section Edits

variable {settings : Settings} {store after : Store} {row : Subscription} {key : Nat}
  {actor : Option Nat}

theorem mem_of_find {table : Table Subscription} (found : table.find? key = some row) :
    row ∈ table ∧ row.id = key := Table.find?_eq_some_iff.mp found

theorem forall_row_iff {P : Subscription → Prop} (found : store.subscriptions.find? key = some row) :
    (∀ other ∈ store.subscriptions, other.id = key → P other) ↔ P row := by
  obtain ⟨member, rfl⟩ := mem_of_find found
  constructor
  · exact fun each => each row member rfl
  · intro own other inside same
    cases Table.ident_injective inside member same
    exact own

theorem absent_of_find {P : Subscription → Prop} (absent : store.subscriptions.find? key = none) :
    ∀ other ∈ store.subscriptions, other.id = key → P other := by
  intro other inside same
  have found : store.subscriptions.find? key = some other :=
    Table.find?_eq_some_iff.mpr ⟨inside, same⟩
  rw [absent] at found
  cases found

/-- A composition that is accepted has what it needs. -/
theorem coherent_setFeatureOverrides (coherent : store.Coherent) (keys : List String)
    (done : store.setFeatureOverrides key keys actor = .ok after) : after.Coherent := by
  unfold Store.setFeatureOverrides at done
  split at done
  · cases done
  · next row found =>
      obtain ⟨member, rfl⟩ := mem_of_find found
      dsimp only at done
      split at done
      · cases done
      · next checked =>
          split at done
          · cases done
            exact coherent
          · cases done
            refine (coherent_save_iff coherent member (by intro; rfl)).mpr ?_
            exact isCoherent_iff.mpr (incoherences_eq_nil_iff.mp (not_not.mp checked))

theorem coherent_clear_iff (coherent : store.Coherent) :
    (store.compose settings (.clearFeatureOverrides key actor)).Coherent ↔
      store.Supports settings (.clearFeatureOverrides key actor) := by
  rw [Store.compose, CompositionEdit.result, Store.clearFeatureOverrides, Store.Supports]
  cases found : store.subscriptions.find? key with
  | none => exact iff_of_true coherent (absent_of_find found)
  | some row =>
      rw [forall_row_iff found]
      obtain ⟨member, rfl⟩ := mem_of_find found
      dsimp only
      split
      · next followed =>
          refine iff_of_true coherent ?_
          have own := isCoherent_iff.mp (coherent row member)
          rwa [Store.effectiveFeatures, followed] at own
      · exact (coherent_save_iff coherent member (by intro; rfl)).trans isCoherent_iff

/-- What is asked for, whether or not it differs from what is stored. -/
theorem getD_filter_ne {Value : Type} [DecidableEq Value] (asked : Option Value) (stored : Value) :
    (asked.filter (· ≠ stored)).getD stored = asked.getD stored := by
  cases asked with
  | none => rfl
  | some value =>
      by_cases same : value = stored
      · simp [Option.filter, same]
      · simp [Option.filter, same]

theorem isCoherent_overridden_iff {overrides : QuotaOverrides} :
    store.IsCoherent ((overrides.changed row).apply row) ↔
      Composable
        (sanitize ((overrides.features.getD row.overrideFeatures).getD (store.planFeatures row)))
        (store.watchedAccountsQuota row)
        ((overrides.monitoredAssets.getD row.overrideMonitoredAssets).getD
          (store.planQuota Plan.monitoredAssets row)) := by
  rw [isCoherent_iff, ← getD_filter_ne overrides.features,
    ← getD_filter_ne overrides.monitoredAssets]
  exact Iff.rfl

theorem coherent_setQuotaOverrides_iff (coherent : store.Coherent) {overrides : QuotaOverrides} :
    (store.compose settings (.setQuotaOverrides key overrides actor)).Coherent ↔
      store.Supports settings (.setQuotaOverrides key overrides actor) := by
  rw [Store.compose, CompositionEdit.result, Store.Supports]
  cases done : store.setQuotaOverrides settings key overrides actor with
  | error failure => exact iff_of_true coherent nofun
  | ok after =>
      unfold Store.setQuotaOverrides at done
      obtain ⟨row, found, done⟩ := bind_eq_ok.mp done
      have lookup := require_eq_ok.mp found
      rw [forall_row_iff lookup]
      obtain ⟨member, rfl⟩ := mem_of_find lookup
      dsimp only at done
      refine Iff.trans ?_ (forall_prop_of_true rfl).symm
      rw [← isCoherent_overridden_iff]
      split at done
      · next same =>
          cases done
          rw [same]
          exact iff_of_true coherent (coherent row member)
      · obtain ⟨_, _, done⟩ := bind_eq_ok.mp done
        cases done
        exact coherent_save_iff coherent member (by intro; rfl)

theorem coherent_changePlan_iff (coherent : store.Coherent) {plan : Nat} {reason : String} :
    (store.compose settings (.changePlan key plan actor reason)).Coherent ↔
      store.Supports settings (.changePlan key plan actor reason) := by
  rw [Store.compose, CompositionEdit.result, Store.Supports]
  cases done : store.changePlan settings key plan actor reason with
  | error failure => exact iff_of_true coherent nofun
  | ok after =>
      unfold Store.changePlan at done
      obtain ⟨row, found, done⟩ := bind_eq_ok.mp done
      have lookup := require_eq_ok.mp found
      rw [forall_row_iff lookup]
      obtain ⟨member, rfl⟩ := mem_of_find lookup
      obtain ⟨target, sought, moved⟩ := bind_eq_ok.mp done
      have reached := require_eq_ok.mp sought
      obtain ⟨known, rfl⟩ := Table.find?_eq_some_iff.mp reached
      refine Iff.trans ?_ (forall_prop_of_true rfl).symm
      rw [reached]
      simp only [Option.mem_some_iff, forall_eq']
      split at moved
      · next same =>
          cases moved
          exact iff_of_true coherent fun moves => absurd same.symm moves
      · next moves =>
          obtain ⟨previous, _, guarded⟩ := bind_eq_ok.mp moved
          obtain ⟨_, _, saved⟩ := bind_eq_ok.mp guarded
          cases saved
          refine (coherent_save_iff coherent member (by intro; rfl)).trans ?_
          refine Iff.trans ?_ (forall_prop_of_true (Ne.symm moves)).symm
          have same : store.plans.find? target.id = some target := reached
          rw [isCoherent_iff, Store.effectiveFeatures, Store.watchedAccountsQuota,
            Store.monitoredAssetsQuota, Store.planQuota, Store.planQuota]
          simp only [same, Option.map_some, Option.getD_some, Option.getD_none]

end Edits

section PlanEdits

variable {settings : Settings} {store after : Store} {plan : Plan} {changes : PlanChanges}
  {row : Subscription}

theorem freezeField_composition (plan : Plan) (row : Subscription) (field : QuotaField) :
    (row.freezeField plan field).overrideFeatures = row.overrideFeatures ∧
      (row.freezeField plan field).overrideWatchedAccounts = row.overrideWatchedAccounts := by
  unfold Subscription.freezeField
  split
  · cases field <;> exact ⟨rfl, rfl⟩
  · exact ⟨rfl, rfl⟩

/-- Freezing leaves the features and the watched accounts as they are. -/
theorem freeze_composition (plan : Plan) (lowered : List QuotaField) (row : Subscription) :
    (row.freeze plan lowered).overrideFeatures = row.overrideFeatures ∧
      (row.freeze plan lowered).overrideWatchedAccounts = row.overrideWatchedAccounts := by
  induction lowered generalizing row with
  | nil => exact ⟨rfl, rfl⟩
  | cons field rest ih =>
      obtain ⟨features, accounts⟩ := ih (row.freezeField plan field)
      obtain ⟨first, second⟩ := freezeField_composition plan row field
      exact ⟨features.trans first, accounts.trans second⟩

theorem afterEdit_composition (plan : Plan) (changes : PlanChanges) (row : Subscription) :
    (row.afterEdit plan changes).overrideFeatures = row.overrideFeatures ∧
      (row.afterEdit plan changes).overrideWatchedAccounts = row.overrideWatchedAccounts := by
  unfold Subscription.afterEdit
  split
  · exact freeze_composition plan _ row
  · exact ⟨rfl, rfl⟩

/-- The features after an edit: those who follow the plan get the new ones. -/
theorem effectiveFeatures_afterEdit (plans : ∀ other, after.plans.find? other =
      if other = plan.id then some (changes.apply plan) else store.plans.find? other) :
    after.effectiveFeatures (row.afterEdit plan changes) =
      if row.plan = plan.id ∧ row.overrideFeatures = none then
        sanitize (changes.features.getD plan.features)
      else store.effectiveFeatures row := by
  rw [Store.effectiveFeatures, (afterEdit_composition plan changes row).1, afterEdit_plan, plans]
  by_cases mine : row.plan = plan.id
  · cases composed : row.overrideFeatures with
    | none => simp [mine, PlanChanges.apply]
    | some features => simp [Store.effectiveFeatures, composed]
  · simp [mine, Store.effectiveFeatures]

/-- The quota of watched accounts is not edited. -/
theorem watchedAccountsQuota_afterEdit (known : plan ∈ store.plans)
    (plans : ∀ other, after.plans.find? other =
      if other = plan.id then some (changes.apply plan) else store.plans.find? other) :
    after.watchedAccountsQuota (row.afterEdit plan changes) = store.watchedAccountsQuota row := by
  have lookup : store.plans.find? plan.id = some plan := Table.find?_eq_some_iff.mpr ⟨known, rfl⟩
  rw [Store.watchedAccountsQuota, (afterEdit_composition plan changes row).2, Store.planQuota,
    afterEdit_plan, plans, Store.watchedAccountsQuota, Store.planQuota]
  split
  · next mine =>
      rw [mine, lookup]
      rfl
  · rfl

/-- A quota of monitored assets that is not zero is not zero after an edit. -/
theorem monitoredAssetsQuota_afterEdit_ne_zero (known : plan ∈ store.plans)
    (plans : ∀ other, after.plans.find? other =
      if other = plan.id then some (changes.apply plan) else store.plans.find? other)
    (bounded : store.monitoredAssetsQuota row ≠ 0) :
    after.monitoredAssetsQuota (row.afterEdit plan changes) ≠ 0 := by
  rw [← effectiveQuota_monitoredAssets] at bounded ⊢
  rw [effectiveQuota_afterEdit known plans]
  split
  · next follows =>
      obtain ⟨mine, free, kept⟩ := follows
      have lookup : store.plans.find? plan.id = some plan :=
        Table.find?_eq_some_iff.mpr ⟨known, rfl⟩
      have held : store.effectiveQuota .monitoredAssets row = plan.quota .monitoredAssets := by
        simp [Store.effectiveQuota, Store.planQuota, free, mine, lookup]
      rw [held] at bounded
      cases changed : changes.quota .monitoredAssets with
      | none => exact bounded
      | some value =>
          rintro (rfl : value = 0)
          rw [(lowers_iff changed).mpr (Or.inr ⟨bounded, rfl⟩)] at kept
          cases kept
  · exact bounded

/-- A subscriber after an edit. -/
theorem isCoherent_afterEdit_iff (known : plan ∈ store.plans)
    (plans : ∀ other, after.plans.find? other =
      if other = plan.id then some (changes.apply plan) else store.plans.find? other)
    (coherent : store.IsCoherent row) :
    after.IsCoherent (row.afterEdit plan changes) ↔
      ∀ features ∈ changes.features, row.plan = plan.id → row.overrideFeatures = none →
        Composable (sanitize features) (store.watchedAccountsQuota row)
          (if row.overrideMonitoredAssets = none ∧ plan.lowers changes .monitoredAssets = false
            then changes.monitoredAssets.getD plan.monitoredAssets
            else store.monitoredAssetsQuota row) := by
  have lookup : store.plans.find? plan.id = some plan := Table.find?_eq_some_iff.mpr ⟨known, rfl⟩
  have before := isCoherent_iff.mp coherent
  rw [isCoherent_iff, watchedAccountsQuota_afterEdit known plans, effectiveFeatures_afterEdit plans]
  have same (unchanged : store.effectiveFeatures row =
      (if row.plan = plan.id ∧ row.overrideFeatures = none then
        sanitize (changes.features.getD plan.features) else store.effectiveFeatures row)) :
      Composable (if row.plan = plan.id ∧ row.overrideFeatures = none then
        sanitize (changes.features.getD plan.features) else store.effectiveFeatures row)
        (store.watchedAccountsQuota row)
        (after.monitoredAssetsQuota (row.afterEdit plan changes)) := by
    rw [← unchanged]
    exact ⟨before.studio, before.accounts, fun enabled =>
      monitoredAssetsQuota_afterEdit_ne_zero known plans (before.realtime enabled)⟩
  by_cases follows : row.plan = plan.id ∧ row.overrideFeatures = none
  · obtain ⟨mine, free⟩ := follows
    cases changed : changes.features with
    | none =>
        have kept := same (by simp [changed, mine, free, Store.effectiveFeatures, lookup])
        rw [changed] at kept
        exact iff_of_true kept nofun
    | some features =>
        have quota : after.monitoredAssetsQuota (row.afterEdit plan changes) =
            if row.overrideMonitoredAssets = none ∧ plan.lowers changes .monitoredAssets = false
            then changes.monitoredAssets.getD plan.monitoredAssets
            else store.monitoredAssetsQuota row := by
          rw [← effectiveQuota_monitoredAssets, effectiveQuota_afterEdit known plans]
          simp only [mine, true_and]
          rfl
        rw [quota]
        simp [mine, free]
  · refine iff_of_true (same ?_) fun features _ mine free => absurd ⟨mine, free⟩ follows
    rw [if_neg follows]

theorem coherent_updatePlan_iff (coherent : store.Coherent) {key : Nat} :
    (store.compose settings (.updatePlan key changes)).Coherent ↔
      store.Supports settings (.updatePlan key changes) := by
  rw [Store.compose, CompositionEdit.result, Store.Supports]
  cases done : store.updatePlan key changes with
  | error failure =>
      refine iff_of_true coherent fun plan found => ?_
      rw [Store.updatePlan, require_eq_ok.mpr found] at done
      cases done
  | ok result =>
      obtain ⟨after, frozen⟩ := result
      obtain ⟨plan, known, rfl, plans, rows⟩ := updatePlan_writes done
      have lookup : store.plans.find? plan.id = some plan :=
        Table.find?_eq_some_iff.mpr ⟨known, rfl⟩
      rw [lookup]
      simp only [Option.mem_some_iff, forall_eq']
      have written : (after.Coherent ↔ ∀ row ∈ store.subscriptions,
          after.IsCoherent (row.afterEdit plan changes)) := by
        rw [Store.Coherent]
        simp only [Table.mem_def, rows, List.forall_mem_map]
      refine written.trans ?_
      constructor
      · intro each features changed row member
        exact (isCoherent_afterEdit_iff known plans (coherent row member)).mp (each row member)
          features changed
      · intro each row member
        exact (isCoherent_afterEdit_iff known plans (coherent row member)).mpr
          fun features changed => each features changed row member

end PlanEdits

/-! ## Runs -/

theorem coherent_compose_iff (settings : Settings) (store : Store) (edit : CompositionEdit)
    (coherent : store.Coherent) :
    (store.compose settings edit).Coherent ↔ store.Supports settings edit := by
  cases edit with
  | setFeatureOverrides key keys actor =>
      refine iff_of_true ?_ trivial
      rw [Store.compose, CompositionEdit.result]
      cases done : store.setFeatureOverrides key keys actor with
      | error failure => exact coherent
      | ok after => exact coherent_setFeatureOverrides coherent keys done
  | clearFeatureOverrides key actor => exact coherent_clear_iff coherent
  | setQuotaOverrides key overrides actor => exact coherent_setQuotaOverrides_iff coherent
  | changePlan key plan actor reason => exact coherent_changePlan_iff coherent
  | updatePlan key changes => exact coherent_updatePlan_iff coherent

/-- Through a sequence of edits, all the subscriptions stay coherent exactly where each edit
supports the features that it leaves. -/
theorem compositions_coherent_iff (settings : Settings) (start : Store)
    (edits : List CompositionEdit) :
    Always (Store.compose settings) Store.Coherent start edits ↔
      start.Coherent ∧ EachStep (Store.compose settings) (Store.Supports settings) start edits :=
  always_iff_start_and_eachStep (coherent_compose_iff settings) start edits

/-! A client who is monitored in real time, on two of its slots. -/

def monitoredPlan : Plan :=
  ⟨0, "pilotage", "Pilotage", "", "", 9900, 99000, "EUR", false, .published, 1, false, 2, 4, 3,
    0, 0, ["realtime_monitoring"]⟩

/-- An offer with the studio and without the training. -/
def studioPlan : Plan :=
  ⟨1, "studio", "Studio", "", "", 4900, 49000, "EUR", false, .published, 2, false, 1, 4, 3,
    0, 0, ["training_studio"]⟩

def monitoredClient : Store where
  plans := ⟨[monitoredPlan, studioPlan], 2, by decide, by decide⟩
  subscriptions :=
    ⟨[⟨0, 1, 0, .active, .monthly, 0, none, none, none, none, none, none, none, none, none⟩], 1,
      by decide, by decide⟩
  events := []

def poolSettings : Settings := ⟨25, "pilotage", 14⟩

/-- The slots are taken away, the offer is changed, and a feature is added to the offer. -/
def uncheckedEdits : List CompositionEdit :=
  [.setQuotaOverrides 0 ⟨some (some 0), none, none, none⟩ none, .changePlan 0 1 none "",
    .updatePlan 0 { features := some ["watched_accounts"] },
    .setQuotaOverrides 0 ⟨none, none, none, some (some ["training_studio"])⟩ none]

/-- The client is coherent, and none of these edits leaves it so. -/
theorem edits_incoherent :
    monitoredClient.Coherent ∧ ∀ edit ∈ uncheckedEdits,
      ¬Always (Store.compose poolSettings) Store.Coherent monitoredClient [edit] := by
  constructor
  · have clear : ∀ row ∈ monitoredClient.subscriptions.rows,
        monitoredClient.incoherencesDeComposition row (monitoredClient.effectiveFeatures row) =
          [] := by
      decide +kernel
    exact clear
  · intro edit listed always
    have wrong : ∀ edit ∈ uncheckedEdits,
        ∃ row ∈ (monitoredClient.compose poolSettings edit).subscriptions.rows,
          (monitoredClient.compose poolSettings edit).incoherencesDeComposition row
            ((monitoredClient.compose poolSettings edit).effectiveFeatures row) ≠ [] := by
      unfold uncheckedEdits
      decide +kernel
    obtain ⟨row, inside, incoherent⟩ := wrong edit listed
    exact incoherent (always.last row inside)

end RssiService.Billing
