import Mathlib.Data.ENat.Basic
import RssiService.Billing.Commitment

/-!
# What a plan edit does to its subscribers

A lowered quota is frozen for the existing subscribers; a raised one is theirs
at once.  Unlimited is written 0, the smallest number, so raising a quota to
unlimited looks like lowering it.
-/

namespace RssiService.Billing

open Foundation

/-! ## What a quota allows -/

/-- The amount a quota allows: 0 is unlimited. -/
def allowance (quota : Nat) : ℕ∞ := if quota = 0 then ⊤ else quota

theorem allowance_le_iff {first second : Nat} :
    allowance first ≤ allowance second ↔ second = 0 ∨ (first ≠ 0 ∧ first ≤ second) := by
  unfold allowance
  rcases eq_or_ne first 0 with rfl | bounded
  · rcases eq_or_ne second 0 with rfl | bounded'
    · simp
    · simp [bounded']
  · rcases eq_or_ne second 0 with rfl | bounded'
    · simp
    · simp [bounded, bounded']

theorem allowance_lt_iff {first second : Nat} :
    allowance first < allowance second ↔ first ≠ 0 ∧ (second = 0 ∨ first < second) := by
  rw [← not_le, allowance_le_iff]
  omega

/-- The quota of a subscription: its override, or what its plan says. -/
def Store.effectiveQuota (store : Store) (field : QuotaField) (subscription : Subscription) : Nat :=
  (subscription.override field).getD (store.planQuota (fun plan => plan.quota field) subscription)

theorem effectiveQuota_monitoredAssets (store : Store) (subscription : Subscription) :
    store.effectiveQuota .monitoredAssets subscription = store.monitoredAssetsQuota subscription :=
  rfl

/-! ## Fair edits -/

/-- No subscriber has less of any quota than before. -/
def KeepsQuotas (before after : Store) : Prop :=
  ∀ row ∈ before.subscriptions, ∃ later ∈ after.subscriptions, later.id = row.id ∧
    ∀ field, allowance (before.effectiveQuota field row) ≤ allowance (after.effectiveQuota field later)

/-- The subscribers who follow the plan for a quota get each of its rises. -/
def PassesRaises (before after : Store) (plan : Plan) (changes : PlanChanges) : Prop :=
  ∀ field, ∀ value ∈ changes.quota field, allowance (plan.quota field) < allowance value →
    ∀ row ∈ before.subscriptions, row.plan = plan.id → row.override field = none →
      ∀ later ∈ after.subscriptions, later.id = row.id →
        after.effectiveQuota field later = value

/-- An edit that goes through keeps every quota and passes every rise on. -/
def Store.EditFair (store : Store) (key : Nat) (changes : PlanChanges) : Prop :=
  match store.updatePlan key changes with
  | .error _ => True
  | .ok (after, _) =>
      KeepsQuotas store after ∧
        ∀ plan ∈ store.plans.find? key, PassesRaises store after plan changes

/-- No quota is made unlimited while a subscriber follows the plan for it. -/
def Store.NoneMadeUnlimited (store : Store) (key : Nat) (changes : PlanChanges) : Prop :=
  ∀ plan ∈ store.plans.find? key, ∀ field, plan.quota field ≠ 0 → changes.quota field = some 0 →
    ∀ row ∈ store.subscriptions, row.plan = plan.id → row.override field ≠ none

section Edits

variable {store after : Store} {plan : Plan} {changes : PlanChanges} {field : QuotaField}
  {row : Subscription}

theorem mem_quotaFields (field : QuotaField) : field ∈ quotaFields := by
  cases field <;> simp [quotaFields]

theorem quota_apply :
    (changes.apply plan).quota field = (changes.quota field).getD (plan.quota field) := by
  cases field <;> rfl

/-- A quota is lowered when it allows less, and also when it becomes unlimited. -/
theorem lowers_iff {value : Nat} (changed : changes.quota field = some value) :
    plan.lowers changes field = true ↔
      allowance value < allowance (plan.quota field) ∨ (plan.quota field ≠ 0 ∧ value = 0) := by
  rw [Plan.lowers, changed, allowance_lt_iff]
  simp only [Bool.not_eq_true', Bool.and_eq_false_iff, Bool.not_eq_false', decide_eq_false_iff_not,
    Bool.and_eq_true, decide_eq_true_eq]
  omega

/-- The quota of one subscriber after an edit: for those who follow the plan, the
old one where it was lowered and the new one elsewhere. -/
theorem effectiveQuota_afterEdit (known : plan ∈ store.plans)
    (plans : ∀ other, after.plans.find? other =
      if other = plan.id then some (changes.apply plan) else store.plans.find? other) :
    after.effectiveQuota field (row.afterEdit plan changes) =
      if row.plan = plan.id ∧ row.override field = none ∧ plan.lowers changes field = false then
        (changes.quota field).getD (plan.quota field)
      else store.effectiveQuota field row := by
  have lookup : store.plans.find? plan.id = some plan :=
    Table.find?_eq_some_iff.mpr ⟨known, rfl⟩
  have followed : after.planQuota (fun plan => plan.quota field) (row.afterEdit plan changes) =
      if row.plan = plan.id then (changes.quota field).getD (plan.quota field)
      else store.planQuota (fun plan => plan.quota field) row := by
    rw [Store.planQuota, afterEdit_plan, plans]
    split
    · exact quota_apply
    · rfl
  have overridden : (row.afterEdit plan changes).override field =
      if row.plan = plan.id ∧ plan.lowers changes field = true then
        some ((row.override field).getD (plan.quota field))
      else row.override field := by
    rw [Subscription.afterEdit]
    rcases eq_or_ne row.plan plan.id with mine | apart
    · rw [if_pos mine, override_freeze]
      simp [mine, mem_quotaFields]
    · simp [apart]
  rw [Store.effectiveQuota, overridden, followed, Store.effectiveQuota]
  rcases eq_or_ne row.plan plan.id with mine | apart
  · have before : store.planQuota (fun plan => plan.quota field) row = plan.quota field := by
      simp [Store.planQuota, mine, lookup]
    cases lowered : plan.lowers changes field with
    | true => simp [mine, before]
    | false =>
        cases held : row.override field with
        | none => simp [mine]
        | some quota => simp
  · simp [apart]

/-- No edit takes anything from a subscriber. -/
theorem allowance_afterEdit_le (known : plan ∈ store.plans)
    (plans : ∀ other, after.plans.find? other =
      if other = plan.id then some (changes.apply plan) else store.plans.find? other) :
    allowance (store.effectiveQuota field row) ≤
      allowance (after.effectiveQuota field (row.afterEdit plan changes)) := by
  rw [effectiveQuota_afterEdit known plans]
  split
  · rename_i follows
    obtain ⟨mine, free, kept⟩ := follows
    have lookup : store.plans.find? plan.id = some plan :=
      Table.find?_eq_some_iff.mpr ⟨known, rfl⟩
    have before : store.effectiveQuota field row = plan.quota field := by
      simp [Store.effectiveQuota, Store.planQuota, free, mine, lookup]
    rw [before]
    cases changed : changes.quota field with
    | none => exact le_refl _
    | some value =>
        have notLowered := (not_congr (lowers_iff changed)).mp (Bool.not_eq_true _ ▸ kept)
        exact not_lt.mp (not_or.mp notLowered).1
  · exact le_refl _

/-- Existing clients keep what they had and get every rise exactly where no
quota is made unlimited under a subscriber who follows it. -/
theorem plan_edit_fair_iff (store : Store) (key : Nat) (changes : PlanChanges) :
    store.EditFair key changes ↔ store.NoneMadeUnlimited key changes := by
  rw [Store.EditFair, Store.NoneMadeUnlimited]
  cases done : store.updatePlan key changes with
  | error failure =>
      refine iff_of_true trivial fun plan found => ?_
      rw [Store.updatePlan, require_eq_ok.mpr found] at done
      cases done
  | ok result =>
      obtain ⟨after, frozen⟩ := result
      obtain ⟨plan, known, rfl, plans, rows⟩ := updatePlan_writes done
      have lookup : store.plans.find? plan.id = some plan :=
        Table.find?_eq_some_iff.mpr ⟨known, rfl⟩
      have mem_after {row : Subscription} (member : row ∈ store.subscriptions) :
          row.afterEdit plan changes ∈ after.subscriptions := by
        rw [Table.mem_def, rows]
        exact List.mem_map_of_mem member
      have id_after (row : Subscription) : (row.afterEdit plan changes).id = row.id := by
        rw [Subscription.afterEdit]
        split
        · exact (freeze_frame _ _ _).1
        · rfl
      have kept : KeepsQuotas store after := fun row member =>
        ⟨_, mem_after member, id_after row, fun _ => allowance_afterEdit_le known plans⟩
      dsimp only
      rw [and_iff_right kept, lookup]
      simp only [Option.mem_some_iff, forall_eq']
      constructor
      · intro passes field bounded unlimited row member mine free
        have rises : allowance (plan.quota field) < allowance 0 :=
          allowance_lt_iff.mpr ⟨bounded, Or.inl rfl⟩
        have raised := passes field 0 unlimited rises row member mine free _ (mem_after member)
          (id_after row)
        have lowered : plan.lowers changes field = true :=
          (lowers_iff unlimited).mpr (Or.inr ⟨bounded, rfl⟩)
        rw [effectiveQuota_afterEdit known plans, if_neg (by simp [lowered])] at raised
        simp [Store.effectiveQuota, Store.planQuota, free, mine, lookup, bounded] at raised
      · intro none field value changed rises row member mine free later inside sameId
        obtain rfl : later = row.afterEdit plan changes :=
          Table.ident_injective inside (mem_after member) (sameId.trans (id_after row).symm)
        have kept : plan.lowers changes field = false := by
          rw [← Bool.not_eq_true, lowers_iff changed, not_or]
          refine ⟨not_lt.mpr rises.le, ?_⟩
          rintro ⟨bounded, rfl⟩
          exact none field bounded changed row member mine free
        rw [effectiveQuota_afterEdit known plans, if_pos ⟨mine, free, kept⟩, changed]
        rfl

end Edits

/-! ## An offer made unlimited -/

/-- One client of the catalogue, on its only plan. -/
def soloClient : Store := soloCatalogue.step soloSettings (0, .startTrial 1 none none none)

/-- The client keeps its three users when the plan goes from three to unlimited. -/
theorem unlimited_not_passed_on : ¬ soloClient.EditFair 0 { maxUsers := some 0 } := by
  intro fair
  have passes := fair.2 _ rfl .maxUsers 0 rfl (allowance_lt_iff.mpr (by decide))
  have raised := passes _ (List.mem_singleton_self _) rfl rfl _ (List.mem_singleton_self _) rfl
  exact absurd raised (by decide)

end RssiService.Billing
