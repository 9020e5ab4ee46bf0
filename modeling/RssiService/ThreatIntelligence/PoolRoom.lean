import RssiService.Billing.PlanEdits
import RssiService.Foundation.Counting
import RssiService.ThreatIntelligence.SoldSlots

/-!
# Room in the provider pool

What is sold is counted in quotas of operational subscriptions; what is used is
counted in active rows of all tenants.  A tenant whose subscription has stopped
keeps its rows, so the pool can be full of slots that nobody pays for.
-/

namespace RssiService.ThreatIntelligence

open Foundation Foundation.Run Python
open Monitoring (Asset)

/-! ## Refusals for lack of room -/

def IsLackOfRoom : Except Refusal Unit → Prop
  | .error (.capacity _) => True
  | .error (.threatIntelligence message) => message = monitoringCapacityReached
  | _ => False

/-- The tenant is operational and monitors less than its quota allows. -/
def Platform.HasQuotaLeft (platform : Platform) (tenant : Nat) : Prop :=
  ∃ subscription, platform.billing.getSubscription tenant = some subscription ∧
    subscription.isOperational = true ∧
    (platform.occupied tenant : ℕ∞) <
      Billing.allowance (platform.billing.monitoredAssetsQuota subscription)

/-- A registration is not refused for lack of room while the commitment is
within the capacity and the tenant has quota left. -/
def NotShortOfRoom (unicode : Unicode) (settings : PoolSettings) (platform : Platform) :
    PoolEvent → Prop
  | .register entry tenant asset now answer =>
      platform.billing.monitoredSlotsCommitted ≤ settings.billing.monitoredSlotPool →
        platform.HasQuotaLeft tenant →
        ¬ IsLackOfRoom (postMonitored unicode settings platform entry tenant asset now answer).2
  | _ => True

/-! ## The condition -/

/-- The tenants with a row or a subscription. -/
def Platform.tenants (platform : Platform) : Finset Nat :=
  (platform.monitored.rows.map MonitoredAsset.tenant ++
    platform.billing.subscriptions.rows.map Billing.Subscription.tenant).toFinset

/-- What a tenant contributes to the commitment. -/
def Platform.contribution (platform : Platform) (tenant : Nat) : Nat :=
  platform.billing.subscriptions.total fun subscription =>
    if subscription.tenant = tenant then platform.billing.committedBy subscription else 0

/-- The rows that no operational subscription pays for. -/
def Platform.uncovered (platform : Platform) : Nat :=
  ∑ tenant ∈ platform.tenants, (platform.occupied tenant - platform.contribution tenant)

/-- The slots that are paid for and not used. -/
def Platform.unused (platform : Platform) : Nat :=
  ∑ tenant ∈ platform.tenants, (platform.contribution tenant - platform.occupied tenant)

/-- Nothing but the pool can refuse the asset before the provider is called. -/
structure ReachesPool (settings : PoolSettings) (platform : Platform) (entry : EntryPoint)
    (tenant : Nat) (asset : Asset) : Prop where
  feature : entry = .tenantView →
    platform.billing.hasFeature tenant Billing.realtimeMonitoring = true
  proven : platform.isOwnershipProven asset = true
  unmonitored : ∀ row ∈ platform.monitored, row.asset = asset.id → row.isActive = false
  webhook : settings.webhookCallbackUrl ≠ ""

/-- What a registration needs: at the console a slot more than what is sold, in
the pool a slot left by what is sold and by what is used without being sold, and
a provider that is not full. -/
structure HasRoom (unicode : Unicode) (settings : PoolSettings) (platform : Platform)
    (entry : EntryPoint) (tenant : Nat) (asset : Asset) (answer : Answer String) : Prop where
  slots : entry = .console →
    platform.billing.monitoredSlotsCommitted < settings.billing.monitoredSlotPool
  pool : ReachesPool settings platform entry tenant asset →
    platform.billing.monitoredSlotsCommitted + platform.uncovered <
      settings.monitoredAssetPoolSize + platform.unused
  provider : ReachesPool settings platform entry tenant asset →
    (assetDomain unicode asset).isSome = true → answer.outcome ≠ .error .poolFull

/-- A registration of a known asset, by a tenant with quota left, has room. -/
def RoomLeft (unicode : Unicode) (settings : PoolSettings) (platform : Platform) :
    PoolEvent → Prop
  | .register entry tenant asset _ answer =>
      platform.billing.monitoredSlotsCommitted ≤ settings.billing.monitoredSlotPool →
        platform.HasQuotaLeft tenant →
        ∀ found, platform.getAsset tenant asset = some found →
          HasRoom unicode settings platform entry tenant found answer
  | _ => True

/-! ## Used and sold -/

section Accounts

variable {platform : Platform}

theorem activeCount_eq_sum :
    platform.activeCount (fun _ => true) =
      ∑ tenant ∈ platform.tenants, platform.occupied tenant := by
  rw [Platform.activeCount, countP_eq_sum_groups _ MonitoredAsset.tenant platform.tenants]
  · simp only [Bool.and_true]
    rfl
  · intro row member
    rw [Platform.tenants, List.mem_toFinset]
    exact List.mem_append_left _ (List.mem_map_of_mem member)

theorem committed_eq_sum :
    platform.billing.monitoredSlotsCommitted =
      ∑ tenant ∈ platform.tenants, platform.contribution tenant := by
  rw [Billing.monitoredSlotsCommitted_eq_total, Table.total,
    sum_map_eq_sum_groups _ Billing.Subscription.tenant platform.tenants]
  · rfl
  · intro row member
    rw [Platform.tenants, List.mem_toFinset]
    exact List.mem_append_right _ (List.mem_map_of_mem member)

/-- What is used and paid for makes what is sold: the rows and the unused slots
are the commitment and the rows that nobody pays for. -/
theorem activeCount_add_unused :
    platform.activeCount (fun _ => true) + platform.unused =
      platform.billing.monitoredSlotsCommitted + platform.uncovered := by
  rw [activeCount_eq_sum, committed_eq_sum]
  exact sum_add_excess platform.tenants platform.occupied platform.contribution

/-- The pool has a slot left exactly where the commitment and the rows nobody
pays for leave one. -/
theorem poolCapacityRemaining_ne_zero_iff {settings : PoolSettings} :
    platform.poolCapacityRemaining settings ≠ 0 ↔
      platform.billing.monitoredSlotsCommitted + platform.uncovered <
        settings.monitoredAssetPoolSize + platform.unused := by
  rw [← activeCount_add_unused, Platform.poolCapacityRemaining]
  omega

end Accounts

/-! ## One request -/

section Requests

variable {unicode : Unicode} {settings : PoolSettings} {platform : Platform} {tenant now : Nat}
  {asset : Asset} {answer : Answer String}

/-- The guards before the pool: each of them refuses for its own reason. -/
structure PassesGuards (settings : PoolSettings) (platform : Platform) (asset : Asset) : Prop where
  proven : platform.isOwnershipProven asset = true
  unmonitored : ∀ row ∈ platform.monitored, row.asset = asset.id → row.isActive = false
  webhook : settings.webhookCallbackUrl ≠ ""

theorem monitored_any_iff :
    (platform.monitored.rows.any fun row => row.asset = asset.id && row.isActive) = false ↔
      ∀ row ∈ platform.monitored, row.asset = asset.id → row.isActive = false := by
  simp [Table.mem_def]

/-- What the guard of a registration answers, by the first test that fails. -/
theorem registrationGuard_cases (unicode : Unicode) (settings : PoolSettings)
    (platform : Platform) (owned : asset.tenant = tenant) :
    (¬ PassesGuards settings platform asset ∧ ∃ message, message ≠ monitoringCapacityReached ∧
        platform.registrationGuard unicode settings tenant asset =
          .error (.threatIntelligence message)) ∨
      (PassesGuards settings platform asset ∧
        platform.registrationGuard unicode settings tenant asset =
          if platform.poolCapacityRemaining settings = 0 then
            .error (.threatIntelligence monitoringCapacityReached)
          else (assetDomain unicode asset).elim (.error .malformedValue) .ok) := by
  rw [Platform.registrationGuard, if_neg (not_not.mpr owned)]
  cases proven : platform.isOwnershipProven asset with
  | false =>
      refine Or.inl ⟨fun passes => ?_, ownershipRequired, by decide, rfl⟩
      exact absurd passes.proven (by simp [proven])
  | true =>
      cases monitored : platform.monitored.rows.any
          fun row => row.asset = asset.id && row.isActive with
      | true =>
          refine Or.inl ⟨fun passes => ?_, assetAlreadyMonitored, by decide, rfl⟩
          rw [monitored_any_iff.mpr passes.unmonitored] at monitored
          cases monitored
      | false =>
          by_cases webhook : settings.webhookCallbackUrl = ""
          · refine Or.inl ⟨fun passes => passes.webhook webhook, monitoringUnavailable, by decide, ?_⟩
            simp [webhook]
          · refine Or.inr ⟨⟨proven, monitored_any_iff.mp monitored, webhook⟩, ?_⟩
            simp only [Bool.not_true, Bool.false_eq_true, if_false, if_neg webhook]
            split
            · rfl
            · cases assetDomain unicode asset <;> rfl

/-- A registration lacks room where the pool is full, or where the provider says so. -/
theorem lackOfRoom_register_iff (owned : asset.tenant = tenant) :
    IsLackOfRoom (registerMonitoredAsset unicode settings platform tenant asset now answer).2 ↔
      PassesGuards settings platform asset ∧
        (platform.poolCapacityRemaining settings = 0 ∨
          ((assetDomain unicode asset).isSome = true ∧ answer.outcome = .error .poolFull)) := by
  rcases registrationGuard_cases unicode settings platform owned with
    ⟨fails, message, other, guarded⟩ | ⟨passes, guarded⟩
  · rw [registerMonitoredAsset, guarded]
    exact iff_of_false other fun lacks => fails lacks.1
  · rw [registerMonitoredAsset, guarded, and_iff_right passes]
    by_cases full : platform.poolCapacityRemaining settings = 0
    · rw [if_pos full]
      exact iff_of_true rfl (Or.inl full)
    · rw [if_neg full, or_iff_right full]
      cases domain : assetDomain unicode asset with
      | none => exact iff_of_false id fun named => by cases named.1
      | some domain =>
          dsimp only [Option.elim]
          rw [and_iff_right Option.isSome_some]
          cases answered : answer.outcome with
          | error fault =>
              cases fault with
              | poolFull => exact iff_of_true rfl rfl
              | notConfigured =>
                  refine iff_of_false (?_ : monitoringUnavailable ≠ monitoringCapacityReached) ?_
                  · decide
                  · simp
              | failed message => exact iff_of_false id (by simp)
          | ok ref =>
              dsimp only
              split
              · exact iff_of_false id (by simp)
              · exact iff_of_false id (by simp)

/-- Quota left passes the checks of the subscription. -/
theorem ensured_of_hasQuotaLeft (left : platform.HasQuotaLeft tenant) (action : String) :
    platform.billing.ensureOperational tenant action = .ok () ∧
      platform.billing.ensureMonitoredAssetQuota tenant
        (platform.activeCount fun row => row.tenant = tenant) = .ok () := by
  obtain ⟨subscription, found, operational, below⟩ := left
  refine ⟨by simp [Billing.Store.ensureOperational, found, operational], ?_⟩
  rw [Billing.Store.ensureMonitoredAssetQuota, found]
  dsimp only
  rw [if_neg]
  rintro ⟨bounded, reached⟩
  rw [Billing.allowance, if_neg bounded, Nat.cast_lt] at below
  exact absurd below (Nat.not_lt.mpr reached)

/-- With quota left, the tenant view asks for the feature. -/
theorem entitled_tenantView (left : platform.HasQuotaLeft tenant) :
    platform.entitled settings tenant .tenantView =
      (platform.billing.ensureFeature tenant Billing.realtimeMonitoring).mapError .entitlement := by
  obtain ⟨operational, quota⟩ := ensured_of_hasQuotaLeft left "La surveillance en temps réel"
  rw [Platform.entitled, operational, quota]
  cases platform.billing.ensureFeature tenant Billing.realtimeMonitoring <;> rfl

/-- With quota left, the console asks for one more slot than what is sold. -/
theorem entitled_console (left : platform.HasQuotaLeft tenant) :
    platform.entitled settings tenant .console =
      (platform.billing.ensureMonitoredSlotsAvailable settings.billing 1 none).mapError
        .capacity := by
  obtain ⟨operational, quota⟩ := ensured_of_hasQuotaLeft left "La surveillance continue"
  rw [Platform.entitled, operational, quota]
  rfl

theorem ensureFeature_cases (platform : Platform) (tenant : Nat) :
    (platform.billing.hasFeature tenant Billing.realtimeMonitoring = true ∧
        platform.billing.ensureFeature tenant Billing.realtimeMonitoring = .ok ()) ∨
      (platform.billing.hasFeature tenant Billing.realtimeMonitoring = false ∧
        ∃ error, platform.billing.ensureFeature tenant Billing.realtimeMonitoring =
          .error error) := by
  rw [Billing.Store.ensureFeature]
  cases offered : platform.billing.hasFeature tenant Billing.realtimeMonitoring with
  | true => exact Or.inl ⟨rfl, rfl⟩
  | false =>
      apply Or.inr
      refine ⟨rfl, ?_⟩
      cases platform.billing.cheapestPlanWith Billing.realtimeMonitoring with
      | none => exact ⟨_, rfl⟩
      | some plan => exact ⟨_, rfl⟩

theorem ensureSlots_cases (platform : Platform) (settings : PoolSettings) :
    (platform.billing.monitoredSlotsCommitted < settings.billing.monitoredSlotPool ∧
        platform.billing.ensureMonitoredSlotsAvailable settings.billing 1 none = .ok ()) ∨
      (¬ platform.billing.monitoredSlotsCommitted < settings.billing.monitoredSlotPool ∧
        ∃ failure, platform.billing.ensureMonitoredSlotsAvailable settings.billing 1 none =
          .error failure) := by
  rw [Billing.Store.ensureMonitoredSlotsAvailable, if_neg Nat.one_ne_zero]
  dsimp only
  rw [Billing.projected_none]
  split
  · rename_i exceeded
    exact Or.inr ⟨by omega, _, rfl⟩
  · rename_i fits
    exact Or.inl ⟨by omega, rfl⟩

theorem passesGuards_iff {entry : EntryPoint} (feature : entry = .tenantView →
      platform.billing.hasFeature tenant Billing.realtimeMonitoring = true) :
    PassesGuards settings platform asset ↔ ReachesPool settings platform entry tenant asset :=
  ⟨fun passes => ⟨feature, passes.proven, passes.unmonitored, passes.webhook⟩,
    fun reaches => ⟨reaches.proven, reaches.unmonitored, reaches.webhook⟩⟩

/-- Past the rights, a registration has what it needs exactly where it does not
lack room. -/
theorem not_lackOfRoom_register_iff {entry : EntryPoint} (owned : asset.tenant = tenant)
    (feature : entry = .tenantView →
      platform.billing.hasFeature tenant Billing.realtimeMonitoring = true)
    (slots : entry = .console →
      platform.billing.monitoredSlotsCommitted < settings.billing.monitoredSlotPool) :
    ¬ IsLackOfRoom (registerMonitoredAsset unicode settings platform tenant asset now answer).2 ↔
      HasRoom unicode settings platform entry tenant asset answer := by
  rw [lackOfRoom_register_iff owned, passesGuards_iff feature, not_and]
  constructor
  · intro fits
    refine ⟨slots, fun reaches => ?_, fun reaches named full => ?_⟩
    · exact poolCapacityRemaining_ne_zero_iff.mp fun full => fits reaches (Or.inl full)
    · exact fits reaches (Or.inr ⟨named, full⟩)
  · rintro room reaches (full | ⟨named, full⟩)
    · exact poolCapacityRemaining_ne_zero_iff.mpr (room.pool reaches) full
    · exact room.provider reaches named full

/-- With quota left, a request for a known asset has what it needs exactly where
it does not lack room. -/
theorem not_lackOfRoom_post_iff {entry : EntryPoint} {key : Nat}
    (left : platform.HasQuotaLeft tenant) (found : platform.getAsset tenant key = some asset) :
    ¬ IsLackOfRoom (postMonitored unicode settings platform entry tenant key now answer).2 ↔
      HasRoom unicode settings platform entry tenant asset answer := by
  have owned : asset.tenant = tenant := by
    have kept := (Option.filter_eq_some_iff.mp found).2
    simpa using kept
  rw [postMonitored, found]
  dsimp only
  cases entry with
  | tenantView =>
      rw [entitled_tenantView left]
      rcases ensureFeature_cases platform tenant with ⟨offered, ensured⟩ |
        ⟨missing, error, ensured⟩
      · rw [ensured]
        exact not_lackOfRoom_register_iff owned (fun _ => offered) (by rintro ⟨⟩)
      · rw [ensured]
        refine iff_of_true id ⟨(by rintro ⟨⟩), fun reaches => ?_, fun reaches => ?_⟩
        · exact absurd (reaches.feature rfl) (by simp [missing])
        · exact absurd (reaches.feature rfl) (by simp [missing])
  | console =>
      rw [entitled_console left]
      rcases ensureSlots_cases platform settings with ⟨slots, ensured⟩ |
        ⟨sold, failure, ensured⟩
      · rw [ensured]
        exact not_lackOfRoom_register_iff owned (by rintro ⟨⟩) fun _ => slots
      · rw [ensured]
        exact iff_of_false (fun fits => fits trivial) fun room => sold (room.slots rfl)

theorem notShortOfRoom_iff (event : PoolEvent) :
    NotShortOfRoom unicode settings platform event ↔ RoomLeft unicode settings platform event := by
  cases event with
  | register entry tenant key now answer =>
      refine imp_congr_right fun _ => imp_congr_right fun left => ?_
      cases found : platform.getAsset tenant key with
      | none =>
          rw [postMonitored, found]
          exact iff_of_true id (by rintro _ ⟨⟩)
      | some asset =>
          rw [not_lackOfRoom_post_iff left found]
          simp
  | _ => exact Iff.rfl

end Requests

/-! ## Whole runs -/

/-- Over any run, no eligible registration is refused for lack of room exactly
where each of them finds room when it is made. -/
theorem never_short_of_room_iff (unicode : Unicode) (settings : PoolSettings)
    (start : Platform) (events : List PoolEvent) :
    EachStep (poolStep unicode settings) (NotShortOfRoom unicode settings) start events ↔
      EachStep (poolStep unicode settings) (RoomLeft unicode settings) start events :=
  eachStep_congr_of_forall (fun _ event => notShortOfRoom_iff event) start events

/-! A suspended tenant keeps the only slot of the pool. -/

section Suspended

/-- The first tenant monitors its domain and is suspended; the second one opens
its trial and registers. -/
def suspendedRun : List PoolEvent :=
  [.bill (billed 1 [.startTrial 1 none none none]),
    .register .tenantView 1 0 0 ⟨true, .ok "un.fr"⟩,
    .bill (billed 1 [.startTrial 1 none none none, .suspend 0 none "",
      .startTrial 2 none none none]),
    .register .tenantView 2 1 0 ⟨true, .ok "deux.fr"⟩]

/-- The platform has sold one slot out of one, and refuses it to its tenant. -/
theorem suspended_keeps_the_pool :
    ¬ EachStep (poolStep acmeUnicode poolSettings) (NotShortOfRoom acmeUnicode poolSettings)
      (twoDomains (billed 1 [])) suspendedRun := by
  intro fits
  have refused : (postMonitored acmeUnicode poolSettings
      (after (poolStep acmeUnicode poolSettings) (twoDomains (billed 1 []))
        (suspendedRun.take 3)) .tenantView 2 1 0
      ⟨true, .ok "deux.fr"⟩).2 = .error (.threatIntelligence monitoringCapacityReached) := by
    decide +kernel
  have last := fits.2.2.2.1
  refine last (by decide +kernel) ⟨_, rfl, rfl, ?_⟩ (refused ▸ rfl)
  have occupied : (after (poolStep acmeUnicode poolSettings) (twoDomains (billed 1 []))
      (suspendedRun.take 3)).occupied 2 = 0 := by decide +kernel
  exact occupied ▸ Nat.cast_lt.mpr Nat.one_pos

end Suspended

end RssiService.ThreatIntelligence
