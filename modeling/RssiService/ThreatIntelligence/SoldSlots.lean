import RssiService.Billing.Commitment
import RssiService.ThreatIntelligence.RegistryAgreement

/-!
# Slots sold and slots used

A registration is checked against the quota of the tenant, and the quota is what
its subscription contributes to the commitment of the platform.  The two part
on the quota 0: it lets every registration through and contributes nothing.
-/

namespace RssiService.ThreatIntelligence

open Foundation Foundation.Outcome Foundation.Run Python
open Monitoring (Asset)

/-! ## What a subscription contributes -/

/-- The part of the commitment that goes when the subscription of the tenant is
left out of it. -/
def Platform.contributed (platform : Platform) (tenant : Nat) : Nat :=
  match platform.billing.getSubscription tenant with
  | none => 0
  | some subscription =>
      platform.billing.projectedMonitoredSlots 0 none -
        platform.billing.projectedMonitoredSlots 0 (some subscription.id)

/-- The slots a tenant occupies with the provider. -/
def Platform.occupied (platform : Platform) (tenant : Nat) : Nat :=
  platform.activeCount fun row => row.tenant = tenant

/-- After a registration that succeeds, the tenant occupies at most what its
subscription contributes. -/
def SoldBoundsUsed (unicode : Unicode) (settings : PoolSettings) (platform : Platform) :
    PoolEvent → Prop
  | .register entry tenant asset now answer =>
      let next := poolStep unicode settings platform (.register entry tenant asset now answer)
      (postMonitored unicode settings platform entry tenant asset now answer).2 = .ok () →
        next.occupied tenant ≤ next.contributed tenant
  | _ => True

/-- No registration that everything allows, and that the provider and the table
accept, is made under an unlimited quota. -/
def QuotaFinite (unicode : Unicode) (settings : PoolSettings) (platform : Platform) :
    PoolEvent → Prop
  | .register entry tenant asset _ answer =>
      ∀ found domain ref, Granted unicode settings platform entry tenant asset found domain →
        answer.outcome = .ok ref → platform.insertable found.id ref = true →
        ∀ subscription, platform.billing.getSubscription tenant = some subscription →
          platform.billing.monitoredAssetsQuota subscription ≠ 0
  | _ => True

section Registrations

variable {unicode : Unicode} {settings : PoolSettings} {platform : Platform} {entry : EntryPoint}
  {tenant asset now : Nat} {answer : Answer String} {found : Asset} {domain ref : String}
  {subscription : Billing.Subscription}

theorem contributed_eq (mine : platform.billing.getSubscription tenant = some subscription) :
    platform.contributed tenant = platform.billing.committedBy subscription := by
  have member : subscription ∈ platform.billing.subscriptions := List.mem_of_find?_eq_some mine
  have apart := Billing.projected_excluding member 0
  have whole := Billing.projected_none platform.billing 0
  rw [Platform.contributed, mine]
  dsimp only
  omega

/-- The rights granted at either entry point: an operational subscription whose
quota is unlimited or not used up. -/
theorem subscription_of_entitled (entitled : platform.entitled settings tenant entry = .ok ()) :
    ∃ subscription, platform.billing.getSubscription tenant = some subscription ∧
      subscription.isOperational = true ∧
      (platform.billing.monitoredAssetsQuota subscription = 0 ∨
        platform.occupied tenant < platform.billing.monitoredAssetsQuota subscription) := by
  have checks : ∃ action, platform.billing.ensureOperational tenant action = .ok () ∧
      platform.billing.ensureMonitoredAssetQuota tenant (platform.occupied tenant) = .ok () := by
    have unwrap {Error : Type} {result : Except Error Unit} {wrap : Error → Refusal}
        (granted : result.mapError wrap = .ok ()) : result = .ok () := by
      cases result with
      | error refused => cases granted
      | ok done => rfl
    cases entry with
    | tenantView =>
        obtain ⟨_, operational, rest⟩ := bind_eq_ok.mp entitled
        obtain ⟨_, _, quota⟩ := bind_eq_ok.mp rest
        exact ⟨_, unwrap operational, unwrap quota⟩
    | console =>
        obtain ⟨_, operational, rest⟩ := bind_eq_ok.mp entitled
        obtain ⟨_, quota, _⟩ := bind_eq_ok.mp rest
        exact ⟨_, unwrap operational, unwrap quota⟩
  obtain ⟨action, operational, quota⟩ := checks
  cases mine : platform.billing.getSubscription tenant with
  | none =>
      rw [Billing.Store.ensureOperational, mine] at operational
      cases operational
  | some subscription =>
      rw [Billing.Store.ensureOperational, mine] at operational
      rw [Billing.Store.ensureMonitoredAssetQuota, mine] at quota
      dsimp only at operational quota
      refine ⟨subscription, rfl, ?_, ?_⟩
      · split at operational
        · assumption
        · cases operational
      · split at quota
        · cases quota
        · omega

/-- A registration succeeds where everything allows it and the provider and the
table accept it. -/
theorem postMonitored_ok_iff :
    (postMonitored unicode settings platform entry tenant asset now answer).2 = .ok () ↔
      ∃ found domain ref, Granted unicode settings platform entry tenant asset found domain ∧
        answer.outcome = .ok ref ∧ platform.insertable found.id ref = true := by
  rw [postMonitored]
  cases lookup : platform.getAsset tenant asset with
  | none =>
      refine iff_of_false (by rintro ⟨⟩) ?_
      rintro ⟨_, _, _, granted, _⟩
      exact absurd granted.asset_eq (by simp [lookup])
  | some found =>
      dsimp only
      cases rights : platform.entitled settings tenant entry with
      | error refusal =>
          refine iff_of_false (by rintro ⟨⟩) ?_
          rintro ⟨_, _, _, granted, _⟩
          exact absurd granted.entitled (by simp [rights])
      | ok granted =>
          dsimp only
          rw [registerMonitoredAsset]
          cases guarded : platform.registrationGuard unicode settings tenant found with
          | error refusal =>
              refine iff_of_false (by rintro ⟨⟩) ?_
              rintro ⟨other, _, _, granted, _⟩
              obtain rfl := Option.some.inj (lookup.symm.trans granted.asset_eq)
              exact absurd granted.guarded (by simp [guarded])
          | ok domain =>
              dsimp only
              cases answered : answer.outcome with
              | error fault => cases fault <;> exact iff_of_false (by rintro ⟨⟩) (by simp)
              | ok ref =>
                  dsimp only
                  rw [Platform.insertable, monitored_registered, ← Platform.insertable]
                  cases free : platform.insertable found.id ref with
                  | true => exact iff_of_true rfl ⟨found, domain, ref, ⟨lookup, rights, guarded⟩,
                      rfl, free⟩
                  | false =>
                      refine iff_of_false (by rintro ⟨⟩) ?_
                      rintro ⟨other, _, ref', granted, same, free'⟩
                      obtain rfl := Option.some.inj (lookup.symm.trans granted.asset_eq)
                      obtain rfl := Except.ok.inj same
                      rw [free] at free'
                      cases free'

/-- A successful registration adds one slot to those of its tenant. -/
theorem occupied_insertMonitored (applied : Bool) (key : Nat) :
    ((platform.registered applied domain).insertMonitored tenant key ref now).occupied tenant =
      platform.occupied tenant + 1 := by
  have rows : ((platform.registered applied domain).insertMonitored tenant key ref
      now).monitored.rows = platform.monitored.rows ++
        [⟨platform.monitored.next, tenant, key, defaultProvider, ref, "domain", now, true⟩] := by
    cases applied <;> rfl
  simp [Platform.occupied, Platform.activeCount, rows]

theorem soldBoundsUsed_iff (event : PoolEvent) :
    SoldBoundsUsed unicode settings platform event ↔
      QuotaFinite unicode settings platform event := by
  cases event with
  | register entry tenant asset now answer =>
      rw [SoldBoundsUsed, QuotaFinite, postMonitored_ok_iff]
      -- one registration at a time, with the subscription that allowed it
      have exact_here {found : Asset} {domain ref : String}
          (granted : Granted unicode settings platform entry tenant asset found domain)
          (answered : answer.outcome = .ok ref) (free : platform.insertable found.id ref = true) :
          (poolStep unicode settings platform
                (.register entry tenant asset now answer)).occupied tenant ≤
              (poolStep unicode settings platform
                (.register entry tenant asset now answer)).contributed tenant ↔
            ∀ subscription, platform.billing.getSubscription tenant = some subscription →
              platform.billing.monitoredAssetsQuota subscription ≠ 0 := by
        obtain ⟨subscription, mine, operational, quota⟩ := subscription_of_entitled granted.entitled
        have billed : ((platform.registered answer.applied domain).insertMonitored tenant found.id
            ref now).contributed tenant = platform.contributed tenant := by
          cases answer.applied <;> rfl
        have share : platform.contributed tenant =
            platform.billing.monitoredAssetsQuota subscription := by
          rw [contributed_eq mine, Billing.Store.committedBy, if_pos operational]
        rw [poolStep, postMonitored_of_granted granted, answered]
        simp only [free, if_true]
        rw [billed, share, occupied_insertMonitored]
        simp only [mine, Option.some.injEq, forall_eq']
        omega
      constructor
      · intro bounded found domain ref granted answered free
        exact (exact_here granted answered free).mp
          (bounded ⟨found, domain, ref, granted, answered, free⟩)
      · rintro finite ⟨found, domain, ref, granted, answered, free⟩
        exact (exact_here granted answered free).mpr
          (finite found domain ref granted answered free)
  | _ => exact Iff.rfl

end Registrations

/-! ## Whole runs -/

/-- Over any run, every successful registration leaves its tenant within what
its subscription contributes exactly where none is made under an unlimited quota. -/
theorem sold_bounds_used_iff (unicode : Unicode) (settings : PoolSettings) (start : Platform)
    (events : List PoolEvent) :
    EachStep (poolStep unicode settings) (SoldBoundsUsed unicode settings) start events ↔
      EachStep (poolStep unicode settings) (QuotaFinite unicode settings) start events :=
  eachStep_congr_of_forall (fun _ event => soldBoundsUsed_iff event) start events

/-! A tenant whose plan is unlimited. -/

section Unlimited

def poolSettings : PoolSettings where
  webhookCallbackUrl := "https://rssi.example/webhooks"
  monitoredAssetPoolSize := 1
  billing := { Billing.soloSettings with monitoredSlotPool := 1 }

/-- A catalogue whose only plan has real-time monitoring of a number of assets. -/
def monitoringCatalogue (monitoredAssets : Nat) : Billing.Store :=
  { Billing.soloCatalogue with
    plans := Billing.soloCatalogue.plans.updateWhere (fun _ => true)
      (fun plan => { plan with monitoredAssets, features := [Billing.realtimeMonitoring] })
      (fun _ => rfl) }

/-- The subscriptions after a few billing operations. -/
def billed (monitoredAssets : Nat) (operations : List Billing.Operation) : Billing.Store :=
  after (Billing.Store.step poolSettings.billing) (monitoringCatalogue monitoredAssets)
    (operations.map fun operation => (0, operation))

/-- Two tenants, each with one verified domain. -/
def twoDomains (billing : Billing.Store) : Platform where
  assets := (Table.empty.create
      (fun key => { id := key, tenant := 1, type := .emailDomain, value := "un.fr",
                    isActive := true }) (fun _ => rfl)).create
      (fun key => { id := key, tenant := 2, type := .emailDomain, value := "deux.fr",
                    isActive := true }) (fun _ => rfl)
  proven := [0, 1]
  monitored := Table.empty
  billing
  registry := ∅

theorem unlimited_contributes_nothing :
    ¬ EachStep (poolStep acmeUnicode poolSettings) (SoldBoundsUsed acmeUnicode poolSettings)
      (twoDomains (billed 0 [.startTrial 1 none none none]))
      [.register .tenantView 1 0 0 ⟨true, .ok "un.fr"⟩] := by
  intro bounded
  exact absurd (bounded.1 (by decide +kernel)) (by decide +kernel)

end Unlimited

end RssiService.ThreatIntelligence
