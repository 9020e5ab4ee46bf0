import RssiService.Billing.Operations
import RssiService.PlatformAdmin.Settings
import RssiService.ThreatIntelligence.SecretLifecycle

/-!
# What a setting governs

The registry is the source of the operating settings, and the guards on the capacity read it.
The opening of a trial, the purges and the registration of a monitored asset read the
environment file, and so does the retention policy that a client is shown: a change made in
the console does not reach them.
-/

namespace RssiService.PlatformAdmin

open Foundation.Run Python
open ThreatIntelligence (PoolSettings RetentionSettings)

/-! ## Governed operations -/

/-- The operations that a setting governs. -/
inductive Governed where
  | trialLength
  | trialPlan
  | secretPurge
  | revealAuditPurge
  | assetPool
  | slotGuard
  | scanGuard
  deriving DecidableEq, Repr

def Governed.setting : Governed → SettingKey
  | .trialLength => .trialDays
  | .trialPlan => .trialPlanCode
  | .secretPurge => .secretRetentionDays
  | .revealAuditPurge => .revealAuditRetentionDays
  | .assetPool => .monitoredSlotPool
  | .slotGuard => .monitoredSlotPool
  | .scanGuard => .monthlyScanCap

/-- The value an operation reads: `settings.NAME`, or `settings_registry.get`. -/
def Governed.read (env : Environment) (store : SettingsStore) : Governed → Value
  | .trialLength => .int env.billingTrialDays
  | .trialPlan => .text env.billingDefaultTrialPlanCode
  | .secretPurge => .int env.breachSecretRetentionDays
  | .revealAuditPurge => .int env.breachRevealAuditRetentionDays
  | .assetPool => .int env.breachsenseMonitoredAssetPoolSize
  | .slotGuard => (store.get env .monitoredSlotPool).1
  | .scanGuard => (store.get env .monthlyScanCap).1

/-- What the registry answers for an operation. -/
def Governed.answer (env : Environment) (store : SettingsStore) (operation : Governed) : Value :=
  (store.get env operation.setting).1

def Value.toNat (value : Value) : Nat := value.toInt.toNat

def Value.toText : Value → String
  | .text value => value
  | .none | .int _ | .bool _ => ""

/-- The settings of the billing operations, from what each of them reads. -/
def billingSettings (read : Governed → Value) : Billing.Settings where
  monitoredSlotPool := (read .slotGuard).toNat
  defaultTrialPlanCode := (read .trialPlan).toText
  trialDays := (read .trialLength).toNat

def retentionSettings (read : Governed → Value) : RetentionSettings where
  breachSecretRetentionDays := (read .secretPurge).toNat
  breachRevealAuditRetentionDays := (read .revealAuditPurge).toNat

def poolSettings (webhookCallbackUrl : String) (read : Governed → Value) : PoolSettings where
  webhookCallbackUrl := webhookCallbackUrl
  monitoredAssetPoolSize := (read .assetPool).toNat
  billing := billingSettings read

/-! ## What is shown -/

/-- The retention policy a client is shown. -/
structure RetentionPolicy where
  secretRetentionDays : Value
  revealAuditRetentionDays : Value
  deriving DecidableEq, Repr

def retentionPolicy (env : Environment) : RetentionPolicy where
  secretRetentionDays := .int env.breachSecretRetentionDays
  revealAuditRetentionDays := .int env.breachRevealAuditRetentionDays

/-- The capacity of the pool, in the summary that the console is shown of it. -/
def poolSummaryCapacity (env : Environment) : Value := .int env.breachsenseMonitoredAssetPoolSize

/-- Every governed operation uses the value of the registry, which is the one that the
console and the client are shown. -/
structure SettingsStore.Agrees (env : Environment) (store : SettingsStore) : Prop where
  used : ∀ operation : Governed, operation.read env store = operation.answer env store
  operator : ∀ row ∈ (store.describe env).1, row.value = (store.get env row.spec.key).1
  pool : poolSummaryCapacity env = (store.get env .monitoredSlotPool).1
  client : retentionPolicy env =
    ⟨(store.get env .secretRetentionDays).1, (store.get env .revealAuditRetentionDays).1⟩

/-- Where they agree, the operations run with the settings of the registry. -/
theorem SettingsStore.Agrees.settings {env : Environment} {store : SettingsStore}
    (agrees : store.Agrees env) (webhookCallbackUrl : String) :
    billingSettings (Governed.read env store) = billingSettings (Governed.answer env store) ∧
      retentionSettings (Governed.read env store) =
        retentionSettings (Governed.answer env store) ∧
      poolSettings webhookCallbackUrl (Governed.read env store) =
        poolSettings webhookCallbackUrl (Governed.answer env store) := by
  have same : Governed.read env store = Governed.answer env store := funext agrees.used
  rw [same]
  exact ⟨rfl, rfl, rfl⟩

/-! ## Where the environment is read -/

/-- The settings whose operations read the environment file. -/
def environmentKeys : List SettingKey :=
  [.trialDays, .trialPlanCode, .secretRetentionDays, .revealAuditRetentionDays, .monitoredSlotPool]

/-- A change of a setting that is read in the environment gives it the value it has there. -/
def Registry.Fits (conversions : Conversions) (env : Environment) (_ : Registry) :
    SettingEvent → Prop
  | .update name raw _ =>
      ∀ key ∈ environmentKeys, ∀ value, SettingKey.ofName? name = some key →
        key.spec.coerce conversions raw = .ok value → value = fallback env key.spec
  | .reset _ | .read _ | .expire => True

section Steps

variable {conversions : Conversions} {env : Environment} {registry : Registry}

/-- An operation agrees with the registry exactly where it reads it, or where its setting has
the value of the environment file. -/
theorem read_eq_answer_iff (registry : Registry) (operation : Governed) :
    operation.read env registry.store = operation.answer env registry.store ↔
      operation = .slotGuard ∨ operation = .scanGuard ∨
        registry.current env operation.setting = fallback env operation.setting.spec := by
  rw [Governed.answer, registry.get_eq_current]
  cases operation with
  | slotGuard => exact iff_of_true (registry.get_eq_current env _) (Or.inl rfl)
  | scanGuard => exact iff_of_true (registry.get_eq_current env _) (Or.inr (Or.inl rfl))
  | trialLength | trialPlan | secretPurge | revealAuditPurge | assetPool =>
      refine Iff.trans eq_comm (Iff.symm ?_)
      simp only [reduceCtorEq, false_or]
      rfl

theorem agrees_iff (registry : Registry) :
    registry.store.Agrees env ↔
      ∀ key ∈ environmentKeys, registry.current env key = fallback env key.spec := by
  constructor
  · intro agrees key listed
    have settled (operation : Governed) (slot : operation ≠ .slotGuard)
        (scan : operation ≠ .scanGuard) :
        registry.current env operation.setting = fallback env operation.setting.spec := by
      rcases (read_eq_answer_iff registry operation).mp (agrees.used operation) with
        same | same | settled
      · exact absurd same slot
      · exact absurd same scan
      · exact settled
    simp only [environmentKeys, List.mem_cons, List.not_mem_nil, or_false] at listed
    rcases listed with rfl | rfl | rfl | rfl | rfl
    · exact settled .trialLength nofun nofun
    · exact settled .trialPlan nofun nofun
    · exact settled .secretPurge nofun nofun
    · exact settled .revealAuditPurge nofun nofun
    · exact settled .assetPool nofun nofun
  · intro settled
    refine ⟨?_, ?_, ?_, ?_⟩
    · intro operation
      refine (read_eq_answer_iff registry operation).mpr ?_
      cases operation with
      | slotGuard => exact Or.inl rfl
      | scanGuard => exact Or.inr (Or.inl rfl)
      | trialLength | trialPlan | secretPurge | revealAuditPurge | assetPool =>
          exact Or.inr (Or.inr (settled _ (by decide)))
    · intro row shown
      rw [registry.get_eq_current]
      exact Registry.value_of_mem_describe shown
    · rw [registry.get_eq_current, settled .monitoredSlotPool (by decide)]
      rfl
    · rw [registry.get_eq_current, registry.get_eq_current,
        settled .secretRetentionDays (by decide), settled .revealAuditRetentionDays (by decide)]
      rfl

theorem agrees_congr {after : Registry} (agrees : registry.store.Agrees env)
    (same : after.store.rows = registry.store.rows) : after.store.Agrees env := by
  rw [agrees_iff, Registry.current_congr same]
  exact (agrees_iff registry).mp agrees

/-- Once one row is written, the operations agree where the written value is that of the
environment file, or where they do not read it there. -/
theorem agrees_written_iff {after : Registry} {key : SettingKey} {row : Option PlatformSetting}
    (agrees : registry.store.Agrees env)
    (written : after.store.rows = Function.update registry.store.rows key row) :
    after.store.Agrees env ↔
      (key ∈ environmentKeys →
        (row.map PlatformSetting.value).getD (fallback env key.spec) = fallback env key.spec) := by
  rw [agrees_iff]
  constructor
  · intro settled listed
    have now := settled key listed
    rw [Registry.current_of_written written, if_pos rfl] at now
    exact now
  · intro fits other listed
    rw [Registry.current_of_written written]
    split
    · rename_i same
      subst same
      exact fits listed
    · exact (agrees_iff registry).mp agrees other listed

theorem agrees_update_iff (agrees : registry.store.Agrees env) (name : String) (raw : Json)
    (actor : Option Nat) :
    (registry.step conversions env (.update name raw actor)).store.Agrees env ↔
      registry.Fits conversions env (.update name raw actor) := by
  rcases SettingsStore.updateSetting_rows conversions env registry.store name raw actor with
    ⟨same, refused⟩ | ⟨key, value, known, coerced, written⟩
  · refine iff_of_true (agrees_congr agrees same) ?_
    intro key _ value known coerced
    exact absurd coerced (refused key value known)
  · rw [agrees_written_iff agrees written, Registry.Fits]
    constructor
    · intro settled other listed entered same accepted
      obtain rfl := Option.some.inj (known.symm.trans same)
      cases coerced.symm.trans accepted
      exact settled listed
    · intro fits listed
      exact fits key listed value known coerced

theorem agrees_step_iff (agrees : registry.store.Agrees env) (event : SettingEvent) :
    (registry.step conversions env event).store.Agrees env ↔
      registry.Fits conversions env event := by
  cases event with
  | update name raw actor => exact agrees_update_iff agrees name raw actor
  | reset name =>
      refine iff_of_true ?_ trivial
      rcases SettingsStore.resetSetting_rows registry.store name with same | ⟨key, _, written⟩
      · exact agrees_congr agrees same
      · exact (agrees_written_iff agrees written).mpr fun _ => rfl
  | read key =>
      exact iff_of_true (agrees_congr agrees (SettingsStore.stored_rows registry.store)) trivial
  | expire => exact iff_of_true (agrees_congr agrees rfl) trivial

end Steps

/-- Over every sequence of changes and resets, the governed operations use the value of the
registry, which is the one shown, exactly where they did at first and every change of a setting
that is read in the environment file gives it the value it has there. -/
theorem agrees_always_iff (conversions : Conversions) (env : Environment) (start : Registry)
    (events : List SettingEvent) :
    Always (Registry.step conversions env) (fun registry => registry.store.Agrees env) start
        events ↔
      start.store.Agrees env ∧
        EachStep (Registry.step conversions env) (Registry.Fits conversions env) start events :=
  always_iff_start_and_eachStep (fun _ event agrees => agrees_step_iff agrees event) start events

/-! ## A trial of the former length -/

def freshRegistry : Registry where
  store := ⟨fun _ => none, none⟩
  coherent := SettingsStore.coherent_of_cold rfl
  accepted := nofun

/-- The console sets trials to thirty days; a trial that opens then lasts fourteen. -/
theorem trial_keeps_former_length :
    ¬ Always (Registry.step plainConversions defaultEnvironment)
      (fun registry => registry.store.Agrees defaultEnvironment) freshRegistry
      [.update "trial_days" (.int 30) none] := by
  intro always
  have read := always.last.used .trialLength
  exact absurd read (by decide +kernel)

end RssiService.PlatformAdmin
