import Mathlib.Logic.Function.Basic
import RssiService.Python.Json

/-!
# The registry of operating settings

A setting is declared in the code, with its type and its bounds, and its value lives in the
database.  A setting that was never changed falls back on the environment file.  The values
of the database are cached; a change writes the row and invalidates the cache.
-/

namespace RssiService.PlatformAdmin

open Python

/-! ## Declarations -/

inductive SettingKey where
  | monitoredSlotPool
  | scanCooldownMinutes
  | monthlyScanCap
  | trialDays
  | trialPlanCode
  | secretRetentionDays
  | revealAuditRetentionDays
  | alertWarningRatio
  | alertCriticalRatio
  | signupOpen
  | maintenanceMessage
  | ctiMode
  | trashRetentionDays
  deriving DecidableEq, Repr

def SettingKey.name : SettingKey → String
  | .monitoredSlotPool => "monitored_slot_pool"
  | .scanCooldownMinutes => "scan_cooldown_minutes"
  | .monthlyScanCap => "monthly_scan_cap"
  | .trialDays => "trial_days"
  | .trialPlanCode => "trial_plan_code"
  | .secretRetentionDays => "secret_retention_days"
  | .revealAuditRetentionDays => "reveal_audit_retention_days"
  | .alertWarningRatio => "alert_warning_ratio"
  | .alertCriticalRatio => "alert_critical_ratio"
  | .signupOpen => "signup_open"
  | .maintenanceMessage => "maintenance_message"
  | .ctiMode => "cti_mode"
  | .trashRetentionDays => "trash_retention_days"

/-- The settings that exist, in the order of the registry. -/
def registryKeys : List SettingKey :=
  [.monitoredSlotPool, .scanCooldownMinutes, .monthlyScanCap, .trialDays, .trialPlanCode,
    .secretRetentionDays, .revealAuditRetentionDays, .alertWarningRatio, .alertCriticalRatio,
    .signupOpen, .maintenanceMessage, .ctiMode, .trashRetentionDays]

def SettingKey.ofName? (name : String) : Option SettingKey :=
  registryKeys.find? fun key => key.name = name

inductive SettingKind where
  | int
  | bool
  | text
  deriving DecidableEq, Repr

inductive Value where
  | none
  | int (value : Int)
  | bool (value : Bool)
  | text (value : String)
  deriving DecidableEq, Repr

/-- The integer that a setting holds; the texts are read otherwise. -/
def Value.toInt : Value → Int
  | .int value => value
  | .bool value => value.toNat
  | .none | .text _ => 0

structure SettingSpec where
  key : SettingKey
  label : String
  kind : SettingKind
  djangoSetting : String := ""
  default : Value := .none
  minimum : Option Int := .none
  maximum : Option Int := .none
  group : String := "Général"
  sensitive : Bool := false
  deriving DecidableEq, Repr

def SettingKey.spec : SettingKey → SettingSpec
  | .monitoredSlotPool =>
      { key := .monitoredSlotPool, label := "Emplacements de surveillance continue", kind := .int
        djangoSetting := "BREACHSENSE_MONITORED_ASSET_POOL_SIZE"
        minimum := some 0, maximum := some 10000
        group := "Licence de renseignement", sensitive := true }
  | .scanCooldownMinutes =>
      { key := .scanCooldownMinutes, label := "Délai entre deux analyses manuelles (minutes)"
        kind := .int
        djangoSetting := "BREACHSENSE_SCAN_COOLDOWN_MINUTES"
        minimum := some 0, maximum := some 525600
        group := "Licence de renseignement" }
  | .monthlyScanCap =>
      { key := .monthlyScanCap, label := "Analyses ponctuelles par mois", kind := .int
        djangoSetting := "PLATFORM_MONTHLY_SCAN_CAP"
        minimum := some 0, maximum := some 1000000
        group := "Licence de renseignement", sensitive := true }
  | .trialDays =>
      { key := .trialDays, label := "Durée d'essai par défaut (jours)", kind := .int
        djangoSetting := "BILLING_TRIAL_DAYS"
        minimum := some 0, maximum := some 365
        group := "Offres et essais" }
  | .trialPlanCode =>
      { key := .trialPlanCode, label := "Offre attribuée à l'ouverture d'un essai", kind := .text
        djangoSetting := "BILLING_DEFAULT_TRIAL_PLAN_CODE"
        group := "Offres et essais" }
  | .secretRetentionDays =>
      { key := .secretRetentionDays, label := "Conservation des mots de passe fuités (jours)"
        kind := .int
        djangoSetting := "BREACH_SECRET_RETENTION_DAYS"
        minimum := some 1, maximum := some 3650
        group := "Conservation des données", sensitive := true }
  | .revealAuditRetentionDays =>
      { key := .revealAuditRetentionDays
        label := "Conservation du journal des consultations (jours)", kind := .int
        djangoSetting := "BREACH_REVEAL_AUDIT_RETENTION_DAYS"
        minimum := some 1, maximum := some 3650
        group := "Conservation des données", sensitive := true }
  | .alertWarningRatio =>
      { key := .alertWarningRatio, label := "Seuil d'alerte « attention » (%)", kind := .int
        default := .int 80, minimum := some 1, maximum := some 100
        group := "Alertes de consommation" }
  | .alertCriticalRatio =>
      { key := .alertCriticalRatio, label := "Seuil d'alerte « critique » (%)", kind := .int
        default := .int 95, minimum := some 1, maximum := some 100
        group := "Alertes de consommation" }
  | .signupOpen =>
      { key := .signupOpen, label := "Inscription libre ouverte", kind := .bool
        default := .bool true
        group := "Accès à la plateforme" }
  | .maintenanceMessage =>
      { key := .maintenanceMessage, label := "Message affiché aux clients", kind := .text
        default := .text ""
        group := "Accès à la plateforme" }
  | .ctiMode =>
      { key := .ctiMode, label := "Source du renseignement sur les fuites", kind := .text
        djangoSetting := "BREACHSENSE_MODE"
        group := "Licence de renseignement", sensitive := true }
  | .trashRetentionDays =>
      { key := .trashRetentionDays, label := "Durée de conservation en corbeille (jours)"
        kind := .int
        default := .int 30, minimum := some 1, maximum := some 365
        group := "Conservation des données" }

/-! ## Values that a setting accepts -/

def modes : List String := ["live", "replay", "null", "auto"]

def SettingSpec.accepts (spec : SettingSpec) (value : Value) : Bool :=
  match spec.kind, value with
  | .int, .int value => spec.minimum.all (· ≤ value) && spec.maximum.all (value ≤ ·)
  | .bool, .bool _ => true
  | .text, .text value =>
      if spec.key = .ctiMode then modes.contains value else value.toList.length ≤ 2000
  | _, _ => false

inductive SettingError where
  | refused (message : String)
  deriving DecidableEq, Repr

/-- The conversions of the platform; `toInt` is `int(raw)`, `none` when it raises. -/
structure Conversions where
  unicode : Unicode
  toInt : Json → Option Int

/-- Conversions for examples: an integer is itself, and texts are kept as they are. -/
def plainConversions : Conversions where
  unicode := ⟨id, id, fun _ => true⟩
  toInt := fun
    | .int value => some value
    | _ => none

/-- Check the bounds of an integer. -/
def SettingSpec.bounded (spec : SettingSpec) (value : Int) : Except SettingError Value :=
  if let some minimum := spec.minimum.filter (value < ·) then
    .error (.refused s!"« {spec.label} » ne peut pas être inférieur à {minimum}.")
  else if let some maximum := spec.maximum.filter (· < value) then
    .error (.refused s!"« {spec.label} » ne peut pas dépasser {maximum}.")
  else .ok (.int value)

def SettingSpec.coerceBool (conversions : Conversions) (spec : SettingSpec) (raw : Json) :
    Except SettingError Value :=
  let refusal := SettingError.refused s!"« {spec.label} » attend oui ou non."
  match raw with
  | .bool value => .ok (.bool value)
  | .str text =>
      let text := conversions.unicode.lower text
      if ["true", "false", "1", "0"].contains text then .ok (.bool (["true", "1"].contains text))
      else .error refusal
  | _ => .error refusal

/-- The text of an entered value. -/
def enteredText (unicode : Unicode) : Json → String
  | .null => ""
  | raw => strip (raw.toStr unicode)

def SettingSpec.coerceText (conversions : Conversions) (spec : SettingSpec) (raw : Json) :
    Except SettingError Value :=
  let value := enteredText conversions.unicode raw
  if spec.key = .ctiMode then
    let mode := conversions.unicode.lower value
    let listed := String.intercalate ", " modes
    if modes.contains mode then .ok (.text mode)
    else
      .error (.refused
        (s!"« {spec.label} » accepte uniquement : {listed}. " ++
          s!"Reçu : {Json.reprText conversions.unicode value}."))
  else if 2000 < value.toList.length then
    .error (.refused s!"« {spec.label} » est trop long (2000 caractères maximum).")
  else .ok (.text value)

/-- Validate and convert an entered value. -/
def SettingSpec.coerce (conversions : Conversions) (spec : SettingSpec) (raw : Json) :
    Except SettingError Value :=
  match spec.kind with
  | .int =>
      match conversions.toInt raw with
      | none => .error (.refused s!"« {spec.label} » attend un nombre entier.")
      | some value => spec.bounded value
  | .bool => spec.coerceBool conversions raw
  | .text => spec.coerceText conversions raw

theorem bounded_accepts {spec : SettingSpec} {entered : Int} {value : Value}
    (kind : spec.kind = .int) (ok : spec.bounded entered = .ok value) :
    spec.accepts value = true := by
  unfold SettingSpec.bounded at ok
  split at ok
  · cases ok
  · rename_i above
    split at ok
    · cases ok
    · rename_i below
      cases ok
      have least : spec.minimum.all (· ≤ entered) = true := by
        cases bound : spec.minimum with
        | none => rfl
        | some minimum =>
            refine decide_eq_true (Int.not_lt.mp fun under => above minimum ?_)
            rw [bound, Option.filter_some, if_pos (decide_eq_true under)]
      have most : spec.maximum.all (entered ≤ ·) = true := by
        cases bound : spec.maximum with
        | none => rfl
        | some maximum =>
            refine decide_eq_true (Int.not_lt.mp fun past => below maximum ?_)
            rw [bound, Option.filter_some, if_pos (decide_eq_true past)]
      rw [SettingSpec.accepts]
      · exact Bool.and_eq_true_iff.mpr ⟨least, most⟩
      · exact kind

theorem coerceBool_accepts {conversions : Conversions} {spec : SettingSpec} {raw : Json}
    {value : Value} (kind : spec.kind = .bool) (ok : spec.coerceBool conversions raw = .ok value) :
    spec.accepts value = true := by
  unfold SettingSpec.coerceBool at ok
  dsimp only at ok
  split at ok
  · cases ok
    simp [SettingSpec.accepts, kind]
  · split at ok
    · cases ok
      simp [SettingSpec.accepts, kind]
    · cases ok
  · cases ok

theorem coerceText_accepts {conversions : Conversions} {spec : SettingSpec} {raw : Json}
    {value : Value} (kind : spec.kind = .text) (ok : spec.coerceText conversions raw = .ok value) :
    spec.accepts value = true := by
  unfold SettingSpec.coerceText at ok
  dsimp only at ok
  split at ok
  · rename_i cti
    split at ok
    · rename_i known
      cases ok
      simpa [SettingSpec.accepts, kind, cti] using known
    · cases ok
  · rename_i free
    split at ok
    · cases ok
    · rename_i short
      cases ok
      simpa [SettingSpec.accepts, kind, free] using short

/-- What is stored meets the declaration of the setting. -/
theorem coerce_accepts {conversions : Conversions} {spec : SettingSpec} {raw : Json}
    {value : Value} (ok : spec.coerce conversions raw = .ok value) : spec.accepts value = true := by
  unfold SettingSpec.coerce at ok
  split at ok
  · rename_i kind
    split at ok
    · cases ok
    · exact bounded_accepts kind ok
  · rename_i kind
    exact coerceBool_accepts kind ok
  · rename_i kind
    exact coerceText_accepts kind ok

/-! ## The environment file -/

/-- The settings of the environment file that the registry falls back on. -/
structure Environment where
  breachsenseMonitoredAssetPoolSize : Int
  breachsenseScanCooldownMinutes : Int
  platformMonthlyScanCap : Int
  billingTrialDays : Int
  billingDefaultTrialPlanCode : String
  breachSecretRetentionDays : Int
  breachRevealAuditRetentionDays : Int
  breachsenseMode : String
  deriving DecidableEq, Repr

/-- `getattr(settings, name)`, where it is one of them. -/
def Environment.getattr (env : Environment) : String → Option Value
  | "BREACHSENSE_MONITORED_ASSET_POOL_SIZE" => some (.int env.breachsenseMonitoredAssetPoolSize)
  | "BREACHSENSE_SCAN_COOLDOWN_MINUTES" => some (.int env.breachsenseScanCooldownMinutes)
  | "PLATFORM_MONTHLY_SCAN_CAP" => some (.int env.platformMonthlyScanCap)
  | "BILLING_TRIAL_DAYS" => some (.int env.billingTrialDays)
  | "BILLING_DEFAULT_TRIAL_PLAN_CODE" => some (.text env.billingDefaultTrialPlanCode)
  | "BREACH_SECRET_RETENTION_DAYS" => some (.int env.breachSecretRetentionDays)
  | "BREACH_REVEAL_AUDIT_RETENTION_DAYS" => some (.int env.breachRevealAuditRetentionDays)
  | "BREACHSENSE_MODE" => some (.text env.breachsenseMode)
  | _ => none

def fallback (env : Environment) (spec : SettingSpec) : Value :=
  if spec.djangoSetting = "" then spec.default
  else (env.getattr spec.djangoSetting).getD spec.default

/-- A default of the code passes its own check. -/
theorem default_accepted (env : Environment) {key : SettingKey} (own : key.spec.djangoSetting = "") :
    key.spec.accepts (fallback env key.spec) = true := by
  rw [fallback, if_pos own]
  cases key with
  | alertWarningRatio | alertCriticalRatio | signupOpen | maintenanceMessage |
    trashRetentionDays => decide
  | _ => exact absurd own (by decide)

/-- The defaults of the environment file. -/
def defaultEnvironment : Environment where
  breachsenseMonitoredAssetPoolSize := 15
  breachsenseScanCooldownMinutes := 1440
  platformMonthlyScanCap := 1000
  billingTrialDays := 14
  billingDefaultTrialPlanCode := "essai"
  breachSecretRetentionDays := 90
  breachRevealAuditRetentionDays := 365
  breachsenseMode := "auto"

/-! ## The database and the cache -/

structure PlatformSetting where
  value : Value
  updatedBy : Option Nat
  deriving DecidableEq, Repr

/-- The values of the rows; a row of an unknown key is ignored. -/
def Values : Type := SettingKey → Option Value

/-- The rows of the database, and what the cache holds of them. -/
structure SettingsStore where
  rows : SettingKey → Option PlatformSetting
  cache : Option Values

namespace SettingsStore

def values (store : SettingsStore) : Values := fun key => (store.rows key).map PlatformSetting.value

/-- The values of the database, cached. -/
def stored (store : SettingsStore) : Values × SettingsStore :=
  match store.cache with
  | some values => (values, store)
  | none => (store.values, { store with cache := some store.values })

def invalidateCache (store : SettingsStore) : SettingsStore := { store with cache := none }

/-- The stored value of a setting, or its value in the environment. -/
def valueOf (env : Environment) (values : Values) (key : SettingKey) : Value :=
  (values key).getD (fallback env key.spec)

def get (env : Environment) (store : SettingsStore) (key : SettingKey) : Value × SettingsStore :=
  let (values, store) := store.stored
  (valueOf env values key, store)

end SettingsStore

/-- What the screen of the console shows of a setting. -/
structure Description where
  spec : SettingSpec
  value : Value
  default : Value
  isOverridden : Bool
  deriving DecidableEq, Repr

namespace SettingsStore

def describeSetting (env : Environment) (values : Values) (key : SettingKey) : Description where
  spec := key.spec
  value := (values key).getD (fallback env key.spec)
  default := fallback env key.spec
  isOverridden := (values key).isSome

/-- The whole catalogue, for the screen of the console. -/
def describe (env : Environment) (store : SettingsStore) : List Description × SettingsStore :=
  let (values, store) := store.stored
  (registryKeys.map (describeSetting env values), store)

def save (store : SettingsStore) (key : SettingKey) (row : Option PlatformSetting) :
    SettingsStore :=
  { store with rows := Function.update store.rows key row }

/-- Change a setting: the values before and after, or the refusal. -/
def updateSetting (conversions : Conversions) (env : Environment) (store : SettingsStore)
    (name : String) (raw : Json) (actor : Option Nat) :
    SettingsStore × Except SettingError (Value × Value) :=
  match SettingKey.ofName? name with
  | none => (store, .error (.refused s!"Réglage inconnu : {name}"))
  | some key =>
      let (before, store) := store.get env key
      match key.spec.coerce conversions raw with
      | .error refusal => (store, .error refusal)
      | .ok value => ((store.save key (some ⟨value, actor⟩)).invalidateCache, .ok (before, value))

/-- Return to the value of the environment file. -/
def resetSetting (store : SettingsStore) (name : String) : SettingsStore :=
  match SettingKey.ofName? name with
  | none => store.invalidateCache
  | some key => (store.save key none).invalidateCache

end SettingsStore

/-! ## One request after the other -/

/-- What reaches the settings: a change, a reset, a read, or the end of the cached entry. -/
inductive SettingEvent where
  | update (name : String) (raw : Json) (actor : Option Nat)
  | reset (name : String)
  | read (key : SettingKey)
  | expire

def SettingsStore.step (conversions : Conversions) (env : Environment) (store : SettingsStore) :
    SettingEvent → SettingsStore
  | .update name raw actor => (store.updateSetting conversions env name raw actor).1
  | .reset name => store.resetSetting name
  | .read key => (store.get env key).2
  | .expire => store.invalidateCache

/-- The cache holds the values of the rows, when it holds any. -/
def SettingsStore.Coherent (store : SettingsStore) : Prop :=
  ∀ values, store.cache = some values → values = store.values

/-- Every row holds a value that its setting accepts. -/
def SettingsStore.Accepted (store : SettingsStore) : Prop :=
  ∀ key row, store.rows key = some row → key.spec.accepts row.value = true

/-- The settings as one request after the other leaves them. -/
structure Registry where
  store : SettingsStore
  coherent : store.Coherent
  accepted : store.Accepted

namespace SettingsStore

variable {conversions : Conversions} {env : Environment} {store : SettingsStore}

theorem coherent_of_cold (cold : store.cache = none) : store.Coherent := by
  intro values held
  rw [cold] at held
  cases held

@[simp]
theorem invalidateCache_rows (store : SettingsStore) : store.invalidateCache.rows = store.rows := rfl

@[simp]
theorem invalidateCache_cache (store : SettingsStore) : store.invalidateCache.cache = none := rfl

theorem stored_fst (coherent : store.Coherent) : store.stored.1 = store.values := by
  rw [stored]
  split
  · rename_i values held
    exact coherent values held
  · rfl

theorem stored_rows (store : SettingsStore) : store.stored.2.rows = store.rows := by
  rw [stored]
  split
  · rfl
  · rfl

theorem coherent_stored (coherent : store.Coherent) : store.stored.2.Coherent := by
  rw [stored]
  split
  · exact coherent
  · intro values held
    exact (Option.some.inj held).symm

/-- What `get` answers is what the rows say. -/
theorem get_fst (coherent : store.Coherent) (key : SettingKey) :
    (store.get env key).1 = valueOf env store.values key := by
  show valueOf env store.stored.1 key = _
  rw [stored_fst coherent]

theorem get_snd (store : SettingsStore) (key : SettingKey) :
    (store.get env key).2 = store.stored.2 := rfl

/-- A change writes the row of its setting, or it is refused. -/
theorem updateSetting_rows (conversions : Conversions) (env : Environment) (store : SettingsStore)
    (name : String) (raw : Json) (actor : Option Nat) :
    ((store.updateSetting conversions env name raw actor).1.rows = store.rows ∧
      ∀ key value, SettingKey.ofName? name = some key →
        key.spec.coerce conversions raw ≠ .ok value) ∨
      ∃ key value, SettingKey.ofName? name = some key ∧
        key.spec.coerce conversions raw = .ok value ∧
        (store.updateSetting conversions env name raw actor).1.rows =
          Function.update store.rows key (some ⟨value, actor⟩) := by
  rw [updateSetting]
  split
  · rename_i unknown
    refine Or.inl ⟨rfl, fun key value known _ => ?_⟩
    rw [unknown] at known
    cases known
  · rename_i key known
    dsimp only
    split
    · rename_i refusal refused
      refine Or.inl ⟨stored_rows store, fun other value same coerced => ?_⟩
      obtain rfl := Option.some.inj (known.symm.trans same)
      rw [refused] at coerced
      cases coerced
    · rename_i value coerced
      refine Or.inr ⟨key, value, known, coerced, ?_⟩
      rw [invalidateCache_rows, save, get_snd, stored_rows]

/-- A reset deletes the row of its setting. -/
theorem resetSetting_rows (store : SettingsStore) (name : String) :
    (store.resetSetting name).rows = store.rows ∨
      ∃ key, SettingKey.ofName? name = some key ∧
        (store.resetSetting name).rows = Function.update store.rows key none := by
  rw [resetSetting]
  split
  · exact Or.inl rfl
  · rename_i key known
    exact Or.inr ⟨key, known, rfl⟩

theorem coherent_step (coherent : store.Coherent) (event : SettingEvent) :
    (store.step conversions env event).Coherent := by
  cases event with
  | update name raw actor =>
      rw [step, updateSetting]
      split
      · exact coherent
      · dsimp only
        split
        · exact coherent_stored coherent
        · exact coherent_of_cold rfl
  | reset name =>
      rw [step, resetSetting]
      split
      · exact coherent_of_cold rfl
      · exact coherent_of_cold rfl
  | read key => exact coherent_stored coherent
  | expire => exact coherent_of_cold rfl

theorem accepted_of_rows {after : SettingsStore} (accepted : store.Accepted)
    (same : after.rows = store.rows) : after.Accepted := by
  intro key row held
  rw [same] at held
  exact accepted key row held

theorem accepted_save (accepted : store.Accepted) {key : SettingKey} {row : Option PlatformSetting}
    (valid : ∀ setting, row = some setting → key.spec.accepts setting.value = true) :
    (store.save key row).Accepted := by
  intro other setting held
  rw [save] at held
  by_cases same : other = key
  · subst same
    exact valid setting ((Function.update_self other row store.rows).symm.trans held)
  · exact accepted other setting ((Function.update_of_ne same row store.rows).symm.trans held)

theorem accepted_step (accepted : store.Accepted) (event : SettingEvent) :
    (store.step conversions env event).Accepted := by
  cases event with
  | update name raw actor =>
      rcases updateSetting_rows conversions env store name raw actor with
        ⟨same, _⟩ | ⟨key, value, _, coerced, written⟩
      · exact accepted_of_rows accepted same
      · have saved : (store.save key (some ⟨value, actor⟩)).Accepted := by
          refine accepted_save accepted ?_
          rintro setting ⟨⟩
          exact coerce_accepts coerced
        exact accepted_of_rows saved written
  | reset name =>
      rw [step, resetSetting]
      split
      · exact accepted
      · rename_i key known
        have deleted : (store.save key none).Accepted := accepted_save accepted nofun
        exact accepted_of_rows deleted rfl
  | read key => exact accepted_of_rows accepted (stored_rows store)
  | expire => exact accepted

end SettingsStore

namespace Registry

def step (conversions : Conversions) (env : Environment) (registry : Registry)
    (event : SettingEvent) : Registry where
  store := registry.store.step conversions env event
  coherent := SettingsStore.coherent_step registry.coherent event
  accepted := SettingsStore.accepted_step registry.accepted event

/-- The value of a setting at this moment. -/
def current (env : Environment) (registry : Registry) (key : SettingKey) : Value :=
  SettingsStore.valueOf env registry.store.values key

theorem get_eq_current (env : Environment) (registry : Registry) (key : SettingKey) :
    (registry.store.get env key).1 = registry.current env key :=
  SettingsStore.get_fst registry.coherent key

theorem current_congr {env : Environment} {registry after : Registry}
    (same : after.store.rows = registry.store.rows) : after.current env = registry.current env := by
  funext key
  rw [current, current, SettingsStore.valueOf, SettingsStore.valueOf, SettingsStore.values,
    SettingsStore.values, same]

/-- The current values once one row is written. -/
theorem current_of_written {env : Environment} {registry after : Registry} {key : SettingKey}
    {row : Option PlatformSetting}
    (written : after.store.rows = Function.update registry.store.rows key row)
    (other : SettingKey) :
    after.current env other =
      if other = key then (row.map PlatformSetting.value).getD (fallback env key.spec)
      else registry.current env other := by
  rw [current, current, SettingsStore.valueOf, SettingsStore.valueOf, SettingsStore.values,
    SettingsStore.values, written]
  by_cases same : other = key
  · subst same
    rw [Function.update_self, if_pos rfl]
  · rw [Function.update_of_ne same, if_neg same]

/-- The console shows the current values. -/
theorem value_of_mem_describe {env : Environment} {registry : Registry} {row : Description}
    (shown : row ∈ (registry.store.describe env).1) :
    row.value = registry.current env row.spec.key := by
  have catalogue : (registry.store.describe env).1 =
      registryKeys.map (SettingsStore.describeSetting env registry.store.stored.1) := rfl
  rw [catalogue, SettingsStore.stored_fst registry.coherent] at shown
  obtain ⟨key, _, rfl⟩ := List.mem_map.mp shown
  cases key <;> rfl

/-- A setting with a default in the code always has a value that it accepts. -/
theorem current_accepted (env : Environment) (registry : Registry) {key : SettingKey}
    (own : key.spec.djangoSetting = "") :
    key.spec.accepts (registry.current env key) = true := by
  rw [current, SettingsStore.valueOf, SettingsStore.values]
  cases held : registry.store.rows key with
  | none => exact default_accepted env own
  | some row => exact registry.accepted key row held

end Registry

end RssiService.PlatformAdmin
