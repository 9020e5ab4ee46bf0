import Mathlib.Data.Finset.Basic
import RssiService.Billing.Entitlements
import RssiService.Monitoring.Alerts
import RssiService.Python.Url

/-!
# Continuous monitoring

An asset under continuous monitoring occupies a slot of the provider and a row
of the table.  The provider is called in the middle of an operation: it may
apply a call and fail to answer, or answer without having applied it.
-/

namespace RssiService.ThreatIntelligence

open Foundation Python
open Monitoring (Asset)

/-! ## State -/

structure MonitoredAsset where
  id : Nat
  tenant : Nat
  asset : Nat
  provider : String
  providerRef : String
  providerAssetType : String
  registeredAt : Nat
  isActive : Bool
  deriving DecidableEq, Repr

instance : Identified MonitoredAsset := ⟨MonitoredAsset.id⟩

@[simp] theorem ident_monitoredAsset (row : MonitoredAsset) : ident row = row.id := rfl

/-- The assets, the ones whose ownership is verified, the monitored rows, the
subscriptions, and the domains registered with the provider. -/
structure Platform where
  assets : Table Asset
  proven : List Nat
  monitored : Table MonitoredAsset
  billing : Billing.Store
  registry : Finset String

structure PoolSettings where
  webhookCallbackUrl : String
  monitoredAssetPoolSize : Nat
  billing : Billing.Settings

/-! ## The provider -/

inductive ProviderFault where
  | poolFull
  | notConfigured
  | failed (message : String)
  deriving DecidableEq, Repr

/-- What becomes of one call: whether the provider applies it, and its answer. -/
structure Answer (Result : Type) where
  applied : Bool
  outcome : Except ProviderFault Result

/-! ## Refusals -/

inductive Refusal where
  | notFound (message : String)
  | entitlement (error : Billing.EntitlementError)
  | capacity (failure : Billing.Failure)
  | threatIntelligence (message : String)
  | provider (fault : ProviderFault)
  | malformedValue
  | integrity
  | badCall
  deriving DecidableEq, Repr

def ownershipRequired : String :=
  "La surveillance continue de ce domaine demande d'abord d'en prouver la " ++
    "possession. Trois méthodes sont proposées : un enregistrement DNS, un " ++
    "fichier déposé à la racine du site, ou un email envoyé à une adresse " ++
    "d'administration du domaine. Une analyse ponctuelle reste possible sans " ++
    "cette preuve."

def assetAlreadyMonitored : String := "Cet actif est déjà sous surveillance continue."

def monitoringUnavailable : String :=
  "La surveillance continue ne peut pas être activée pour le moment. " ++
    "Contactez-nous : nous l'activons pour vous."

def monitoringCapacityReached : String :=
  "Vous avez atteint le nombre d'actifs en surveillance continue inclus " ++
    "dans votre offre. Retirez-en un, ou contactez-nous pour en ajouter."

/-! ## Registration -/

/-- The domain of an asset; `none` is the `ValueError` of a malformed URL. -/
def assetDomain (unicode : Unicode) (asset : Asset) : Option String :=
  match asset.type with
  | .website => (Url.hostname unicode asset.value).map fun hostname =>
      textOr (hostname.getD "") asset.value
  | .emailDomain => some asset.value

def Platform.isOwnershipProven (platform : Platform) (asset : Asset) : Bool :=
  platform.proven.contains asset.id

def Platform.activeCount (platform : Platform) (counted : MonitoredAsset → Bool) : Nat :=
  platform.monitored.rows.countP fun row => row.isActive && counted row

def Platform.poolCapacityRemaining (settings : PoolSettings) (platform : Platform) : Nat :=
  settings.monitoredAssetPoolSize - platform.activeCount fun _ => true

/-- The guards of a registration, before the provider is called; they give the
domain to register. -/
def Platform.registrationGuard (unicode : Unicode) (settings : PoolSettings) (platform : Platform)
    (tenant : Nat) (asset : Asset) : Except Refusal String :=
  if asset.tenant ≠ tenant then
    .error (.threatIntelligence "Cet actif n'appartient pas à cette entreprise.")
  else if !platform.isOwnershipProven asset then
    .error (.threatIntelligence ownershipRequired)
  else if platform.monitored.rows.any fun row => row.asset = asset.id && row.isActive then
    .error (.threatIntelligence assetAlreadyMonitored)
  else if settings.webhookCallbackUrl = "" then
    .error (.threatIntelligence monitoringUnavailable)
  else if platform.poolCapacityRemaining settings = 0 then
    .error (.threatIntelligence monitoringCapacityReached)
  else
    match assetDomain unicode asset with
    | none => .error .malformedValue
    | some domain => .ok domain

def defaultProvider : String := "breachsense"

/-- The constraints of the table: one row for each asset, and one for each
reference of a provider. -/
def Platform.insertable (platform : Platform) (asset : Nat) (providerRef : String) : Bool :=
  !platform.monitored.rows.any fun row =>
    row.asset = asset || (row.provider = defaultProvider && row.providerRef = providerRef)

def Platform.insertMonitored (platform : Platform) (tenant asset : Nat) (providerRef : String)
    (now : Nat) : Platform :=
  { platform with
    monitored := platform.monitored.create
      (fun key =>
        { id := key, tenant, asset, provider := defaultProvider, providerRef
          providerAssetType := "domain", registeredAt := now, isActive := true })
      (fun _ => rfl) }

/-- The registry after a call that the provider applies or not. -/
def Platform.registered (platform : Platform) (applied : Bool) (domain : String) : Platform :=
  if applied then { platform with registry := insert domain platform.registry } else platform

def Platform.unregistered (platform : Platform) (applied : Bool) (domain : String) : Platform :=
  if applied then { platform with registry := platform.registry.erase domain } else platform

def registerMonitoredAsset (unicode : Unicode) (settings : PoolSettings) (platform : Platform)
    (tenant : Nat) (asset : Asset) (now : Nat) (answer : Answer String) :
    Platform × Except Refusal Unit :=
  match platform.registrationGuard unicode settings tenant asset with
  | .error refusal => (platform, .error refusal)
  | .ok domain =>
      let platform := platform.registered answer.applied domain
      match answer.outcome with
      | .error .poolFull => (platform, .error (.threatIntelligence monitoringCapacityReached))
      | .error .notConfigured => (platform, .error (.threatIntelligence monitoringUnavailable))
      | .error (.failed message) => (platform, .error (.provider (.failed message)))
      | .ok providerRef =>
          if platform.insertable asset.id providerRef then
            (platform.insertMonitored tenant asset.id providerRef now, .ok ())
          else (platform, .error .integrity)

def unregisterMonitoredAsset (platform : Platform) (row : MonitoredAsset) (answer : Answer Unit) :
    Platform × Except Refusal Unit :=
  let platform := platform.unregistered answer.applied row.providerRef
  match answer.outcome with
  | .error fault => (platform, .error (.provider fault))
  | .ok () =>
      ({ platform with
        monitored := platform.monitored.modify row.id (fun row => { row with isActive := false })
          (fun _ => rfl) }, .ok ())

/-! ## The two entry points -/

def Platform.getAsset (platform : Platform) (tenant asset : Nat) : Option Asset :=
  (platform.assets.find? asset).filter fun row => row.tenant = tenant

def Platform.getMonitoredAsset (platform : Platform) (tenant asset : Nat) : Option MonitoredAsset :=
  platform.monitored.rows.find? fun row =>
    row.tenant = tenant && row.asset = asset && row.isActive

inductive EntryPoint where
  | tenantView
  | console
  deriving DecidableEq, Repr

/-- The rights an entry point checks before it registers. -/
def Platform.entitled (settings : PoolSettings) (platform : Platform) (tenant : Nat) :
    EntryPoint → Except Refusal Unit
  | .tenantView => do
      (platform.billing.ensureOperational tenant "La surveillance en temps réel").mapError
        .entitlement
      (platform.billing.ensureFeature tenant Billing.realtimeMonitoring).mapError .entitlement
      (platform.billing.ensureMonitoredAssetQuota tenant
        (platform.activeCount fun row => row.tenant = tenant)).mapError .entitlement
  | .console => do
      (platform.billing.ensureOperational tenant "La surveillance continue").mapError .entitlement
      (platform.billing.ensureMonitoredAssetQuota tenant
        (platform.activeCount fun row => row.tenant = tenant)).mapError .entitlement
      (platform.billing.ensureMonitoredSlotsAvailable settings.billing 1 none).mapError .capacity

/-- `POST` on the monitored assets of a tenant. -/
def postMonitored (unicode : Unicode) (settings : PoolSettings) (platform : Platform)
    (entry : EntryPoint) (tenant asset now : Nat) (answer : Answer String) :
    Platform × Except Refusal Unit :=
  match platform.getAsset tenant asset with
  | none => (platform, .error (.notFound "Actif introuvable."))
  | some found =>
      match platform.entitled settings tenant entry with
      | .error refusal => (platform, .error refusal)
      | .ok () => registerMonitoredAsset unicode settings platform tenant found now answer

/-- `DELETE` on a monitored asset.  The console passes arguments that
`unregister_monitored_asset` does not have, and fails before it is entered. -/
def deleteMonitored (platform : Platform) (entry : EntryPoint) (tenant asset : Nat)
    (answer : Answer Unit) : Platform × Except Refusal Unit :=
  match entry with
  | .tenantView =>
      match platform.getMonitoredAsset tenant asset with
      | none => (platform, .error (.notFound "Cet actif n'est pas surveillé en temps réel."))
      | some row => unregisterMonitoredAsset platform row answer
  | .console =>
      match platform.getAsset tenant asset with
      | none => (platform, .error (.notFound "Actif introuvable."))
      | some _ => (platform, .error .badCall)

def setAssetActive (platform : Platform) (asset : Asset) (isActive : Bool) : Platform :=
  { platform with
    assets := platform.assets.modify asset.id (fun row => { row with isActive }) (fun _ => rfl) }

/-- Deleting an asset cascades to its row and its proofs. -/
def deleteAsset (platform : Platform) (asset : Asset) : Platform :=
  { platform with
    assets := platform.assets.deleteWhere fun row => row.id = asset.id
    proven := platform.proven.filter fun proven => proven ≠ asset.id
    monitored := platform.monitored.deleteWhere fun row => row.asset = asset.id }

end RssiService.ThreatIntelligence
