import RssiService.Billing.Entitlements
import RssiService.Billing.Operations

/-!
# Compositions

The features of a client are those of its plan, or a list composed for it.  A feature
may need another one, or a quota; a composition is refused where one of them is missing.
-/

namespace RssiService.Billing

open Foundation Python

/-! ## What a feature needs -/

def training : String := "training"

def trainingStudio : String := "training_studio"

/-- A feature, and those that it needs. -/
def dependDe : List (String × List String) := [(trainingStudio, [training])]

/-- The quota of a subscription that a feature needs. -/
inductive RequiredQuota where
  | watchedAccounts
  | monitoredAssets
  deriving DecidableEq, Repr

/-- A feature, the quota that it needs and what the quota counts. -/
def quotaRequis : List (String × RequiredQuota × String) :=
  [(watchedAccounts, .watchedAccounts, "compte à surveiller"),
    (realtimeMonitoring, .monitoredAssets, "emplacement de surveillance continue")]

/-- The displayed name of a feature. -/
def label (key : String) : String :=
  ((registry.find? fun feature => feature.key = key).map Feature.label).getD key

def Store.requiredQuota (store : Store) (subscription : Subscription) : RequiredQuota → Nat
  | .watchedAccounts => store.watchedAccountsQuota subscription
  | .monitoredAssets => store.monitoredAssetsQuota subscription

def dependanceManquante (cle requise : String) : String :=
  s!"« {label cle} » a besoin de « {label requise} », qui est retirée."

def quotaManquant (cle compte : String) : String :=
  s!"« {label cle} » est activée, mais ce client n'a aucun {compte} : chaque action lui serait " ++
    "refusée. Relevez le quota, ou retirez la fonctionnalité."

/-- What is wrong with a composition, the dependencies first, in the order of the keys. -/
def Store.incoherencesDeComposition (store : Store) (subscription : Subscription)
    (keys : List String) : List String :=
  let retenues := sanitize keys
  let dependances := (retenues.insertionSort (· ≤ ·)).flatMap fun cle =>
    (((dependDe.find? fun pair => pair.1 = cle).map Prod.snd).getD []).filterMap fun requise =>
      if retenues.contains requise then none else some (dependanceManquante cle requise)
  let quotas := quotaRequis.filterMap fun (cle, attribut, compte) =>
    if retenues.contains cle && store.requiredQuota subscription attribut = 0
    then some (quotaManquant cle compte) else none
  dependances ++ quotas

/-! ## Operations -/

inductive CompositionFailure where
  | composition (problemes : List String)
  | notFound
  deriving DecidableEq, Repr

/-- Compose the features of one client.  The list replaces the former one as a whole, and a
list equal to that of the plan is still an override. -/
def Store.setFeatureOverrides (store : Store) (key : Nat) (keys : List String)
    (actor : Option Nat) : Except CompositionFailure Store :=
  match store.subscriptions.find? key with
  | none => .error .notFound
  | some subscription =>
      let retenues := sanitize keys
      let problemes := store.incoherencesDeComposition subscription retenues
      if problemes ≠ [] then .error (.composition problemes)
      else if subscription.overrideFeatures = some retenues then .ok store
      else
        let saved := store.saveSubscription key
          (fun row => { row with overrideFeatures := some retenues }) (fun _ => rfl)
        .ok (saved.recordEvent key (some subscription.status) subscription.status "" ""
          "Fonctionnalités composées pour ce client." actor)

/-- Give the features of the plan back. -/
def Store.clearFeatureOverrides (store : Store) (key : Nat) (actor : Option Nat) :
    Except CompositionFailure Store :=
  match store.subscriptions.find? key with
  | none => .error .notFound
  | some subscription =>
      if subscription.overrideFeatures = none then .ok store
      else
        let saved := store.saveSubscription key (fun row => { row with overrideFeatures := none })
          (fun _ => rfl)
        .ok (saved.recordEvent key (some subscription.status) subscription.status "" ""
          "Retour aux fonctionnalités de l'offre." actor)

end RssiService.Billing
