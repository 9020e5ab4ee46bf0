import RssiService.Billing.Capacity

/-!
# Entitlements

The one place that decides a right: a feature is part of the offer or not, a
quota is left or used up, and a subscription that is no longer operational
consumes nothing.
-/

namespace RssiService.Billing

open Foundation Python

/-! ## Features -/

structure Feature where
  key : String
  label : String
  deriving DecidableEq, Repr

def reuseCorrelation : String := "reuse_correlation"

def realtimeMonitoring : String := "realtime_monitoring"

def watchedAccounts : String := "watched_accounts"

def secretReveal : String := "secret_reveal"

/-- The features that exist, in the order of the registry. -/
def registry : List Feature :=
  [⟨"assistant", "Assistant conversationnel"⟩,
    ⟨"exposure_synthesis", "Synthèse d'exposition"⟩,
    ⟨"pdf_export", "Export PDF des documents"⟩,
    ⟨reuseCorrelation, "Corrélation de réutilisation"⟩,
    ⟨"secret_reveal", "Révélation de mot de passe"⟩,
    ⟨"anssi_assessment", "Diagnostic de maturité"⟩,
    ⟨"charter_generation", "Génération de charte informatique"⟩,
    ⟨watchedAccounts, "Surveillance de comptes désignés"⟩,
    ⟨realtimeMonitoring, "Surveillance en temps réel"⟩,
    ⟨"training", "Formation des salariés"⟩,
    ⟨"training_studio", "Studio de formation"⟩]

/-- The known keys, in the order of the registry. -/
def sanitize (keys : List String) : List String :=
  (registry.map Feature.key).filter keys.contains

def Plan.hasFeature (key : String) (plan : Plan) : Bool :=
  (sanitize plan.features).contains key

def Store.effectiveFeatures (store : Store) (subscription : Subscription) : List String :=
  sanitize (subscription.overrideFeatures.getD
    (((store.plans.find? subscription.plan).map Plan.features).getD []))

/-! ## Refusals -/

/-- A business refusal, with what the interface shows of it. -/
structure EntitlementError where
  message : String
  featureKey : String
  requiredPlan : String
  reason : String
  deriving DecidableEq, Repr

def Store.getSubscription (store : Store) (tenant : Nat) : Option Subscription :=
  store.subscriptions.rows.find? fun subscription => subscription.tenant = tenant

def Store.hasFeature (store : Store) (tenant : Nat) (key : String) : Bool :=
  (store.getSubscription tenant).any fun subscription =>
    (store.effectiveFeatures subscription).contains key

/-- The cheapest published offer with a feature; one with a price comes before
one on quotation. -/
def Store.cheapestPlanWith (store : Store) (key : String) : Option Plan :=
  let published := (store.plans.rows.filter fun plan => plan.status = .published).insertionSort
    fun first second => first.priceMonthly < second.priceMonthly ∨
      (first.priceMonthly = second.priceMonthly ∧ first.displayOrder ≤ second.displayOrder)
  let offering := published.filter (Plan.hasFeature key)
  (offering.find? fun plan => !plan.isQuoteOnly) <|> offering.head?

def Store.ensureFeature (store : Store) (tenant : Nat) (key : String) :
    Except EntitlementError Unit :=
  if store.hasFeature tenant key then .ok ()
  else
    let label := ((registry.find? fun feature => feature.key = key).map Feature.label).getD key
    let refused := s!"« {label} » n'est pas comprise dans votre offre."
    match store.cheapestPlanWith key with
    | some plan =>
        .error { message := refused ++ s!" Elle est incluse à partir de l'offre {plan.name}."
                 featureKey := key, requiredPlan := plan.name, reason := "feature" }
    | none => .error { message := refused, featureKey := key, requiredPlan := "", reason := "feature" }

/-- The displayed status, in lower case. -/
def SubscriptionStatus.display : SubscriptionStatus → String
  | .trial => "essai"
  | .active => "actif"
  | .suspended => "suspendu"
  | .cancelled => "résilié"
  | .expired => "expiré"

def Store.ensureOperational (store : Store) (tenant : Nat) (action : String) :
    Except EntitlementError Unit :=
  match store.getSubscription tenant with
  | none =>
      .error { message := s!"{action} nécessite un abonnement actif."
               featureKey := "", requiredPlan := "", reason := "no_subscription" }
  | some subscription =>
      if subscription.isOperational then .ok ()
      else
        .error { message := s!"{action} est suspendue : votre abonnement est " ++
                   s!"{subscription.status.display}. Vos données restent consultables."
                 featureKey := "", requiredPlan := "", reason := "not_operational" }

/-- The monthly quota of scans of the client, given how many it has used; 0 is
unlimited. -/
def Store.ensureScanQuota (store : Store) (tenant used : Nat) : Except EntitlementError Unit :=
  match store.getSubscription tenant with
  | none =>
      .error { message := "Aucun abonnement actif."
               featureKey := "", requiredPlan := "", reason := "no_subscription" }
  | some subscription =>
      let quota := store.monthlyScansQuota subscription
      if quota = 0 then .ok ()
      else if quota ≤ used then
        .error { message :=
                   s!"Vous avez utilisé les {quota} analyses comprises dans votre offre ce " ++
                     "mois-ci. Le compteur repart au premier jour du mois prochain."
                 featureKey := "", requiredPlan := "", reason := "quota" }
      else .ok ()

/-- The quota of the client, given how many assets it has monitored; 0 is unlimited. -/
def Store.ensureMonitoredAssetQuota (store : Store) (tenant used : Nat) :
    Except EntitlementError Unit :=
  match store.getSubscription tenant with
  | none =>
      .error { message := "Aucun abonnement actif."
               featureKey := "", requiredPlan := "", reason := "no_subscription" }
  | some subscription =>
      let quota := store.monitoredAssetsQuota subscription
      if quota ≠ 0 ∧ quota ≤ used then
        .error { message :=
                   s!"Votre offre comprend {quota} actif(s) surveillé(s) en continu, tous utilisés. " ++
                     "Retirez-en un ou changez d'offre pour en surveiller davantage."
                 featureKey := "", requiredPlan := "", reason := "quota" }
      else .ok ()

/-- The quota of users of the client, given how many it has; 0 is unlimited. -/
def Store.ensureUserQuota (store : Store) (tenant current additional : Nat) :
    Except EntitlementError Unit :=
  match store.getSubscription tenant with
  | none =>
      .error { message :=
                 "Cette entreprise n'a pas d'abonnement : attribuez-lui une offre avant " ++
                   "d'ajouter des utilisateurs."
               featureKey := "", requiredPlan := "", reason := "no_subscription" }
  | some subscription =>
      let quota := store.maxUsersQuota subscription
      let name := ((store.plans.find? subscription.plan).map Plan.name).getD ""
      if quota ≠ 0 ∧ quota < current + additional then
        .error { message :=
                   s!"L'offre {name} comprend {quota} utilisateur(s) et " ++
                     s!"{current} sont déjà enregistrés — il en reste {quota - current}. " ++
                     "Changez d'offre ou relevez le quota de ce client pour en ajouter."
                 featureKey := "", requiredPlan := "", reason := "quota" }
      else .ok ()

/-- The quota of watched accounts of the client, given how many it has declared.
Here 0 is what is not sold. -/
def Store.ensureWatchedAccountQuota (store : Store) (tenant used : Nat) :
    Except EntitlementError Unit :=
  match store.getSubscription tenant with
  | none =>
      .error { message := "Aucun abonnement actif."
               featureKey := "", requiredPlan := "", reason := "no_subscription" }
  | some subscription =>
      let quota := store.watchedAccountsQuota subscription
      if quota = 0 then
        .error { message := "Votre offre ne comprend aucun compte à surveiller."
                 featureKey := "", requiredPlan := "", reason := "quota" }
      else if quota ≤ used then
        .error { message :=
                   s!"Vous surveillez déjà les {quota} comptes compris dans votre offre. " ++
                     "Retirez-en un, ou demandez une offre supérieure."
                 featureKey := "", requiredPlan := "", reason := "quota" }
      else .ok ()

/-- The monthly quota of scans of watched accounts.  Here 0 is what is not sold. -/
def Store.ensureWatchedAccountScanQuota (store : Store) (tenant used : Nat) :
    Except EntitlementError Unit :=
  match store.getSubscription tenant with
  | none =>
      .error { message := "Aucun abonnement actif."
               featureKey := "", requiredPlan := "", reason := "no_subscription" }
  | some subscription =>
      let quota := store.monthlyWatchedAccountScansQuota subscription
      if quota = 0 then
        .error { message := "Votre offre ne comprend aucune analyse de comptes désignés."
                 featureKey := "", requiredPlan := "", reason := "quota" }
      else if quota ≤ used then
        .error { message :=
                   s!"Vous avez utilisé les {quota} analyses de comptes comprises dans votre " ++
                     "offre ce mois-ci. Le compteur repart au premier jour du mois prochain."
                 featureKey := "", requiredPlan := "", reason := "quota" }
      else .ok ()

end RssiService.Billing
