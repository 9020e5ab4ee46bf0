import RssiService.Foundation.Interleaving
import RssiService.Tenants.Members
import RssiService.ThreatIntelligence.SoldSlots
import RssiService.ThreatIntelligence.WatchedAccounts

/-!
# Requests that pass a guard and then write

Each request reads what its guards need, one statement after the other, and
writes last.  No row is locked in between: the only things a write still meets
are the constraints of the tables.  The subscription and the plan that a billing
request works on were loaded before it starts.
-/

namespace RssiService.Tenants

open Foundation Foundation.Interleaving Foundation.Run Python
open Billing (Instant Period Plan QuotaOverrides Subscription SubscriptionStatus)
open ThreatIntelligence

/-! ## State -/

/-- The tables that the guards count and the requests write. -/
structure World where
  platform : Platform
  directory : Directory
  watched : Table WatchedAccount

abbrev World.billing (world : World) : Billing.Store := world.platform.billing

structure Site where
  unicode : Unicode
  /-- Equality of addresses in the database, which ignores the case. -/
  sameEmail : String → String → Bool
  pool : PoolSettings

/-! ## Writes -/

/-- The columns of a subscription that one operation saves. -/
inductive SubscriptionChange where
  | activated (period : Period) (renewsAt : Instant)
  | moved (plan : Nat)
  | overridden (overrides : QuotaOverrides)
  deriving DecidableEq, Repr

def SubscriptionChange.apply : SubscriptionChange → Subscription → Subscription
  | .activated period renewsAt, row =>
      { row with status := .active, period, renewsAt := some renewsAt, endsAt := none }
  | .moved plan, row =>
      { row with
        plan
        overrideMonitoredAssets := none, overrideMonthlyScans := none
        overrideMaxUsers := none, overrideFeatures := none }
  | .overridden overrides, row => overrides.apply row

@[simp]
theorem SubscriptionChange.id_apply (change : SubscriptionChange) (row : Subscription) :
    (change.apply row).id = row.id := by
  cases change <;> rfl

/-- What a save adds to the journal. -/
structure JournalLine where
  fromStatus : SubscriptionStatus
  toStatus : SubscriptionStatus
  fromPlan : String
  toPlan : String
  reason : String
  actor : Option Nat
  deriving DecidableEq, Repr

inductive Write where
  | openTrial (tenant : Nat) (plan : Plan) (now : Instant) (days : Nat) (actor : Option Nat)
  | save (key : Nat) (change : SubscriptionChange) (line : JournalLine)
  | registerDomain (applied : Bool) (domain : String)
  | insertMonitored (tenant asset : Nat) (providerRef : String) (now : Nat)
  | addMember (tenant : Nat) (invited : Invited) (role : Role)
  | insertWatched (tenant : Nat) (declaration : Declaration)

/-- What the constraints of the tables ask of a write. -/
def World.admits (unicode : Unicode) (world : World) : Write → Bool
  | .openTrial tenant plan _ _ _ =>
      !world.billing.subscriptions.rows.any (fun row => row.tenant = tenant) &&
        (world.billing.plans.find? plan.id).isSome
  | .save key (.moved plan) _ =>
      (world.billing.subscriptions.find? key).isSome && (world.billing.plans.find? plan).isSome
  | .save key _ _ => (world.billing.subscriptions.find? key).isSome
  | .registerDomain _ _ => true
  | .insertMonitored _ asset providerRef _ => world.platform.insertable asset providerRef
  | .addMember tenant invited _ => world.directory.isAddable tenant invited
  | .insertWatched tenant declaration =>
      isDeclarable world.watched tenant (normalizeAccountValue unicode declaration.value)

def trialRow (tenant plan : Nat) (now : Instant) (days key : Nat) : Subscription where
  id := key
  tenant
  plan
  status := .trial
  period := .monthly
  startedAt := now
  trialEndsAt := some (now.addDays days)
  renewsAt := none
  endsAt := none
  overrideMonitoredAssets := none
  overrideMonthlyScans := none
  overrideMaxUsers := none
  overrideFeatures := none

def World.setBilling (world : World) (billing : Billing.Store) : World :=
  { world with platform := { world.platform with billing } }

def World.perform (unicode : Unicode) (world : World) : Write → World
  | .openTrial tenant plan now days actor =>
      let opened : Billing.Store := { world.billing with
        subscriptions := world.billing.subscriptions.create (trialRow tenant plan.id now days)
          (fun _ => rfl) }
      world.setBilling (opened.recordEvent world.billing.subscriptions.next none .trial ""
        plan.name s!"Essai de {days} jours ouvert à la création de l'entreprise." actor)
  | .save key change line =>
      world.setBilling ((world.billing.saveSubscription key change.apply change.id_apply).recordEvent
        key (some line.fromStatus) line.toStatus line.fromPlan line.toPlan line.reason line.actor)
  | .registerDomain applied domain =>
      { world with platform := world.platform.registered applied domain }
  | .insertMonitored tenant asset providerRef now =>
      { world with platform := world.platform.insertMonitored tenant asset providerRef now }
  | .addMember tenant invited role =>
      { world with directory := world.directory.addMember tenant invited role }
  | .insertWatched tenant declaration =>
      { world with
        watched := world.watched.create (declaration.row unicode tenant) (fun _ => rfl) }

/-- A write that the tables refuse is rolled back. -/
def World.apply (unicode : Unicode) (world : World) (change : Write) : World :=
  if world.admits unicode change then world.perform unicode change else world

/-! ## Requests -/

inductive Request where
  | startTrial (tenant : Nat) (plan : Option Plan) (actor : Option Nat) (days : Option Nat)
  | activate (subscription : Subscription) (period : Option Period) (actor : Option Nat)
      (reason : String)
  | changePlan (subscription : Subscription) (plan : Plan) (actor : Option Nat) (reason : String)
  | setQuotaOverrides (subscription : Subscription) (overrides : QuotaOverrides)
      (actor : Option Nat)
  | registerMonitored (entry : EntryPoint) (tenant asset : Nat) (answer : Answer String)
  | inviteMember (tenant : Nat) (email role : String)
  | declareWatchedAccount (tenant : Nat) (declaration : Declaration)

abbrev Guarded := Program World Write

open Program (attempt)

/-! ### Billing -/

section Billing

def checkUnsubscribed (tenant : Nat) (world : World) : Except Billing.Failure Unit :=
  if world.billing.subscriptions.rows.any (fun row => row.tenant = tenant) then
    .error (.billing "Cette entreprise a déjà un abonnement.")
  else .ok ()

def requestedPlan (site : Site) (plan : Option Plan) (world : World) :
    Except Billing.Failure Plan :=
  match plan <|> world.billing.getDefaultTrialPlan site.pool.billing with
  | none => .error (.billing "Aucune offre disponible pour démarrer un essai.")
  | some plan => .ok plan

/-- The room for a commitment, one subscription left out of the count. -/
def checkSlots (site : Site) (additional : Nat) (excluding : Option Nat) (world : World) :
    Except Billing.Failure Unit :=
  world.billing.ensureMonitoredSlotsAvailable site.pool.billing additional excluding

def startTrial (site : Site) (now : Instant) (tenant : Nat) (plan : Option Plan)
    (actor : Option Nat) (days : Option Nat) : Guarded :=
  attempt (checkUnsubscribed tenant) fun _ =>
  attempt (requestedPlan site plan) fun plan =>
  attempt (checkSlots site plan.monitoredAssets none) fun _ =>
  .write (.openTrial tenant plan now (days.getD site.pool.billing.trialDays) actor) .done

def checkReactivation (site : Site) (subscription : Subscription) (world : World) :
    Except Billing.Failure Unit :=
  if subscription.isOperational then .ok ()
  else checkSlots site (world.billing.monitoredAssetsQuota subscription) (some subscription.id) world

def activate (site : Site) (now : Instant) (subscription : Subscription)
    (period : Option Period) (actor : Option Nat) (reason : String) : Guarded :=
  if subscription.status = .active then .done
  else
    attempt (checkReactivation site subscription) fun _ =>
    let chosen := period.getD subscription.period
    let delta := match chosen with
      | .yearly => 365
      | .monthly => 30
    .write (.save subscription.id (.activated chosen (now.addDays delta))
      { fromStatus := subscription.status, toStatus := .active, fromPlan := "", toPlan := ""
        reason := textOr reason "Abonnement activé.", actor }) .done

def currentPlan (subscription : Subscription) (world : World) : Except Billing.Failure Plan :=
  Billing.require (world.billing.plans.find? subscription.plan)

/-- A rise of an operational subscription to a number of slots. -/
def checkRise (site : Site) (subscription : Subscription) (slots : Nat) (world : World) :
    Except Billing.Failure Unit :=
  if subscription.isOperational ∧ world.billing.monitoredAssetsQuota subscription < slots
  then checkSlots site slots (some subscription.id) world
  else .ok ()

def changePlan (site : Site) (subscription : Subscription) (plan : Plan) (actor : Option Nat)
    (reason : String) : Guarded :=
  if plan.id = subscription.plan then .done
  else
    attempt (currentPlan subscription) fun previous =>
    attempt (checkRise site subscription plan.monitoredAssets) fun _ =>
    .write (.save subscription.id (.moved plan.id)
      { fromStatus := subscription.status, toStatus := subscription.status
        fromPlan := previous.name, toPlan := plan.name
        reason := textOr reason s!"Changement d'offre : {previous.name} vers {plan.name}."
        actor }) .done

def checkOverride (site : Site) (subscription : Subscription) (changed : QuotaOverrides)
    (world : World) : Except Billing.Failure Unit :=
  match changed.monitoredAssets with
  | some quota =>
      checkRise site subscription
        (quota.getD (world.billing.planQuota Plan.monitoredAssets subscription)) world
  | none => .ok ()

def setQuotaOverrides (site : Site) (subscription : Subscription) (overrides : QuotaOverrides)
    (actor : Option Nat) : Guarded :=
  let changed := overrides.changed subscription
  if changed = QuotaOverrides.none then .done
  else
    attempt (checkOverride site subscription changed) fun _ =>
    .write (.save subscription.id (.overridden changed)
      { fromStatus := subscription.status, toStatus := subscription.status, fromPlan := ""
        toPlan := "", reason := "Quotas négociés modifiés.", actor }) .done

end Billing

/-! ### Assets, members and accounts -/

def findAsset (tenant asset : Nat) (world : World) : Except Refusal Monitoring.Asset :=
  match world.platform.getAsset tenant asset with
  | none => .error (.notFound "Actif introuvable.")
  | some found => .ok found

def checkRights (site : Site) (entry : EntryPoint) (tenant : Nat) (world : World) :
    Except Refusal Unit :=
  world.platform.entitled site.pool tenant entry

def checkRegistration (site : Site) (tenant : Nat) (asset : Monitoring.Asset) (world : World) :
    Except Refusal String :=
  world.platform.registrationGuard site.unicode site.pool tenant asset

/-- The rights that an entry point checks, then the guards of the registration,
the call to the provider and the row. -/
def registerMonitored (site : Site) (now : Instant) (entry : EntryPoint) (tenant asset : Nat)
    (answer : Answer String) : Guarded :=
  attempt (findAsset tenant asset) fun found =>
  attempt (checkRights site entry tenant) fun _ =>
  attempt (checkRegistration site tenant found) fun domain =>
  .write (.registerDomain answer.applied domain)
    (match answer.outcome with
      | .error _ => .done
      | .ok providerRef => .write (.insertMonitored tenant found.id providerRef now) .done)

def checkUserQuota (tenant : Nat) (world : World) : Except Billing.EntitlementError Unit :=
  world.billing.ensureUserQuota tenant (world.directory.memberCount tenant) 1

def findUser (site : Site) (email : String) (world : World) : Except TenantError (Option Nat) :=
  .ok ((world.directory.users.rows.find? fun row => site.sameEmail row.email email).map User.id)

def checkNotMember (tenant : Nat) (user : Option Nat) (world : World) : Except TenantError Unit :=
  world.directory.checkNotMember tenant user

def inviteMember (site : Site) (tenant : Nat) (email role : String) : Guarded :=
  attempt (fun _ => checkInvitation site.unicode email role) fun (email, role) =>
  attempt (checkUserQuota tenant) fun _ =>
  attempt (findUser site email) fun user =>
  attempt (checkNotMember tenant user) fun _ =>
  .write (.addMember tenant ((user.map Invited.known).getD (.unknown email)) role) .done

def checkWatchedQuota (tenant : Nat) (world : World) : Except Billing.EntitlementError Unit :=
  world.billing.ensureWatchedAccountQuota tenant (watchedCount world.watched tenant)

def declareWatchedAccount (site : Site) (tenant : Nat) (declaration : Declaration) : Guarded :=
  attempt (fun world => world.billing.ensureFeature tenant Billing.watchedAccounts) fun _ =>
  attempt (fun world =>
    world.billing.ensureOperational tenant "La surveillance de comptes désignés") fun _ =>
  attempt (fun _ => declaration.check site.unicode) fun _ =>
  attempt (checkWatchedQuota tenant) fun _ =>
  .write (.insertWatched tenant declaration) .done

def requestProgram (site : Site) : Instant × Request → Guarded
  | (now, .startTrial tenant plan actor days) => startTrial site now tenant plan actor days
  | (now, .activate subscription period actor reason) =>
      activate site now subscription period actor reason
  | (_, .changePlan subscription plan actor reason) =>
      changePlan site subscription plan actor reason
  | (_, .setQuotaOverrides subscription overrides actor) =>
      setQuotaOverrides site subscription overrides actor
  | (now, .registerMonitored entry tenant asset answer) =>
      registerMonitored site now entry tenant asset answer
  | (_, .inviteMember tenant email role) => inviteMember site tenant email role
  | (_, .declareWatchedAccount tenant declaration) =>
      declareWatchedAccount site tenant declaration

/-! ## Requests that nothing interrupts -/

/-- The store after an operation: unchanged where the operation fails. -/
def settled (store : Billing.Store) (result : Except Billing.Failure Billing.Store) :
    Billing.Store :=
  match result with
  | .ok next => next
  | .error _ => store

section Alone

open Program (alone_attempt_ok alone_attempt_error)

variable {site : Site} {world : World} {now : Instant} {tenant : Nat} {actor days : Option Nat}
  {reason : String} {subscription : Subscription} {plan : Plan}

theorem apply_of_admits {change : Write} (admits : world.admits site.unicode change = true) :
    world.apply site.unicode change = world.perform site.unicode change := if_pos admits

/-- The end of a billing request: a guard, and the write of the operation. -/
theorem alone_guarded {guard : World → Except Billing.Failure Unit} {change : Write}
    {next : Billing.Store} (admits : world.admits site.unicode change = true)
    (performs : world.perform site.unicode change = world.setBilling next) :
    (Program.attempt guard fun _ => .write change .done).alone (World.apply site.unicode) world =
      world.setBilling (settled world.billing (guard world >>= fun _ => .ok next)) := by
  cases granted : guard world with
  | error failure => exact alone_attempt_error granted
  | ok _ => exact (alone_attempt_ok granted).trans ((apply_of_admits admits).trans performs)

/-- Run alone, a request that opens a trial does what the operation does in one
transaction. -/
theorem alone_startTrial {requested : Option Plan}
    (stored : ∀ plan ∈ requested, world.billing.plans.find? plan.id = some plan) :
    (startTrial site now tenant requested actor days).alone (World.apply site.unicode) world =
      world.setBilling (settled world.billing (world.billing.startTrial site.pool.billing now
        tenant (requested.map Plan.id) actor days)) := by
  unfold startTrial Billing.Store.startTrial
  cases held : world.billing.subscriptions.rows.any fun row => row.tenant = tenant with
  | true => exact alone_attempt_error (by rw [checkUnsubscribed, if_pos held])
  | false =>
      refine (alone_attempt_ok (by rw [checkUnsubscribed, held]; rfl)).trans ?_
      have admits {plan : Plan} (known : world.billing.plans.find? plan.id = some plan) :
          world.admits site.unicode (.openTrial tenant plan now
            (days.getD site.pool.billing.trialDays) actor) = true := by
        simp only [World.admits, held, known]
        rfl
      cases requested with
      | some plan =>
          have known := stored plan rfl
          have chosen : requestedPlan site (some plan) world = .ok plan := rfl
          refine (alone_attempt_ok chosen).trans ?_
          simp only [Option.map_some, known, Billing.require, Except.map, bind, Except.bind]
          exact alone_guarded (admits known) rfl
      | none =>
          cases chosen : world.billing.getDefaultTrialPlan site.pool.billing with
          | none => exact alone_attempt_error (by rw [requestedPlan, chosen]; rfl)
          | some plan =>
              have known : world.billing.plans.find? plan.id = some plan :=
                Table.find?_eq_some_iff.mpr ⟨Billing.mem_of_getDefaultTrialPlan chosen, rfl⟩
              refine (alone_attempt_ok (by rw [requestedPlan, chosen]; rfl)).trans ?_
              exact alone_guarded (admits known) rfl

theorem alone_activate {period : Option Period}
    (stored : world.billing.subscriptions.find? subscription.id = some subscription) :
    (activate site now subscription period actor reason).alone (World.apply site.unicode) world =
      world.setBilling (settled world.billing (world.billing.activate site.pool.billing now
        subscription.id period actor reason)) := by
  unfold activate Billing.Store.activate
  simp only [stored, Billing.require, bind, Except.bind]
  split
  · rfl
  · exact alone_guarded (by simp only [World.admits, stored]; rfl) rfl

theorem alone_changePlan
    (stored : world.billing.subscriptions.find? subscription.id = some subscription)
    (known : world.billing.plans.find? plan.id = some plan) :
    (changePlan site subscription plan actor reason).alone (World.apply site.unicode) world =
      world.setBilling (settled world.billing (world.billing.changePlan site.pool.billing
        subscription.id plan.id actor reason)) := by
  unfold changePlan Billing.Store.changePlan
  simp only [stored, known, Billing.require, bind, Except.bind]
  split
  · rfl
  · cases current : world.billing.plans.find? subscription.plan with
    | none => exact alone_attempt_error (by rw [currentPlan, current]; rfl)
    | some previous =>
        refine (alone_attempt_ok (by rw [currentPlan, current]; rfl)).trans ?_
        exact alone_guarded (by simp only [World.admits, stored, known]; rfl) rfl

theorem alone_setQuotaOverrides {overrides : QuotaOverrides}
    (stored : world.billing.subscriptions.find? subscription.id = some subscription) :
    (setQuotaOverrides site subscription overrides actor).alone (World.apply site.unicode) world =
      world.setBilling (settled world.billing (world.billing.setQuotaOverrides site.pool.billing
        subscription.id overrides actor)) := by
  unfold setQuotaOverrides Billing.Store.setQuotaOverrides
  simp only [stored, Billing.require, bind, Except.bind]
  split
  · rfl
  · exact alone_guarded (by simp only [World.admits, stored]; rfl) rfl

/-- Run alone, a registration does what the entry point does. -/
theorem alone_registerMonitored {entry : EntryPoint} {asset : Nat} {answer : Answer String} :
    (registerMonitored site now entry tenant asset answer).alone (World.apply site.unicode) world =
      { world with
        platform := (postMonitored site.unicode site.pool world.platform entry tenant asset now
          answer).1 } := by
  unfold registerMonitored postMonitored
  cases lookup : world.platform.getAsset tenant asset with
  | none => exact alone_attempt_error (by rw [findAsset, lookup])
  | some found =>
      refine (alone_attempt_ok (by rw [findAsset, lookup])).trans ?_
      cases rights : world.platform.entitled site.pool tenant entry with
      | error refusal => exact alone_attempt_error rights
      | ok _ =>
          have passes : checkRights site entry tenant world = .ok () := rights
          refine (alone_attempt_ok passes).trans ?_
          dsimp only
          rw [registerMonitoredAsset]
          cases guarded : world.platform.registrationGuard site.unicode site.pool tenant found with
          | error refusal => exact alone_attempt_error guarded
          | ok domain =>
              have passes : checkRegistration site tenant found world = .ok domain := guarded
              refine (alone_attempt_ok passes).trans ?_
              dsimp only
              cases answered : answer.outcome with
              | error fault => cases fault <;> rfl
              | ok providerRef =>
                  change World.apply site.unicode
                    { world with platform := world.platform.registered answer.applied domain }
                    (.insertMonitored tenant found.id providerRef now) = _
                  dsimp only
                  cases free : (world.platform.registered answer.applied domain).insertable
                      found.id providerRef with
                  | true => exact if_pos free
                  | false => exact if_neg (Bool.eq_false_iff.mp free)

/-- A registration that no other request interrupts does what the entry point does. -/
theorem exists_uninterrupted_registerMonitored {session : Session World Write} {client : Nat}
    (idle : session.pending client = .done) {entry : EntryPoint} {asset : Nat}
    {answer : Answer String} :
    ∃ count, (after (Interleaving.step (World.apply site.unicode) (requestProgram site)) session
        (.arrive client (now, .registerMonitored entry tenant asset answer) ::
          List.replicate count (.advance client))).state =
      { session.state with
        platform := (postMonitored site.unicode site.pool session.state.platform entry tenant
          asset now answer).1 } := by
  obtain ⟨count, ends⟩ := exists_uninterrupted idle
    ((now, .registerMonitored entry tenant asset answer) : Instant × Request)
  exact ⟨count, ends.trans alone_registerMonitored⟩

end Alone

end RssiService.Tenants
