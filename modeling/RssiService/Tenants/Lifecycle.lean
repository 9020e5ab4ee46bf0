import RssiService.Billing.Entitlements
import RssiService.Billing.Operations
import RssiService.Foundation.UniqueLabel
import RssiService.PlatformAdmin.Console

/-!
# The life of a tenant

A tenant is opened from the console, by a sign-up or from a request for a demonstration; it is
renamed, archived and restored.  The two services of the console that receive a name compare
it with those of the tenants that are not archived.
-/

namespace RssiService.Tenants

open Foundation Python
open Accounts (AccessInvitation Runtime)
open PlatformAdmin (Console createAccessInvitation)

/-! ## State -/

/-- The commercial card of a tenant. -/
structure Fiche where
  sector : String := ""
  headcount : Option Nat := none
  contactEmail : String := ""
  contactPhone : String := ""
  address : String := ""
  website : String := ""
  accountManager : String := ""
  internalNotes : String := ""
  scanCooldownMinutes : Option Nat := none
  deriving DecidableEq, Repr

structure Tenant where
  id : Nat
  name : String
  slug : String
  fiche : Fiche
  isActive : Bool
  archivedAt : Option Nat
  archivedBy : Option Nat
  archiveReason : String
  deriving DecidableEq, Repr

instance : Identified Tenant := ⟨Tenant.id⟩

def Tenant.isArchived (row : Tenant) : Bool := row.archivedAt.isSome

def Tenant.opened (name slug : String) (fiche : Fiche) (key : Nat) : Tenant where
  id := key
  name := name
  slug := slug
  fiche := fiche
  isActive := true
  archivedAt := none
  archivedBy := none
  archiveReason := ""

theorem Tenant.ident_opened (name slug : String) (fiche : Fiche) (key : Nat) :
    ident (Tenant.opened name slug fiche key) = key := rfl

def Tenant.archived (now : Nat) (actor : Option Nat) (reason : String) (row : Tenant) : Tenant :=
  { row with
    archivedAt := some now, archivedBy := actor, archiveReason := takeChars reason 200
    isActive := false }

def Tenant.restored (row : Tenant) : Tenant :=
  { row with archivedAt := none, archivedBy := none, archiveReason := "", isActive := true }

/-- What the console shows of a tenant to the administration of its accounts. -/
def Tenant.account (row : Tenant) : PlatformAdmin.Tenant := ⟨row.id, row.archivedAt⟩

theorem Tenant.ident_account (row : Tenant) : ident row.account = ident row := rfl

inductive DemoStatus where
  | new
  | contacted
  | scheduled
  | proposal
  | won
  | lost
  | closed
  deriving DecidableEq, Repr

structure DemoRequest where
  id : Nat
  company : String
  email : String
  status : DemoStatus
  deriving DecidableEq, Repr

instance : Identified DemoRequest := ⟨DemoRequest.id⟩

/-- The tenants, the accounts they belong to, and what they were sold. -/
structure Clients where
  tenants : Table Tenant
  users : Table Accounts.User
  members : Table Membership
  links : Table AccessInvitation
  demoRequests : Table DemoRequest
  billing : Billing.Store

def Clients.console (clients : Clients) : Console where
  users := clients.users
  members := clients.members
  tenants := clients.tenants.mapRows Tenant.account Tenant.ident_account
  profiles := Table.empty
  links := clients.links
  lockouts := .empty

/-- What the platform supplies; the database compares texts up to case by their `upper`. -/
structure Host where
  unicode : Unicode
  upper : String → String
  slugify : String → String
  sha256 : String → String
  makePassword : String → String

def Host.iexact (host : Host) (first second : String) : Bool :=
  host.upper first = host.upper second

def Host.runtime (host : Host) : Runtime :=
  ⟨host.unicode, host.iexact, host.sha256, host.makePassword⟩

inductive ClientRefusal where
  | tenant (error : TenantError)
  | billing (failure : Billing.Failure)
  | invalid (message : String)
  | conflict (message : String)
  | notFound
  deriving DecidableEq, Repr

def require {Row : Type} (found : Option Row) : Except ClientRefusal Row :=
  match found with
  | some row => .ok row
  | none => .error .notFound

def sold (outcome : Except Billing.Failure Billing.Store) : Except ClientRefusal Billing.Store :=
  outcome.mapError .billing

/-! ## Names and slugs -/

/-- A tenant that is not archived has the name, up to case. -/
def Clients.nameTaken (host : Host) (clients : Clients) (name : String) (excluding : Option Nat) :
    Bool :=
  clients.tenants.rows.any fun row =>
    host.iexact row.name name && !row.isArchived && excluding ≠ some row.id

/-- The name of a request, once the console has accepted it. -/
def Clients.checkName (host : Host) (clients : Clients) (name : String) (excluding : Option Nat)
    (taken : String → String) : Except ClientRefusal String :=
  let name := strip name
  if name = "" then .error (.tenant (.refused "Le nom de l'entreprise est obligatoire."))
  else if clients.nameTaken host name excluding then .error (.tenant (.refused (taken name)))
  else .ok name

/-- The first of the numbered slugs that no tenant has. -/
def Clients.uniqueSlug (host : Host) (clients : Clients) (name : String) : String :=
  let base := textOr (takeChars (host.slugify name) 200) "entreprise"
  let candidates := base :: (List.range clients.tenants.rows.length).map fun rank =>
    s!"{base}-{rank + 2}"
  (candidates.find? fun slug => !clients.tenants.rows.any fun row => row.slug = slug).getD base

/-- The numbered slugs are more than the tenants, so one of them is free. -/
theorem uniqueSlug_free (host : Host) (clients : Clients) (name : String) :
    ∀ row ∈ clients.tenants, row.slug ≠ clients.uniqueSlug host name := by
  intro row inside taken
  rw [Clients.uniqueSlug] at taken
  obtain ⟨slug, found, free⟩ := Table.exists_free_numbered clients.tenants Tenant.slug
    (textOr (takeChars (host.slugify name) 200) "entreprise")
  have taken_slug : row.slug = slug := taken.trans (congrArg (Option.getD · _) found)
  exact free row inside taken_slug

/-- Insert a tenant with its first administrator. -/
def Clients.openTenant (host : Host) (clients : Clients) (name : String) (fiche : Fiche)
    (owner : Nat) : Clients :=
  { clients with
    tenants := clients.tenants.create (Tenant.opened name (clients.uniqueSlug host name) fiche)
      (Tenant.ident_opened _ _ _)
    members := clients.members.create
      (fun key => { id := key, tenant := clients.tenants.next, user := owner, role := .admin })
      (fun _ => rfl) }

/-! ## Openings outside of the console -/

/-- Open a tenant with its trial.  Only a lack of capacity undoes the whole. -/
def Clients.createTenantWithOwner (host : Host) (settings : Billing.Settings) (now : Nat)
    (clients : Clients) (name : String) (owner : Nat) (fiche : Fiche) :
    Except ClientRefusal Clients :=
  let opened := clients.openTenant host name fiche owner
  match clients.billing.startTrial settings now clients.tenants.next none (some owner) none with
  | .ok billing => .ok { opened with billing }
  | .error (.platformCapacity operator client) =>
      .error (.billing (.platformCapacity operator client))
  | .error _ => .ok opened

/-- `normalize_email`: the domain in lower case. -/
def normalizeEmail (unicode : Unicode) (email : String) : String :=
  let text := strip email
  if text.toList.contains '@' then
    let domain := afterLast '@' text.toList
    takeChars text (text.toList.length - domain.length) ++ unicode.lower (String.ofList domain)
  else email

def Clients.createUser (clients : Clients) (email : String) (password : Option String)
    (isActive : Bool) : Clients :=
  { clients with
    users := clients.users.create (fun key =>
      { id := key, email, password, isActive, isStaff := false, isSuperuser := false })
      (fun _ => rfl) }

structure SignUp where
  email : String
  password : String
  companyName : String
  deriving DecidableEq, Repr

/-- Sign-up: an account, and the tenant of its company. -/
def Clients.register (host : Host) (settings : Billing.Settings) (now : Nat) (clients : Clients)
    (request : SignUp) : Except ClientRefusal Clients :=
  let email := normalizeEmail host.unicode request.email
  if clients.users.rows.any fun row => host.iexact row.email email then
    .error (.invalid "Impossible de créer un compte avec ces informations.")
  else
    let registered := clients.createUser email (some (host.makePassword request.password)) true
    match registered.createTenantWithOwner host settings now request.companyName clients.users.next
      {} with
    | .ok opened => .ok opened
    | .error _ =>
        .error (.invalid
          ("Les inscriptions sont momentanément fermées, faute de capacité " ++
            "disponible. Écrivez-nous pour être prévenu de leur réouverture."))

/-- The account of an address, created when there is none. -/
def Clients.getOrCreateUser (clients : Clients) (email : String) : Clients × Nat :=
  match clients.users.rows.find? fun row => row.email = email with
  | some user => (clients, user.id)
  | none => (clients.createUser email none true, clients.users.next)

/-- Convert a request for a demonstration.  The account stays where the tenant is
refused. -/
def Clients.convert (host : Host) (settings : Billing.Settings) (now : Nat) (clients : Clients)
    (key : Nat) : Clients × Except ClientRefusal Unit :=
  match clients.demoRequests.find? key with
  | none => (clients, .error .notFound)
  | some demande =>
      if clients.tenants.rows.any fun row => row.name = demande.company then
        (clients, .error (.conflict "Une entreprise portant ce nom existe déjà."))
      else
        let (known, owner) := clients.getOrCreateUser demande.email
        match known.createTenantWithOwner host settings now demande.company owner {} with
        | .error refusal => (known, .error refusal)
        | .ok opened =>
            ({ opened with
              demoRequests := opened.demoRequests.modify key
                (fun row => { row with status := .closed }) (fun _ => rfl) }, .ok ())

/-! ## The console -/

inductive Engagement where
  | trial
  | active
  deriving DecidableEq, Repr

structure ClientRequest where
  name : String
  ownerEmail : String
  plan : Option Nat
  engagement : Engagement
  trialDays : Option Nat
  fiche : Fiche
  actor : Option Nat
  rawToken : String
  deriving DecidableEq, Repr

/-- The account of the first user; a new one has no usable password and is not active. -/
def Clients.ownerAccount (host : Host) (clients : Clients) (email : String) : Clients × Nat :=
  match clients.users.rows.find? fun row => host.iexact row.email email with
  | some user => (clients, user.id)
  | none => (clients.createUser (normalizeEmail host.unicode email) none false, clients.users.next)

/-- The subscription of a new client: a trial, or an active one at once. -/
def ClientRequest.subscribe (settings : Billing.Settings) (now : Nat) (billing : Billing.Store)
    (tenant : Nat) (request : ClientRequest) : Except ClientRefusal Billing.Store := do
  let trial ← sold (billing.startTrial settings now tenant request.plan request.actor
    request.trialDays)
  match request.engagement with
  | .trial => return trial
  | .active =>
      sold (trial.activate settings now billing.subscriptions.next none request.actor
        "Client créé directement en abonnement actif.")

/-- A tenant, its first user and its subscription.  A refusal undoes the whole. -/
def Clients.createClient (host : Host) (settings : Billing.Settings) (now : Nat)
    (clients : Clients) (request : ClientRequest) : Except ClientRefusal Clients := do
  let name ← clients.checkName host request.name none fun name =>
    s!"Une entreprise nommée « {name} » existe déjà."
  let email := host.unicode.lower (strip request.ownerEmail)
  if email = "" then
    throw (.tenant (.refused "L'adresse email du premier utilisateur est obligatoire."))
  let (known, owner) := clients.ownerAccount host email
  let opened := known.openTenant host name request.fiche owner
  let billing ← request.subscribe settings now opened.billing known.tenants.next
  let invited := createAccessInvitation host.runtime now request.rawToken opened.console owner
    .invitation request.actor none
  return { opened with billing, links := invited.1.links }

/-- The edited fields of a card; a field left out is `none`. -/
structure TenantChanges where
  name : Option String := none
  sector : Option String := none
  headcount : Option (Option Nat) := none
  contactEmail : Option String := none
  contactPhone : Option String := none
  address : Option String := none
  website : Option String := none
  accountManager : Option String := none
  internalNotes : Option String := none
  scanCooldownMinutes : Option (Option Nat) := none
  deriving DecidableEq, Repr

def TenantChanges.apply (changes : TenantChanges) (name : Option String) (row : Tenant) : Tenant :=
  { row with
    name := name.getD row.name
    fiche :=
      { sector := changes.sector.getD row.fiche.sector
        headcount := changes.headcount.getD row.fiche.headcount
        contactEmail := changes.contactEmail.getD row.fiche.contactEmail
        contactPhone := changes.contactPhone.getD row.fiche.contactPhone
        address := changes.address.getD row.fiche.address
        website := changes.website.getD row.fiche.website
        accountManager := changes.accountManager.getD row.fiche.accountManager
        internalNotes := changes.internalNotes.getD row.fiche.internalNotes
        scanCooldownMinutes := changes.scanCooldownMinutes.getD row.fiche.scanCooldownMinutes } }

/-- The new name of an edited tenant, when the edit names it. -/
def Clients.checkRenaming (host : Host) (clients : Clients) (key : Nat) :
    Option String → Except ClientRefusal (Option String)
  | none => .ok none
  | some name =>
      (clients.checkName host name (some key) fun name =>
        s!"Une autre entreprise porte déjà le nom « {name} ».").map some

def Clients.updateTenant (host : Host) (clients : Clients) (key : Nat) (changes : TenantChanges) :
    Except ClientRefusal Clients := do
  let tenant ← require (clients.tenants.find? key)
  let name ← clients.checkRenaming host tenant.id changes.name
  return { clients with tenants := clients.tenants.modify key (changes.apply name) (fun _ => rfl) }

/-- Cancel the subscription of a tenant that still consumes: it would keep slots of the pool. -/
def Clients.cancelSubscription (now : Nat) (clients : Clients) (tenant : Nat) (actor : Option Nat) :
    Except ClientRefusal Billing.Store :=
  match (clients.billing.getSubscription tenant).filter Billing.Subscription.isOperational with
  | none => .ok clients.billing
  | some subscription =>
      sold (clients.billing.cancel now subscription.id actor "Entreprise archivée.")

def Clients.archiveTenant (now : Nat) (clients : Clients) (key : Nat) (actor : Option Nat)
    (reason : String) : Except ClientRefusal Clients := do
  let tenant ← require (clients.tenants.find? key)
  if tenant.isArchived then return clients
  let billing ← clients.cancelSubscription now tenant.id actor
  return { clients with
    billing
    tenants := clients.tenants.modify key (Tenant.archived now actor reason) (fun _ => rfl) }

/-- The subscription stays cancelled. -/
def Clients.restoreTenant (clients : Clients) (key : Nat) : Except ClientRefusal Clients := do
  let tenant ← require (clients.tenants.find? key)
  if !tenant.isArchived then return clients
  return { clients with tenants := clients.tenants.modify key Tenant.restored (fun _ => rfl) }

/-! ## Runs -/

inductive Operation where
  | createClient (request : ClientRequest)
  | register (request : SignUp)
  | convert (demande : Nat)
  | updateTenant (tenant : Nat) (changes : TenantChanges)
  | archiveTenant (tenant : Nat) (actor : Option Nat) (reason : String)
  | restoreTenant (tenant : Nat)
  deriving DecidableEq, Repr

/-- An operation, the settings it reads and the time it is made at. -/
structure TenantRequest where
  settings : Billing.Settings
  now : Nat
  operation : Operation

/-- What a transaction leaves; a refused one leaves nothing. -/
def Clients.commit (clients : Clients) (outcome : Except ClientRefusal Clients) : Clients :=
  match outcome with
  | .ok after => after
  | .error _ => clients

def Clients.step (host : Host) (clients : Clients) (request : TenantRequest) : Clients :=
  match request.operation with
  | .createClient client =>
      clients.commit (clients.createClient host request.settings request.now client)
  | .register signUp => clients.commit (clients.register host request.settings request.now signUp)
  | .convert demande => (clients.convert host request.settings request.now demande).1
  | .updateTenant key changes => clients.commit (clients.updateTenant host key changes)
  | .archiveTenant key actor reason =>
      clients.commit (clients.archiveTenant request.now key actor reason)
  | .restoreTenant key => clients.commit (clients.restoreTenant key)

end RssiService.Tenants
