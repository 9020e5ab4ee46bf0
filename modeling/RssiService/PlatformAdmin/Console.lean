import RssiService.Accounts.Identity
import RssiService.Tenants.Members

/-!
# The administration of accounts

The console manages the members of the tenants and the administrators of the
platform.  It never sees a password: it issues links, and the person who
receives one chooses the password and makes the account usable.
-/

namespace RssiService.PlatformAdmin

open Foundation Python
open Accounts
open Tenants (Membership Role TenantError checkInvitation)

/-! ## State -/

inductive Level where
  | full
  | commercial
  deriving DecidableEq, Repr

def Level.ofValue? : String → Option Level
  | "full" => some .full
  | "commercial" => some .commercial
  | _ => none

structure PlatformAdminProfile where
  id : Nat
  user : Nat
  level : Level
  invitedBy : Option Nat
  deriving DecidableEq, Repr

instance : Identified PlatformAdminProfile := ⟨PlatformAdminProfile.id⟩

structure Tenant where
  id : Nat
  archivedAt : Option Nat
  deriving DecidableEq, Repr

instance : Identified Tenant := ⟨Tenant.id⟩

theorem Tenant.ident_opened (key : Nat) : ident ({ id := key, archivedAt := none } : Tenant) = key :=
  rfl

structure Console where
  users : Table User
  members : Table Membership
  tenants : Table Tenant
  profiles : Table PlatformAdminProfile
  links : Table AccessInvitation
  lockouts : Lockouts

def Console.modifyUser (console : Console) (key : Nat) (change : User → User)
    (keeps : ∀ row, ident (change row) = ident row) : Console :=
  { console with users := console.users.modify key change keeps }

def Console.findByEmail (runtime : Runtime) (console : Console) (email : String) : Option User :=
  console.users.rows.find? fun row => runtime.iexact row.email email

/-- A new account has no usable password and is not active. -/
def Console.createUser (console : Console) (email : String) (isStaff : Bool) : Console × User :=
  let build := fun key =>
    { id := key, email, password := none, isActive := false, isStaff, isSuperuser := false : User }
  ({ console with users := console.users.create build (fun _ => rfl) }, build console.users.next)

/-! ## Access links -/

/-- Issue a link.  The unused ones of the same purpose are marked as used. -/
def createAccessInvitation (runtime : Runtime) (now : Nat) (rawToken : String) (console : Console)
    (user : Nat) (purpose : Purpose) (actor : Option Nat) (ttlHours : Option Nat) :
    Console × AccessInvitation :=
  let links := console.links.updateWhere
    (fun row => row.user = user && row.purpose = purpose && row.usedAt.isNone)
    (fun row => { row with usedAt := some now }) (fun _ => rfl)
  let build := fun key =>
    { id := key
      user
      purpose
      tokenHash := runtime.sha256 rawToken
      expiresAt := now + ttlHours.getD purpose.ttlHours * microsecondsPerHour
      usedAt := none
      createdBy := actor
      createdAt := now : AccessInvitation }
  ({ console with links := links.create build (fun _ => rfl) }, build links.next)

def resolveAccessInvitation (runtime : Runtime) (now : Nat) (console : Console)
    (rawToken : String) : Option AccessInvitation :=
  resolveLink runtime now console.links rawToken

/-- Consume a link: it sets the password and makes the account active.  An
account is deleted together with its links. -/
def acceptAccessInvitation (runtime : Runtime) (now : Nat) (console : Console)
    (rawToken newPassword : String) : Except InvitationError (Console × User) :=
  match (resolveAccessInvitation runtime now console rawToken).bind fun link =>
      (console.users.find? link.user).map fun user => (link, user) with
  | none =>
      .error (.refused
        "Ce lien n'est plus valable. Demandez-en un nouveau à votre administrateur.")
  | some (link, user) =>
      let change := User.withPassword (runtime.makePassword newPassword)
      .ok
        ({ console with
            users := console.users.modify user.id change (fun _ => rfl)
            links := console.links.modify link.id (AccessInvitation.use now) (fun _ => rfl)
            lockouts := clearFailedAttempts runtime console.lockouts user.email "" },
          change user)

/-! ## Members of a tenant -/

/-- Add a member, whose account is created when the address is unknown.  The
quota of the offer is checked before anything is written. -/
def inviteMember (runtime : Runtime) (now : Nat) (rawToken : String) (console : Console)
    (quota : Except TenantError Unit) (tenant : Nat) (email role : String) (actor : Option Nat) :
    Except TenantError (Console × AccessInvitation) := do
  let (email, role) ← checkInvitation runtime.unicode email role
  quota
  let (console, user) :=
    match console.findByEmail runtime email with
    | some user => (console, user)
    | none => console.createUser email false
  if console.members.rows.any fun row => row.tenant = tenant && row.user = user.id then
    throw (.refused "Cette personne fait déjà partie de cette entreprise.")
  let members := console.members.create
    (fun key => { id := key, tenant, user := user.id, role }) (fun _ => rfl)
  return createAccessInvitation runtime now rawToken { console with members } user.id .invitation
    actor none

/-- Create a tenant with its first administrator.  The name and the subscription are
checked elsewhere, and a refusal undoes the whole. -/
def createClient (runtime : Runtime) (now : Nat) (rawToken : String) (console : Console)
    (named subscribed : Except TenantError Unit) (ownerEmail : String) (actor : Option Nat) :
    Except TenantError (Console × AccessInvitation) := do
  named
  let email := runtime.unicode.lower (strip ownerEmail)
  if email = "" then
    throw (.refused "L'adresse email du premier utilisateur est obligatoire.")
  let (console, user) :=
    match console.findByEmail runtime email with
    | some user => (console, user)
    | none => console.createUser email false
  let tenants := console.tenants.create (fun key => { id := key, archivedAt := none })
    Tenant.ident_opened
  let members := console.members.create
    (fun key => { id := key, tenant := console.tenants.next, user := user.id, role := .admin })
    (fun _ => rfl)
  subscribed
  return createAccessInvitation runtime now rawToken { console with tenants, members } user.id
    .invitation actor none

/-- No other membership of the tenant has the role of administrator. -/
def Console.isLastAdmin (console : Console) (membership : Membership) : Bool :=
  membership.role = .admin &&
    (console.members.rows.countP fun row =>
      row.tenant = membership.tenant && row.role = .admin && row.id ≠ membership.id) = 0

def lastAdminError : TenantError :=
  .refused
    ("C'est le dernier administrateur de cette entreprise. Nommez d'abord " ++
      "un autre administrateur.")

def changeMemberRole (console : Console) (membership : Membership) (role : String) :
    Except TenantError Console :=
  match Role.ofValue? role with
  | none => .error (.refused "Rôle inconnu.")
  | some role =>
      if role ≠ .admin ∧ console.isLastAdmin membership = true then .error lastAdminError
      else
        .ok
          { console with
            members := console.members.modify membership.id (fun row => { row with role })
              (fun _ => rfl) }

/-- Cut or restore the access of a person, in every tenant. -/
def setMemberActive (console : Console) (membership : Membership) (active : Bool) :
    Except TenantError Console :=
  if active = false ∧ console.isLastAdmin membership = true then .error lastAdminError
  else
    .ok (console.modifyUser membership.user (fun row => { row with isActive := active })
      (fun _ => rfl))

/-- The account remains. -/
def removeMember (console : Console) (membership : Membership) : Except TenantError Console :=
  if console.isLastAdmin membership then .error lastAdminError
  else
    .ok { console with members := console.members.deleteWhere fun row => row.id = membership.id }

/-! ## Administrators of the platform -/

inductive AdminManagementError where
  | refused (message : String)
  deriving DecidableEq, Repr

/-- An account without profile has the full level. -/
def Console.isFull (console : Console) (user : User) : Bool :=
  match console.profiles.rows.find? fun row => row.user = user.id with
  | none => true
  | some profile => profile.level = .full

/-- An active administrator of the full level. -/
def Console.isFullAdmin (console : Console) (user : User) : Bool :=
  user.isStaff && user.isActive && console.isFull user

def Console.countFullAdmins (console : Console) (excludeUser : Option Nat) : Nat :=
  console.users.rows.countP fun user =>
    excludeUser ≠ some user.id && console.isFullAdmin user

/-- `update_or_create` of the profile of an account. -/
def Console.setLevel (console : Console) (user : Nat) (level : Level)
    (invitedBy : Option (Option Nat)) : Console :=
  if console.profiles.rows.any fun row => row.user = user then
    { console with
      profiles := console.profiles.updateWhere (fun row => row.user = user)
        (fun row => { row with level, invitedBy := invitedBy.getD row.invitedBy })
        (fun _ => rfl) }
  else
    { console with
      profiles := console.profiles.create
        (fun key => { id := key, user, level, invitedBy := invitedBy.getD none })
        (fun _ => rfl) }

/-- The address and the level of an invitation, checked before anything is read. -/
def checkAdminInvitation (runtime : Runtime) (email level : String) :
    Except AdminManagementError (String × Level) :=
  let email := runtime.unicode.lower (strip email)
  if email = "" then .error (.refused "L'adresse email est obligatoire.")
  else
    match Level.ofValue? level with
    | none => .error (.refused "Niveau d'administration inconnu.")
    | some level => .ok (email, level)

/-- Create an administrator, or promote a known account. -/
def invitePlatformAdmin (runtime : Runtime) (now : Nat) (rawToken : String) (console : Console)
    (email level : String) (actor : Option Nat) :
    Except AdminManagementError (Console × AccessInvitation) :=
  match checkAdminInvitation runtime email level with
  | .error error => .error error
  | .ok (email, level) =>
      let (console, user) :=
        match console.findByEmail runtime email with
        | some user =>
            (console.modifyUser user.id (fun row => { row with isStaff := true }) (fun _ => rfl),
              user)
        | none => console.createUser email true
      .ok (createAccessInvitation runtime now rawToken
        (console.setLevel user.id level (some actor)) user.id .invitation actor none)

def changeAdminLevel (console : Console) (user : User) (level : String) (actor : Option Nat) :
    Except AdminManagementError Console :=
  match Level.ofValue? level with
  | none => .error (.refused "Niveau d'administration inconnu.")
  | some level =>
      if actor = some user.id then
        .error (.refused "Vous ne pouvez pas modifier votre propre niveau.")
      else if level ≠ .full ∧ console.countFullAdmins (some user.id) = 0 then
        .error (.refused
          ("C'est le dernier administrateur complet. Nommez-en un autre avant de " ++
            "rétrograder celui-ci."))
      else .ok (console.setLevel user.id level none)

/-- The account remains. -/
def revokePlatformAdmin (console : Console) (user : User) (actor : Option Nat) :
    Except AdminManagementError Console :=
  if actor = some user.id then
    .error (.refused "Vous ne pouvez pas retirer vos propres droits.")
  else if console.countFullAdmins (some user.id) = 0 then
    .error (.refused
      ("C'est le dernier administrateur complet : le retirer rendrait la console " ++
        "inaccessible. Nommez-en un autre d'abord."))
  else
    .ok
      { console.modifyUser user.id
          (fun row => { row with isStaff := false, isSuperuser := false }) (fun _ => rfl) with
        profiles := console.profiles.deleteWhere fun row => row.user = user.id }

/-! ## What the writes leave -/

theorem mem_modifyUser {console : Console} {key : Nat} {change : User → User}
    {keeps : ∀ row, ident (change row) = ident row} {user : User} :
    user ∈ (console.modifyUser key change keeps).users ↔
      ∃ row ∈ console.users, (if row.id = key then change row else row) = user := by
  rw [Console.modifyUser, Table.mem_modify]
  rfl

end RssiService.PlatformAdmin
