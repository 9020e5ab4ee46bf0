import RssiService.Foundation.Table
import RssiService.Python.Text

/-!
# Members of a tenant

An account belongs to the platform and may be a member of several tenants, with
one role in each.
-/

namespace RssiService.Tenants

open Foundation Python

structure User where
  id : Nat
  email : String
  deriving DecidableEq, Repr

instance : Identified User := ⟨User.id⟩

inductive Role where
  | admin
  | contributor
  | reader
  deriving DecidableEq, Repr

def Role.ofValue? : String → Option Role
  | "admin" => some .admin
  | "contributor" => some .contributor
  | "reader" => some .reader
  | _ => none

structure Membership where
  id : Nat
  tenant : Nat
  user : Nat
  role : Role
  deriving DecidableEq, Repr

instance : Identified Membership := ⟨Membership.id⟩

structure Directory where
  users : Table User
  members : Table Membership

inductive TenantError where
  | refused (message : String)
  deriving DecidableEq, Repr

/-- The address and the role of an invitation, checked before anything is read. -/
def checkInvitation (unicode : Unicode) (email role : String) :
    Except TenantError (String × Role) :=
  let email := unicode.lower (strip email)
  if email = "" then .error (.refused "L'adresse email est obligatoire.")
  else
    match Role.ofValue? role with
    | none => .error (.refused "Rôle inconnu.")
    | some role => .ok (email, role)

def Directory.memberCount (directory : Directory) (tenant : Nat) : Nat :=
  directory.members.rows.countP fun row => row.tenant = tenant

def Directory.isMember (directory : Directory) (tenant user : Nat) : Bool :=
  directory.members.rows.any fun row => row.tenant = tenant && row.user = user

def Directory.checkNotMember (directory : Directory) (tenant : Nat) (user : Option Nat) :
    Except TenantError Unit :=
  if user.any (directory.isMember tenant) then
    .error (.refused "Cette personne fait déjà partie de cette entreprise.")
  else .ok ()

/-- Whom an invitation adds: a known account, or a new one. -/
inductive Invited where
  | known (user : Nat)
  | unknown (email : String)
  deriving DecidableEq, Repr

/-- The constraints of the tables: one account for an address, one membership of
an account in a tenant. -/
def Directory.isAddable (directory : Directory) (tenant : Nat) : Invited → Bool
  | .known user => !directory.isMember tenant user
  | .unknown email => !directory.users.rows.any fun row => row.email = email

def Directory.addMembership (directory : Directory) (tenant user : Nat) (role : Role) :
    Directory :=
  { directory with
    members := directory.members.create (fun key => { id := key, tenant, user, role })
      (fun _ => rfl) }

def Directory.addMember (directory : Directory) (tenant : Nat) (invited : Invited)
    (role : Role) : Directory :=
  match invited with
  | .known user => directory.addMembership tenant user role
  | .unknown email =>
      { directory with
        users := directory.users.create (fun key => { id := key, email }) (fun _ => rfl)
      : Directory }.addMembership tenant directory.users.next role

end RssiService.Tenants
