import Mathlib.Data.List.MinMax
import RssiService.Accounts.Lockout
import RssiService.Foundation.Table

/-!
# Accounts and access links

Nobody chooses the password of another person: a link is issued, and whoever
receives it sets the password and makes the account active.
-/

namespace RssiService.Accounts

open Foundation

/-! ## Accounts -/

/-- An account of the platform; `password` is its hash, when it has one. -/
structure User where
  id : Nat
  email : String
  password : Option String
  isActive : Bool
  isStaff : Bool
  isSuperuser : Bool
  deriving DecidableEq, Repr

instance : Identified User := ⟨User.id⟩

/-- An account signs in when it is active and has a password. -/
def User.canSignIn (user : User) : Bool := user.isActive && user.password.isSome

/-! ## Access links -/

inductive Purpose where
  | invitation
  | reset
  deriving DecidableEq, Repr

/-- A link by which the owner of an account sets a password. -/
structure AccessInvitation where
  id : Nat
  user : Nat
  purpose : Purpose
  tokenHash : String
  expiresAt : Nat
  usedAt : Option Nat
  createdBy : Option Nat
  createdAt : Nat
  deriving DecidableEq, Repr

instance : Identified AccessInvitation := ⟨AccessInvitation.id⟩

def AccessInvitation.isUsable (now : Nat) (link : AccessInvitation) : Bool :=
  link.usedAt.isNone && decide (now < link.expiresAt)

/-- The usable link of a token; an unknown token and an expired one look alike. -/
def resolveLink (runtime : Runtime) (now : Nat) (links : Table AccessInvitation)
    (rawToken : String) : Option AccessInvitation :=
  ((links.rows.filter fun row => row.tokenHash = runtime.sha256 rawToken).argmax
    AccessInvitation.createdAt).filter (AccessInvitation.isUsable now)

def invitationTtlHours : Nat := 72

def resetTtlHours : Nat := 2

def Purpose.ttlHours : Purpose → Nat
  | .invitation => invitationTtlHours
  | .reset => resetTtlHours

inductive InvitationError where
  | refused (message : String)
  deriving DecidableEq, Repr

/-- The account whose password is set by a link. -/
def User.withPassword (password : String) (user : User) : User :=
  { user with password := some password, isActive := true }

theorem User.ident_withPassword (password : String) (user : User) :
    ident (user.withPassword password) = ident user := rfl

def AccessInvitation.use (now : Nat) (link : AccessInvitation) : AccessInvitation :=
  { link with usedAt := some now }

theorem AccessInvitation.ident_use (now : Nat) (link : AccessInvitation) :
    ident (link.use now) = ident link := rfl

theorem resolveLink_eq_some {runtime : Runtime} {now : Nat} {links : Table AccessInvitation}
    {rawToken : String} {link : AccessInvitation}
    (resolved : resolveLink runtime now links rawToken = some link) :
    link ∈ links ∧ link.tokenHash = runtime.sha256 rawToken ∧ link.isUsable now = true := by
  obtain ⟨latest, usable⟩ := Option.filter_eq_some_iff.mp resolved
  obtain ⟨inside, matching⟩ := List.mem_filter.mp (List.argmax_mem latest)
  exact ⟨inside, of_decide_eq_true matching, usable⟩

end RssiService.Accounts
