import RssiService.Foundation.Run
import RssiService.PlatformAdmin.Console

/-!
# The administrators of a tenant

A tenant must keep an administrator who can sign in.  The guard counts the
memberships of one tenant, active or not, while cutting an access takes the
account away from every tenant.
-/

namespace RssiService.PlatformAdmin

open Foundation Foundation.Run
open Accounts
open Tenants (Membership Role TenantError)

/-! ## Requests -/

/-- A request on a member, by the key of the membership. -/
inductive MemberEvent where
  | changeRole (membership : Nat) (role : String)
  | setActive (membership : Nat) (active : Bool)
  | remove (membership : Nat)
  deriving DecidableEq, Repr

def MemberEvent.membership : MemberEvent → Nat
  | .changeRole membership _ => membership
  | .setActive membership _ => membership
  | .remove membership => membership

def MemberEvent.perform (console : Console) (membership : Membership) :
    MemberEvent → Except TenantError Console
  | .changeRole _ role => changeMemberRole console membership role
  | .setActive _ active => setMemberActive console membership active
  | .remove _ => removeMember console membership

/-- An unknown membership is not found, and a refused request changes nothing. -/
def memberStep (console : Console) (event : MemberEvent) : Console :=
  match console.members.find? event.membership with
  | none => console
  | some membership =>
      match event.perform console membership with
      | .error _ => console
      | .ok after => after

/-! ## Administrators who can sign in -/

/-- The membership gives a tenant an administrator able to sign in. -/
structure Console.Administers (console : Console) (tenant : Nat) (member : Membership) : Prop where
  stored : member ∈ console.members
  here : member.tenant = tenant
  admin : member.role = .admin
  able : ∃ user ∈ console.users, user.id = member.user ∧ user.canSignIn = true

def Console.HasAdmin (console : Console) (tenant : Nat) : Prop :=
  ∃ member, console.Administers tenant member

/-- Every tenant that is not archived and had an administrator able to sign in
has one. -/
structure AdminsKept (before after : Console) : Prop where
  tenants : after.tenants = before.tenants
  kept : ∀ tenant ∈ before.tenants, tenant.archivedAt = none →
    before.HasAdmin tenant.id → after.HasAdmin tenant.id

/-- The membership, or the account behind it, is what the request takes away. -/
def MemberEvent.TakesAway (acting member : Membership) : MemberEvent → Prop
  | .changeRole _ role => member.id = acting.id ∧ ∃ other, Role.ofValue? role = some other ∧
      other ≠ .admin
  | .setActive _ active => active = false ∧ member.user = acting.user
  | .remove _ => member.id = acting.id

/-- When the membership is not the last of the administrators, each tenant that
has an administrator able to sign in has one that the request leaves alone. -/
def Spares (console : Console) (event : MemberEvent) : Prop :=
  ∀ acting, console.members.find? event.membership = some acting →
    console.isLastAdmin acting = false →
    ∀ tenant ∈ console.tenants, tenant.archivedAt = none → console.HasAdmin tenant.id →
      ∃ member, console.Administers tenant.id member ∧ ¬ event.TakesAway acting member

theorem AdminsKept.refl (console : Console) : AdminsKept console console :=
  ⟨rfl, fun _ _ _ has => has⟩

theorem AdminsKept.trans {first second third : Console} (near : AdminsKept first second)
    (far : AdminsKept second third) : AdminsKept first third where
  tenants := far.tenants.trans near.tenants
  kept := by
    intro tenant member live has
    exact far.kept tenant (near.tenants ▸ member) live (near.kept tenant member live has)

/-! ## One request -/

section Requests

variable {console after : Console} {acting member : Membership} {event : MemberEvent} {tenant : Nat}

/-- A request that only takes away. -/
theorem adminsKept_iff_of_takes (sameTenants : after.tenants = console.tenants)
    (takes : ∀ tenant member, after.Administers tenant member ↔
      console.Administers tenant member ∧ ¬ event.TakesAway acting member) :
    AdminsKept console after ↔
      ∀ tenant ∈ console.tenants, tenant.archivedAt = none → console.HasAdmin tenant.id →
        ∃ member, console.Administers tenant.id member ∧ ¬ event.TakesAway acting member := by
  constructor
  · intro kept tenant inside live has
    obtain ⟨member, administers⟩ := kept.kept tenant inside live has
    exact ⟨member, (takes tenant.id member).mp administers⟩
  · intro spares
    refine ⟨sameTenants, fun tenant inside live has => ?_⟩
    obtain ⟨member, left⟩ := spares tenant inside live has
    exact ⟨member, (takes tenant.id member).mpr left⟩

/-- A request that takes nothing away. -/
theorem adminsKept_iff_of_gives (sameTenants : after.tenants = console.tenants)
    (gives : ∀ tenant, console.HasAdmin tenant → after.HasAdmin tenant)
    (takesNothing : ∀ member, ¬ event.TakesAway acting member) :
    AdminsKept console after ↔
      ∀ tenant ∈ console.tenants, tenant.archivedAt = none → console.HasAdmin tenant.id →
        ∃ member, console.Administers tenant.id member ∧ ¬ event.TakesAway acting member := by
  refine iff_of_true ⟨sameTenants, fun tenant _ _ has => gives tenant.id has⟩ ?_
  rintro tenant _ _ ⟨member, administers⟩
  exact ⟨member, administers, takesNothing member⟩

theorem administers_demoted_iff {role : Role} (known : acting ∈ console.members)
    (demoted : role ≠ .admin) :
    Console.Administers { console with
        members := console.members.modify acting.id (fun row => { row with role })
          (fun _ => rfl) } tenant member ↔
      console.Administers tenant member ∧ member.id ≠ acting.id := by
  have stored : member ∈ console.members.modify acting.id (fun row => { row with role })
      (fun _ => rfl) ↔ member = { acting with role } ∨
        member ∈ console.members ∧ member.id ≠ acting.id :=
    @Table.mem_modify_of_mem _ _ _ _ known (fun row => { row with role }) (fun _ => rfl) member
  constructor
  · rintro ⟨inside, here, admin, able⟩
    rcases stored.mp inside with rfl | ⟨old, apart⟩
    · exact absurd admin demoted
    · exact ⟨⟨old, here, admin, able⟩, apart⟩
  · rintro ⟨⟨inside, here, admin, able⟩, apart⟩
    exact ⟨stored.mpr (Or.inr ⟨inside, apart⟩), here, admin, able⟩

theorem hasAdmin_promoted (known : acting ∈ console.members) (has : console.HasAdmin tenant) :
    Console.HasAdmin { console with
      members := console.members.modify acting.id (fun row => { row with role := .admin })
        (fun _ => rfl) } tenant := by
  have stored (member : Membership) : member ∈ console.members.modify acting.id
      (fun row => { row with role := .admin }) (fun _ => rfl) ↔
        member = { acting with role := .admin } ∨
          member ∈ console.members ∧ member.id ≠ acting.id :=
    @Table.mem_modify_of_mem _ _ _ _ known (fun row => { row with role := .admin })
      (fun _ => rfl) member
  obtain ⟨member, inside, here, admin, able⟩ := has
  by_cases same : member.id = acting.id
  · obtain rfl := Table.ident_injective inside known same
    exact ⟨_, (stored _).mpr (Or.inl rfl), here, rfl, able⟩
  · exact ⟨member, (stored _).mpr (Or.inr ⟨inside, same⟩), here, admin, able⟩

theorem administers_removed_iff :
    Console.Administers { console with
        members := console.members.deleteWhere fun row => row.id = acting.id } tenant member ↔
      console.Administers tenant member ∧ member.id ≠ acting.id := by
  constructor
  · rintro ⟨inside, here, admin, able⟩
    obtain ⟨old, apart⟩ := Table.mem_deleteWhere.mp inside
    exact ⟨⟨old, here, admin, able⟩, of_decide_eq_false apart⟩
  · rintro ⟨⟨inside, here, admin, able⟩, apart⟩
    exact ⟨Table.mem_deleteWhere.mpr ⟨inside, decide_eq_false apart⟩, here, admin, able⟩

/-- The accounts after an access is cut or restored. -/
theorem able_modified_iff {key : Nat} {active : Bool} {person : Nat} :
    (∃ user ∈ (console.modifyUser key (fun row => { row with isActive := active })
        (fun _ => rfl)).users, user.id = person ∧ user.canSignIn = true) ↔
      ∃ user ∈ console.users, user.id = person ∧
        (if person = key then active && user.password.isSome else user.canSignIn) = true := by
  constructor
  · rintro ⟨user, inside, rfl, able⟩
    obtain ⟨source, old, rfl⟩ := mem_modifyUser.mp inside
    by_cases mine : source.id = key
    · rw [if_pos mine] at able ⊢
      exact ⟨source, old, rfl, by rw [if_pos mine]; exact able⟩
    · rw [if_neg mine] at able ⊢
      exact ⟨source, old, rfl, by rw [if_neg mine]; exact able⟩
  · rintro ⟨user, inside, rfl, able⟩
    refine ⟨_, mem_modifyUser.mpr ⟨user, inside, rfl⟩, ?_⟩
    by_cases mine : user.id = key
    · rw [if_pos mine] at able ⊢
      exact ⟨rfl, able⟩
    · rw [if_neg mine] at able ⊢
      exact ⟨rfl, able⟩

theorem administers_cut_iff {key : Nat} :
    (console.modifyUser key (fun row => { row with isActive := false })
        (fun _ => rfl)).Administers tenant member ↔
      console.Administers tenant member ∧ member.user ≠ key := by
  constructor
  · rintro ⟨inside, here, admin, able⟩
    obtain ⟨user, old, same, able⟩ := able_modified_iff.mp able
    have apart : member.user ≠ key := by
      intro mine
      rw [if_pos mine] at able
      cases able
    rw [if_neg apart] at able
    exact ⟨⟨inside, here, admin, user, old, same, able⟩, apart⟩
  · rintro ⟨⟨inside, here, admin, user, old, same, able⟩, apart⟩
    refine ⟨inside, here, admin, able_modified_iff.mpr ⟨user, old, same, ?_⟩⟩
    rwa [if_neg apart]

theorem hasAdmin_restored {key : Nat} (has : console.HasAdmin tenant) :
    (console.modifyUser key (fun row => { row with isActive := true })
      (fun _ => rfl)).HasAdmin tenant := by
  obtain ⟨member, inside, here, admin, user, old, same, able⟩ := has
  refine ⟨member, inside, here, admin, able_modified_iff.mpr ⟨user, old, same, ?_⟩⟩
  split
  · exact (Bool.and_eq_true_iff.mp able).2
  · exact able

/-- The state after a request on a known membership. -/
def MemberEvent.outcome (console : Console) (acting : Membership) (event : MemberEvent) : Console :=
  match event.perform console acting with
  | .error _ => console
  | .ok after => after

/-- The guard refuses what would take the last administrator away. -/
theorem adminsKept_of_last (known : acting ∈ console.members)
    (last : console.isLastAdmin acting = true) :
    AdminsKept console (event.outcome console acting) := by
  cases event with
  | changeRole key role =>
      rw [MemberEvent.outcome, MemberEvent.perform, changeMemberRole]
      cases Role.ofValue? role with
      | none => exact AdminsKept.refl console
      | some role =>
          by_cases promoted : role = .admin
          · subst promoted
            simp only [ne_eq, not_true, false_and, if_false]
            exact ⟨rfl, fun _ _ _ has => hasAdmin_promoted known has⟩
          · simp only [ne_eq, promoted, not_false_eq_true, last, and_self, if_true]
            exact AdminsKept.refl console
  | setActive key active =>
      rw [MemberEvent.outcome, MemberEvent.perform, setMemberActive]
      cases active with
      | false =>
          rw [if_pos ⟨rfl, last⟩]
          exact AdminsKept.refl console
      | true =>
          rw [if_neg (by rintro ⟨⟨⟩, _⟩)]
          exact ⟨rfl, fun _ _ _ has => hasAdmin_restored has⟩
  | remove key =>
      rw [MemberEvent.outcome, MemberEvent.perform, removeMember, if_pos last]
      exact AdminsKept.refl console

/-- Past the guard, the administrators left are those the request leaves alone. -/
theorem adminsKept_iff_of_not_last (known : acting ∈ console.members)
    (last : console.isLastAdmin acting = false) :
    AdminsKept console (event.outcome console acting) ↔
      ∀ tenant ∈ console.tenants, tenant.archivedAt = none → console.HasAdmin tenant.id →
        ∃ member, console.Administers tenant.id member ∧ ¬ event.TakesAway acting member := by
  have passes {refusing : Prop} : ¬ (refusing ∧ console.isLastAdmin acting = true) := by
    rw [last]
    rintro ⟨_, ⟨⟩⟩
  cases event with
  | changeRole key role =>
      rw [MemberEvent.outcome, MemberEvent.perform, changeMemberRole]
      cases value : Role.ofValue? role with
      | none =>
          refine adminsKept_iff_of_gives rfl (fun _ has => has) fun member => ?_
          rintro ⟨_, other, known, _⟩
          rw [value] at known
          cases known
      | some role =>
          dsimp only
          rw [if_neg passes]
          by_cases promoted : role = .admin
          · subst promoted
            refine adminsKept_iff_of_gives rfl (fun _ has => hasAdmin_promoted known has) ?_
            rintro member ⟨_, other, same, apart⟩
            rw [value] at same
            exact apart (Option.some.inj same).symm
          · refine adminsKept_iff_of_takes rfl fun tenant member => ?_
            refine (administers_demoted_iff known promoted).trans (and_congr_right fun _ => ?_)
            exact not_congr (and_iff_left ⟨role, value, promoted⟩).symm
  | setActive key active =>
      rw [MemberEvent.outcome, MemberEvent.perform, setMemberActive, if_neg passes]
      cases active with
      | false =>
          refine adminsKept_iff_of_takes rfl fun tenant member => ?_
          refine administers_cut_iff.trans (and_congr_right fun _ => not_congr ?_)
          exact (and_iff_right rfl).symm
      | true =>
          refine adminsKept_iff_of_gives rfl (fun _ has => hasAdmin_restored has) ?_
          rintro member ⟨⟨⟩, _⟩
  | remove key =>
      rw [MemberEvent.outcome, MemberEvent.perform, removeMember, last]
      exact adminsKept_iff_of_takes rfl fun tenant member => administers_removed_iff

/-- What one request does to the administrators of the tenants. -/
theorem adminsKept_step_iff (console : Console) (event : MemberEvent) :
    AdminsKept console (memberStep console event) ↔ Spares console event := by
  rw [memberStep, Spares]
  cases found : console.members.find? event.membership with
  | none => exact iff_of_true (AdminsKept.refl console) (by rintro acting ⟨⟩)
  | some acting =>
      have known : acting ∈ console.members := Table.mem_of_find? found
      simp only [Option.some.injEq, forall_eq']
      cases last : console.isLastAdmin acting with
      | true =>
          refine iff_of_true ?_ (by rintro ⟨⟩)
          exact adminsKept_of_last known last
      | false =>
          rw [forall_prop_of_true rfl]
          exact adminsKept_iff_of_not_last known last

end Requests

/-! ## Runs -/

/-- Over any run, every tenant that is not archived and had an administrator able
to sign in keeps one exactly when each request past the guard leaves one alone. -/
theorem tenant_admins_kept_iff (start : Console) (events : List MemberEvent) :
    Related memberStep AdminsKept start events ↔ EachStep memberStep Spares start events :=
  related_iff_of_step AdminsKept.refl (fun _ _ _ => AdminsKept.trans) adminsKept_step_iff start
    events

/-! The only administrator who can sign in leaves, and an invited one who never
chose a password remains. -/

section NeverSignedIn

def founderAndInvited : Console where
  users :=
    (Table.empty.create
        (fun key => ⟨key, "dirigeant@acme.fr", some "hash", true, false, false⟩)
        (fun _ => rfl)).create
      (fun key => ⟨key, "invite@acme.fr", none, false, false, false⟩) (fun _ => rfl)
  members :=
    (Table.empty.create (fun key => ⟨key, 0, 0, .admin⟩) (fun _ => rfl)).create
      (fun key => ⟨key, 0, 1, .admin⟩) (fun _ => rfl)
  tenants := Table.empty.create (fun key => ⟨key, none⟩) Tenant.ident_opened
  profiles := Table.empty
  links := Table.empty
  lockouts := Lockouts.empty

theorem founder_leaves_no_admin :
    ¬ Related memberStep AdminsKept founderAndInvited [.remove 0] := by
  intro related
  have kept : AdminsKept founderAndInvited (memberStep founderAndInvited (.remove 0)) :=
    related.1.2
  have before : founderAndInvited.HasAdmin 0 :=
    ⟨⟨0, 0, 0, .admin⟩, by decide, rfl, rfl, ⟨0, "dirigeant@acme.fr", some "hash", true, false,
      false⟩, by decide, rfl, rfl⟩
  obtain ⟨member, inside, _, _, user, known, same, able⟩ :=
    kept.kept ⟨0, none⟩ (by decide) rfl before
  have onlyInvited : ∀ row ∈ (memberStep founderAndInvited (.remove 0)).members, row.user = 1 := by
    decide
  have unable : ∀ row ∈ (memberStep founderAndInvited (.remove 0)).users, row.id = 1 →
      row.canSignIn = false := by
    decide
  rw [unable user known (same.trans (onlyInvited member inside))] at able
  cases able

end NeverSignedIn

end RssiService.PlatformAdmin
