import RssiService.Foundation.Run
import RssiService.PlatformAdmin.Console

/-!
# The administrators of the platform

One active administrator of the full level must remain.  The changes of level
and the removals are guarded; an invitation of a known address and the
deactivation of a member are not.
-/

namespace RssiService.PlatformAdmin

open Foundation Foundation.Run
open Accounts

/-! ## Requests -/

inductive AdminEvent where
  | invite (now : Nat) (rawToken email level : String) (actor : Option Nat)
  | changeLevel (user : Nat) (level : String) (actor : Option Nat)
  | revoke (user : Nat) (actor : Option Nat)
  | setMemberActive (membership : Nat) (active : Bool)

/-- An unknown account or membership is not found, and a refused request changes
nothing. -/
def adminStep (runtime : Accounts.Runtime) (console : Console) : AdminEvent → Console
  | .invite now rawToken email level actor =>
      match invitePlatformAdmin runtime now rawToken console email level actor with
      | .error _ => console
      | .ok (after, _) => after
  | .changeLevel user level actor =>
      match console.users.find? user with
      | none => console
      | some user =>
          match changeAdminLevel console user level actor with
          | .error _ => console
          | .ok after => after
  | .revoke user actor =>
      match console.users.find? user with
      | none => console
      | some user =>
          match revokePlatformAdmin console user actor with
          | .error _ => console
          | .ok after => after
  | .setMemberActive membership active =>
      match console.members.find? membership with
      | none => console
      | some membership =>
          match setMemberActive console membership active with
          | .error _ => console
          | .ok after => after

/-! ## The claim and its condition -/

/-- Some account is an active administrator of the full level. -/
def Console.HasFullAdmin (console : Console) : Prop :=
  ∃ user ∈ console.users, console.isFullAdmin user = true

/-- An account other than the given one is an active administrator of the full
level. -/
def Console.HasOtherFullAdmin (console : Console) (key : Nat) : Prop :=
  ∃ user ∈ console.users, console.isFullAdmin user = true ∧ user.id ≠ key

/-- Where a known address is invited at the commercial level, or the access of a
member is cut, another full administrator is there. -/
def LeavesFullAdmin (runtime : Accounts.Runtime) (console : Console) : AdminEvent → Prop
  | .invite _ _ email level _ =>
      ∀ address, checkAdminInvitation runtime email level = .ok (address, .commercial) →
        ∀ user, console.findByEmail runtime address = some user → console.HasOtherFullAdmin user.id
  | .changeLevel _ _ _ | .revoke _ _ => True
  | .setMemberActive membership active =>
      active = false → ∀ acting, console.members.find? membership = some acting →
        console.isLastAdmin acting = false → console.HasOtherFullAdmin acting.user

/-! ## Levels -/

section Levels

variable {console : Console} {key : Nat} {level : Level} {invitedBy : Option (Option Nat)}
  {user : User}

/-- A change of level concerns one account. -/
theorem isFull_setLevel :
    (console.setLevel key level invitedBy).isFull user =
      if user.id = key then decide (level = .full) else console.isFull user := by
  rw [Console.setLevel]
  split
  · rename_i known
    rw [Console.isFull, Console.isFull]
    dsimp only
    rw [Table.search_updateWhere]
    swap
    · exact fun _ => rfl
    cases found : console.profiles.rows.find? fun row => row.user = user.id with
    | none =>
        have unknown : user.id ≠ key := by
          rintro rfl
          obtain ⟨row, inside, mine⟩ := List.any_eq_true.mp known
          exact List.find?_eq_none.mp found row inside mine
        rw [if_neg unknown]
        rfl
    | some profile =>
        have mine : profile.user = user.id := by simpa using List.find?_some found
        simp only [Option.map_some, decide_eq_true_eq, mine]
        by_cases same : user.id = key
        · rw [if_pos same, if_pos same]
        · rw [if_neg same, if_neg same]
  · rename_i unknown
    have absent : ∀ row ∈ console.profiles.rows, row.user ≠ key := by simpa using unknown
    rw [Console.isFull, Console.isFull, Table.create, List.find?_append]
    cases found : console.profiles.rows.find? fun row => row.user = user.id with
    | none =>
        by_cases mine : user.id = key
        · simp [mine]
        · simp [mine, Ne.symm mine]
    | some profile =>
        have mine : profile.user = user.id := by simpa using List.find?_some found
        have other : user.id ≠ key := mine ▸ absent profile (List.mem_of_find?_eq_some found)
        simp [other]

theorem users_setLevel : (console.setLevel key level invitedBy).users = console.users := by
  rw [Console.setLevel]
  split <;> rfl

theorem mem_users_setLevel :
    user ∈ (console.setLevel key level invitedBy).users ↔ user ∈ console.users := by
  rw [users_setLevel]

/-- The level of an account matters to that account only. -/
theorem isFullAdmin_setLevel_of_ne (apart : user.id ≠ key) :
    (console.setLevel key level invitedBy).isFullAdmin user = console.isFullAdmin user := by
  rw [Console.isFullAdmin, Console.isFullAdmin, isFull_setLevel, if_neg apart]

theorem isFullAdmin_setLevel_full (user : User) (isFull : console.isFullAdmin user = true) :
    (console.setLevel key .full invitedBy).isFullAdmin user = true := by
  by_cases mine : user.id = key
  · simp only [Console.isFullAdmin, Bool.and_eq_true] at isFull ⊢
    rw [isFull_setLevel, if_pos mine]
    exact ⟨isFull.1, rfl⟩
  · rw [isFullAdmin_setLevel_of_ne mine, isFull]

theorem not_isFullAdmin_setLevel_commercial (mine : user.id = key) :
    (console.setLevel key .commercial invitedBy).isFullAdmin user = false := by
  rw [Console.isFullAdmin, isFull_setLevel, if_pos mine]
  exact Bool.and_false _

/-- Removing the profile of an account leaves the levels of the others. -/
theorem isFullAdmin_deleteProfiles (apart : user.id ≠ key) :
    Console.isFullAdmin { console with
        profiles := console.profiles.deleteWhere fun row => row.user = key } user =
      console.isFullAdmin user := by
  have same : ((console.profiles.deleteWhere fun row => row.user = key).rows.find?
        fun row => row.user = user.id) =
      console.profiles.rows.find? fun row => row.user = user.id := by
    rw [Table.deleteWhere, List.find?_filter]
    congr 1
    funext row
    by_cases mine : row.user = user.id
    · simp [mine, apart]
    · simp [mine]
  rw [Console.isFullAdmin, Console.isFullAdmin, Console.isFull, Console.isFull, same]

/-- The guard of the changes of level and of the removals. -/
theorem countFullAdmins_eq_zero_iff :
    console.countFullAdmins (some key) = 0 ↔ ¬ console.HasOtherFullAdmin key := by
  rw [Console.countFullAdmins, List.countP_eq_zero, Console.HasOtherFullAdmin]
  constructor
  · rintro none ⟨user, inside, isFull, apart⟩
    refine none user inside (Bool.and_eq_true_iff.mpr ⟨decide_eq_true ?_, isFull⟩)
    exact fun same => apart (Option.some.inj same).symm
  · intro none user inside counted
    obtain ⟨apart, isFull⟩ := Bool.and_eq_true_iff.mp counted
    refine none ⟨user, inside, isFull, fun same => ?_⟩
    exact of_decide_eq_true apart (congrArg some same.symm)

end Levels

/-! ## One request -/

section Requests

variable {runtime : Accounts.Runtime} {console : Console}

/-- The accounts of full administrators other than the one whose level changes. -/
theorem hasOther_setLevel {key : Nat} (level : Level) (invitedBy : Option (Option Nat)) :
    (console.setLevel key level invitedBy).HasOtherFullAdmin key ↔
      console.HasOtherFullAdmin key := by
  refine exists_congr fun other => and_congr mem_users_setLevel (and_congr_left fun apart => ?_)
  rw [isFullAdmin_setLevel_of_ne apart]

theorem Console.HasOtherFullAdmin.hasFullAdmin {key : Nat} (other : console.HasOtherFullAdmin key) :
    console.HasFullAdmin := by
  obtain ⟨user, inside, isFull, _⟩ := other
  exact ⟨user, inside, isFull⟩

theorem hasFullAdmin_setLevel_full {key : Nat} {invitedBy : Option (Option Nat)}
    (has : console.HasFullAdmin) : (console.setLevel key .full invitedBy).HasFullAdmin := by
  obtain ⟨user, inside, isFull⟩ := has
  exact ⟨user, mem_users_setLevel.mpr inside, isFullAdmin_setLevel_full user isFull⟩

/-- Putting an account at the commercial level takes it, and it only, away. -/
theorem hasFullAdmin_setLevel_commercial_iff {key : Nat} {invitedBy : Option (Option Nat)} :
    (console.setLevel key .commercial invitedBy).HasFullAdmin ↔
      console.HasOtherFullAdmin key := by
  rw [← hasOther_setLevel .commercial invitedBy]
  refine ⟨?_, Console.HasOtherFullAdmin.hasFullAdmin⟩
  rintro ⟨user, inside, isFull⟩
  refine ⟨user, inside, isFull, fun mine => ?_⟩
  rw [not_isFullAdmin_setLevel_commercial mine] at isFull
  cases isFull

/-- A change of one account leaves the other full administrators. -/
theorem hasOther_modifyUser {key : Nat} {change : User → User}
    {keeps : ∀ row, ident (change row) = ident row} :
    (console.modifyUser key change keeps).HasOtherFullAdmin key ↔
      console.HasOtherFullAdmin key := by
  constructor
  · rintro ⟨other, inside, isFull, apart⟩
    obtain ⟨source, old, rfl⟩ := mem_modifyUser.mp inside
    by_cases mine : source.id = key
    · rw [if_pos mine] at apart
      exact absurd ((keeps source).trans mine) apart
    · rw [if_neg mine] at isFull apart
      exact ⟨source, old, isFull, apart⟩
  · rintro ⟨other, inside, isFull, apart⟩
    exact ⟨other, mem_modifyUser.mpr ⟨other, inside, if_neg apart⟩, isFull, apart⟩

theorem hasOther_deleteProfiles {key : Nat} :
    Console.HasOtherFullAdmin { console with
        profiles := console.profiles.deleteWhere fun row => row.user = key } key ↔
      console.HasOtherFullAdmin key := by
  refine exists_congr fun other => and_congr_right fun _ => and_congr_left fun apart => ?_
  rw [isFullAdmin_deleteProfiles apart]

/-- A change that leaves a full administrator one takes none away. -/
theorem hasFullAdmin_modifyUser {key : Nat} {change : User → User}
    {keeps : ∀ row, ident (change row) = ident row}
    (grows : ∀ user, console.isFullAdmin user = true → console.isFullAdmin (change user) = true)
    (has : console.HasFullAdmin) : (console.modifyUser key change keeps).HasFullAdmin := by
  obtain ⟨user, inside, isFull⟩ := has
  refine ⟨_, mem_modifyUser.mpr ⟨user, inside, rfl⟩, ?_⟩
  split
  · exact grows user isFull
  · exact isFull

/-- Cutting an access takes an account, and it only, away. -/
theorem hasFullAdmin_cut_iff {key : Nat} :
    (console.modifyUser key (fun row => { row with isActive := false })
        (fun _ => rfl)).HasFullAdmin ↔ console.HasOtherFullAdmin key := by
  constructor
  · rintro ⟨user, inside, isFull⟩
    obtain ⟨source, old, rfl⟩ := mem_modifyUser.mp inside
    by_cases mine : source.id = key
    · rw [if_pos mine] at isFull
      have active := (Bool.and_eq_true_iff.mp (Bool.and_eq_true_iff.mp isFull).1).2
      cases active
    · rw [if_neg mine] at isFull
      exact ⟨source, old, isFull, mine⟩
  · exact fun other => (hasOther_modifyUser.mpr other).hasFullAdmin

theorem hasFullAdmin_step_setMemberActive (has : console.HasFullAdmin) (membership : Nat)
    (active : Bool) :
    (adminStep runtime console (.setMemberActive membership active)).HasFullAdmin ↔
      LeavesFullAdmin runtime console (.setMemberActive membership active) := by
  rw [adminStep, LeavesFullAdmin]
  cases found : console.members.find? membership with
  | none => exact iff_of_true has (by rintro _ acting ⟨⟩)
  | some acting =>
      simp only [Option.some.injEq, forall_eq']
      rw [setMemberActive]
      cases active with
      | true =>
          refine iff_of_true ?_ (by rintro ⟨⟩)
          rw [if_neg (by rintro ⟨⟨⟩, _⟩)]
          refine hasFullAdmin_modifyUser (fun user isFull => ?_) has
          obtain ⟨able, level⟩ := Bool.and_eq_true_iff.mp isFull
          obtain ⟨staff, _⟩ := Bool.and_eq_true_iff.mp able
          exact Bool.and_eq_true_iff.mpr ⟨Bool.and_eq_true_iff.mpr ⟨staff, rfl⟩, level⟩
      | false =>
          rw [forall_prop_of_true rfl]
          cases last : console.isLastAdmin acting with
          | true =>
              rw [if_pos ⟨rfl, rfl⟩]
              exact iff_of_true has (by rintro ⟨⟩)
          | false =>
              rw [if_neg (by rintro ⟨_, ⟨⟩⟩), forall_prop_of_true rfl]
              exact hasFullAdmin_cut_iff

/-- The guard keeps another full administrator. -/
theorem hasFullAdmin_step_changeLevel (has : console.HasFullAdmin) (key : Nat) (level : String)
    (actor : Option Nat) :
    (adminStep runtime console (.changeLevel key level actor)).HasFullAdmin := by
  rw [adminStep]
  cases console.users.find? key with
  | none => exact has
  | some user =>
      dsimp only
      rw [changeAdminLevel]
      cases Level.ofValue? level with
      | none => exact has
      | some level =>
          dsimp only
          by_cases own : actor = some user.id
          · rw [if_pos own]
            exact has
          · rw [if_neg own]
            cases level with
            | full =>
                rw [if_neg (by rintro ⟨apart, _⟩; exact apart rfl)]
                exact hasFullAdmin_setLevel_full has
            | commercial =>
                by_cases alone : console.countFullAdmins (some user.id) = 0
                · rw [if_pos ⟨by rintro ⟨⟩, alone⟩]
                  exact has
                · rw [if_neg fun refused => alone refused.2]
                  have other := not_not.mp (mt countFullAdmins_eq_zero_iff.mpr alone)
                  exact hasFullAdmin_setLevel_commercial_iff.mpr other

theorem hasFullAdmin_step_revoke (has : console.HasFullAdmin) (key : Nat) (actor : Option Nat) :
    (adminStep runtime console (.revoke key actor)).HasFullAdmin := by
  rw [adminStep]
  cases console.users.find? key with
  | none => exact has
  | some user =>
      dsimp only
      rw [revokePlatformAdmin]
      by_cases own : actor = some user.id
      · rw [if_pos own]
        exact has
      · rw [if_neg own]
        by_cases alone : console.countFullAdmins (some user.id) = 0
        · rw [if_pos alone]
          exact has
        · rw [if_neg alone]
          have other := not_not.mp (mt countFullAdmins_eq_zero_iff.mpr alone)
          exact (hasOther_deleteProfiles.mpr (hasOther_modifyUser.mpr other)).hasFullAdmin

/-- An invitation takes away at most the account it is addressed to. -/
theorem hasFullAdmin_step_invite (has : console.HasFullAdmin) (now : Nat)
    (rawToken email level : String) (actor : Option Nat) :
    (adminStep runtime console (.invite now rawToken email level actor)).HasFullAdmin ↔
      LeavesFullAdmin runtime console (.invite now rawToken email level actor) := by
  rw [adminStep, LeavesFullAdmin, invitePlatformAdmin]
  cases checkAdminInvitation runtime email level with
  | error _ => exact iff_of_true has (by rintro address ⟨⟩)
  | ok checked =>
      obtain ⟨address, level⟩ := checked
      dsimp only
      cases found : console.findByEmail runtime address with
      | none =>
          refine iff_of_true ?_ ?_
          · obtain ⟨user, inside, isFull⟩ := has
            have apart : user.id ≠ console.users.next := Table.ne_next inside
            refine ⟨user, mem_users_setLevel.mpr (Table.mem_create.mpr (Or.inl inside)), ?_⟩
            exact (isFullAdmin_setLevel_of_ne apart).trans isFull
          · rintro known same user known'
            obtain rfl : address = known := congrArg Prod.fst (Except.ok.inj same)
            rw [found] at known'
            cases known'
      | some user =>
          cases level with
          | full =>
              refine iff_of_true ?_ (by rintro known ⟨⟩)
              refine hasFullAdmin_setLevel_full (hasFullAdmin_modifyUser (fun user isFull => ?_) has)
              obtain ⟨able, level⟩ := Bool.and_eq_true_iff.mp isFull
              obtain ⟨_, active⟩ := Bool.and_eq_true_iff.mp able
              exact Bool.and_eq_true_iff.mpr ⟨Bool.and_eq_true_iff.mpr ⟨rfl, active⟩, level⟩
          | commercial =>
              refine (hasFullAdmin_setLevel_commercial_iff.trans hasOther_modifyUser).trans ?_
              constructor
              · rintro other known ⟨⟩ user' known'
                rw [found] at known'
                obtain rfl := Option.some.inj known'
                exact other
              · intro leaves
                exact leaves address rfl user found

theorem hasFullAdmin_step_iff (runtime : Accounts.Runtime) (console : Console)
    (event : AdminEvent) (has : console.HasFullAdmin) :
    (adminStep runtime console event).HasFullAdmin ↔ LeavesFullAdmin runtime console event := by
  cases event with
  | invite now rawToken email level actor =>
      exact hasFullAdmin_step_invite has now rawToken email level actor
  | changeLevel user level actor =>
      exact iff_of_true (hasFullAdmin_step_changeLevel has user level actor) trivial
  | revoke user actor => exact iff_of_true (hasFullAdmin_step_revoke has user actor) trivial
  | setMemberActive membership active =>
      exact hasFullAdmin_step_setMemberActive has membership active

end Requests

/-! ## Runs -/

/-- Over any run that starts with a full administrator, one remains exactly when
each invitation at the commercial level and each cut access leaves another. -/
theorem full_admin_remains_iff (runtime : Accounts.Runtime) (start : Console)
    (events : List AdminEvent) :
    Always (adminStep runtime) Console.HasFullAdmin start events ↔
      start.HasFullAdmin ∧ EachStep (adminStep runtime) (LeavesFullAdmin runtime) start events :=
  always_iff_start_and_eachStep (hasFullAdmin_step_iff runtime) start events

/-! The only administrator is invited again, at the commercial level. -/

section InvitedAgain

def soleAdministrator : Console where
  users := Table.empty.create
    (fun key => ⟨key, "admin@service.fr", some "hash", true, true, false⟩) (fun _ => rfl)
  members := Table.empty
  tenants := Table.empty
  profiles := Table.empty
  links := Table.empty
  lockouts := Lockouts.empty

theorem invited_again_leaves_no_full_admin :
    soleAdministrator.HasFullAdmin ∧
      ¬ Always (adminStep Accounts.bareRuntime) Console.HasFullAdmin soleAdministrator
        [.invite 0 "jeton" "admin@service.fr" "commercial" (some 0)] := by
  refine ⟨⟨⟨0, "admin@service.fr", some "hash", true, true, false⟩, by decide, by decide⟩, ?_⟩
  rintro ⟨_, user, inside, isFull⟩
  have none : ∀ user ∈ (adminStep Accounts.bareRuntime soleAdministrator
      (.invite 0 "jeton" "admin@service.fr" "commercial" (some 0))).users,
      (adminStep Accounts.bareRuntime soleAdministrator
        (.invite 0 "jeton" "admin@service.fr" "commercial" (some 0))).isFullAdmin user = false := by
    decide +kernel
  rw [none user inside] at isFull
  cases isFull

end InvitedAgain

end RssiService.PlatformAdmin
