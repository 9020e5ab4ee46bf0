import RssiService.Foundation.Outcome
import RssiService.PlatformAdmin.TenantAdministrators

/-!
# Old links

A link sets a password and makes its account active.  Once the access of a
person has been cut, or a later link has set the password, the links issued
before should be of no use.  Issuing a link ends those of its own purpose only,
and neither a cut nor an acceptance ends any other.
-/

namespace RssiService.PlatformAdmin

open Foundation Foundation.Run
open Accounts
open Tenants (TenantError)

/-! ## Requests -/

inductive LinkEvent where
  | inviteMember (rawToken : String) (quota : Except TenantError Unit) (tenant : Nat)
      (email role : String) (actor : Option Nat)
  | createClient (rawToken : String) (named subscribed : Except TenantError Unit)
      (ownerEmail : String) (actor : Option Nat)
  | invitePlatformAdmin (rawToken email level : String) (actor : Option Nat)
  | resetPassword (rawToken : String) (membership : Nat) (actor : Option Nat)
  | accept (rawToken newPassword : String)
  | member (event : MemberEvent)
  | wait (microseconds : Nat)

/-- A request that is refused, or about an unknown membership, changes nothing. -/
def linkStep (runtime : Accounts.Runtime) (now : Nat) (console : Console) : LinkEvent → Console
  | .inviteMember rawToken quota tenant email role actor =>
      match PlatformAdmin.inviteMember runtime now rawToken console quota tenant email role actor with
      | .error _ => console
      | .ok issued => issued.1
  | .createClient rawToken named subscribed ownerEmail actor =>
      match PlatformAdmin.createClient runtime now rawToken console named subscribed ownerEmail
        actor with
      | .error _ => console
      | .ok issued => issued.1
  | .invitePlatformAdmin rawToken email level actor =>
      match PlatformAdmin.invitePlatformAdmin runtime now rawToken console email level actor with
      | .error _ => console
      | .ok issued => issued.1
  | .resetPassword rawToken membership actor =>
      match console.members.find? membership with
      | none => console
      | some membership =>
          (createAccessInvitation runtime now rawToken console membership.user .reset actor none).1
  | .accept rawToken newPassword =>
      match acceptAccessInvitation runtime now console rawToken newPassword with
      | .error _ => console
      | .ok accepted => accepted.1
  | .member event => memberStep console event
  | .wait _ => console

def LinkEvent.elapsed : LinkEvent → Nat
  | .wait microseconds => microseconds
  | _ => 0

/-! ## The claim and its condition -/

/-- The links of a person that an acceptance outdates: those issued before the
accepted one, or, strictly, all the others. -/
inductive Outdating where
  | issuedBefore
  | allOthers
  deriving DecidableEq, Repr

def Outdating.outdates (reading : Outdating) (accepted other : AccessInvitation) : Bool :=
  other.user = accepted.user &&
    match reading with
    | .issuedBefore => decide (other.id < accepted.id)
    | .allOthers => decide (other.id ≠ accepted.id)

/-- The link that an acceptance uses, when it is accepted. -/
def acceptedLink? (runtime : Accounts.Runtime) (now : Nat) (console : Console)
    (rawToken : String) : Option AccessInvitation :=
  (resolveAccessInvitation runtime now console rawToken).filter fun link =>
    (console.users.find? link.user).isSome

/-- The account that a request on a member cuts, when it is accepted. -/
def MemberEvent.cutUser? (console : Console) : MemberEvent → Option Nat
  | .setActive key false =>
      (console.members.find? key).bind fun membership =>
        if console.isLastAdmin membership then none else some membership.user
  | _ => none

/-- The links that a request outdates. -/
def LinkEvent.outdates (reading : Outdating) (runtime : Accounts.Runtime) (now : Nat)
    (console : Console) (event : LinkEvent) (link : AccessInvitation) : Bool :=
  match event with
  | .accept rawToken _ =>
      (acceptedLink? runtime now console rawToken).any fun accepted =>
        reading.outdates accepted link
  | .member event => (event.cutUser? console).any fun user => link.user = user
  | _ => false

/-- The outdated links, by their keys. -/
structure LinkHistory where
  console : Console
  now : Nat
  outdated : Nat → Bool

def LinkHistory.fresh (console : Console) (now : Nat) : LinkHistory :=
  ⟨console, now, fun _ => false⟩

def historyStep (reading : Outdating) (runtime : Accounts.Runtime) (history : LinkHistory)
    (event : LinkEvent) : LinkHistory where
  console := linkStep runtime history.now history.console event
  now := history.now + event.elapsed
  outdated := fun key =>
    history.outdated key ||
      history.console.links.rows.any fun link =>
        link.id = key && event.outdates reading runtime history.now history.console link

/-- No outdated link is usable. -/
def LinkHistory.Closed (history : LinkHistory) : Prop :=
  ∀ link ∈ history.console.links, history.outdated link.id = true →
    link.isUsable history.now = false

/-- The links that a request outdates are no longer usable. -/
def OutdatesUnusable (reading : Outdating) (runtime : Accounts.Runtime) (history : LinkHistory)
    (event : LinkEvent) : Prop :=
  ∀ link ∈ history.console.links,
    event.outdates reading runtime history.now history.console link = true →
      link.isUsable history.now = false

/-- What sets a password is a link that is not outdated. -/
def AcceptsCurrent (runtime : Accounts.Runtime) (history : LinkHistory) (event : LinkEvent) :
    Prop :=
  ∀ rawToken newPassword accepted, event = .accept rawToken newPassword →
    acceptAccessInvitation runtime history.now history.console rawToken newPassword =
      .ok accepted →
    ∃ link ∈ history.console.links, link.tokenHash = runtime.sha256 rawToken ∧
      link.user = accepted.2.id ∧ history.outdated link.id = false

/-! ## The links of a console -/

/-- Links only lose their use, and new ones have new keys. -/
structure Dwindles (before after : Table AccessInvitation) : Prop where
  next : before.next ≤ after.next
  source : ∀ link ∈ after, before.next ≤ link.id ∨
    ∃ old ∈ before, old.id = link.id ∧ ∀ now, link.isUsable now = true → old.isUsable now = true

theorem Dwindles.refl (links : Table AccessInvitation) : Dwindles links links :=
  ⟨Nat.le_refl _, fun link inside => Or.inr ⟨link, inside, rfl, fun _ => id⟩⟩

section Links

variable {runtime : Accounts.Runtime} {console : Console} {now : Nat}

theorem isUsable_later {link : AccessInvitation} {later : Nat} (ordered : now ≤ later)
    (dead : link.isUsable now = false) : link.isUsable later = false := by
  rw [Bool.eq_false_iff] at dead ⊢
  intro usable
  obtain ⟨unused, live⟩ := Bool.and_eq_true_iff.mp usable
  refine dead (Bool.and_eq_true_iff.mpr ⟨unused, decide_eq_true ?_⟩)
  exact Nat.lt_of_le_of_lt ordered (of_decide_eq_true live)

theorem dwindles_createAccessInvitation {rawToken : String} {user : Nat} {purpose : Purpose}
    {actor ttlHours : Option Nat} :
    Dwindles console.links
      (createAccessInvitation runtime now rawToken console user purpose actor ttlHours).1.links where
  next := Nat.le_succ _
  source := by
    intro link inside
    rcases Table.mem_create.mp inside with old | rfl
    · obtain ⟨source, member, rfl⟩ := Table.mem_updateWhere.mp old
      refine Or.inr ⟨source, member, ?_, ?_⟩
      · split <;> rfl
      · intro later usable
        split at usable
        · cases usable
        · exact usable
    · exact Or.inl (Nat.le_refl _)

/-- Issuing from a console that has the links of another. -/
theorem dwindles_issued {other : Console} (same : other.links = console.links) {rawToken : String}
    {user : Nat} {purpose : Purpose} {actor ttlHours : Option Nat} :
    Dwindles console.links
      (createAccessInvitation runtime now rawToken other user purpose actor ttlHours).1.links :=
  same ▸ dwindles_createAccessInvitation

theorem dwindles_inviteMember {rawToken email role : String} {quota : Except TenantError Unit}
    {tenant : Nat} {actor : Option Nat} {issued : Console × AccessInvitation}
    (ok : inviteMember runtime now rawToken console quota tenant email role actor = .ok issued) :
    Dwindles console.links issued.1.links := by
  rw [inviteMember] at ok
  obtain ⟨checked, _, ok⟩ := Outcome.bind_eq_ok.mp ok
  obtain ⟨_, _, ok⟩ := Outcome.bind_eq_ok.mp ok
  dsimp only at ok
  split at ok
  all_goals
    split at ok
    · cases ok
    · cases ok
      exact dwindles_issued rfl

theorem dwindles_createClient {rawToken ownerEmail : String}
    {named subscribed : Except TenantError Unit} {actor : Option Nat}
    {issued : Console × AccessInvitation}
    (ok : createClient runtime now rawToken console named subscribed ownerEmail actor =
      .ok issued) :
    Dwindles console.links issued.1.links := by
  rw [createClient] at ok
  obtain ⟨_, _, ok⟩ := Outcome.bind_eq_ok.mp ok
  dsimp only at ok
  split at ok
  · cases ok
  · split at ok
    all_goals
      obtain ⟨_, _, ok⟩ := Outcome.bind_eq_ok.mp ok
      cases ok
      exact dwindles_issued rfl

theorem links_setLevel {key : Nat} {level : Level} {invitedBy : Option (Option Nat)} :
    (console.setLevel key level invitedBy).links = console.links := by
  rw [Console.setLevel]
  split <;> rfl

theorem dwindles_invitePlatformAdmin {rawToken email level : String} {actor : Option Nat}
    {issued : Console × AccessInvitation}
    (ok : invitePlatformAdmin runtime now rawToken console email level actor = .ok issued) :
    Dwindles console.links issued.1.links := by
  rw [invitePlatformAdmin] at ok
  split at ok
  · cases ok
  · dsimp only at ok
    split at ok
    all_goals
      cases ok
      refine dwindles_issued ?_
      exact links_setLevel

theorem links_memberStep {event : MemberEvent} : (memberStep console event).links = console.links := by
  rw [memberStep]
  split
  · rfl
  · split
    · rfl
    · rename_i membership _ after performed
      cases event with
      | changeRole key role =>
          rw [MemberEvent.perform, changeMemberRole] at performed
          split at performed
          · cases performed
          · split at performed <;> cases performed
            rfl
      | setActive key active =>
          rw [MemberEvent.perform, setMemberActive] at performed
          split at performed <;> cases performed
          rfl
      | remove key =>
          rw [MemberEvent.perform, removeMember] at performed
          split at performed <;> cases performed
          rfl

theorem acceptedLink?_eq_some {rawToken : String} {link : AccessInvitation}
    (accepted : acceptedLink? runtime now console rawToken = some link) :
    link ∈ console.links ∧ link.tokenHash = runtime.sha256 rawToken ∧
      link.isUsable now = true :=
  resolveLink_eq_some (Option.filter_eq_some_iff.mp accepted).1

/-- An acceptance uses its link, and no other. -/
theorem acceptAccessInvitation_eq_ok {rawToken newPassword : String} {accepted : Console × User}
    (ok : acceptAccessInvitation runtime now console rawToken newPassword = .ok accepted) :
    ∃ link, acceptedLink? runtime now console rawToken = some link ∧
      accepted.1.links = console.links.modify link.id (AccessInvitation.use now) (fun _ => rfl) ∧
      accepted.2.id = link.user := by
  rw [acceptAccessInvitation] at ok
  split at ok
  · cases ok
  · rename_i link user both
    cases ok
    obtain ⟨found, resolved, paired⟩ := Option.bind_eq_some_iff.mp both
    obtain ⟨owner, known, same⟩ := Option.map_eq_some_iff.mp paired
    cases same
    refine ⟨link, ?_, rfl, Table.ident_of_find? known⟩
    rw [acceptedLink?, resolved, Option.filter_some, known]
    rfl

theorem dwindles_accept {rawToken newPassword : String} :
    Dwindles console.links
      (linkStep runtime now console (.accept rawToken newPassword)).links := by
  rw [linkStep]
  split
  · exact Dwindles.refl _
  · rename_i accepted ok
    obtain ⟨link, _, same, _⟩ := acceptAccessInvitation_eq_ok ok
    rw [same]
    refine ⟨Nat.le_refl _, fun other inside => Or.inr ?_⟩
    obtain ⟨source, old, rfl⟩ := Table.mem_modify.mp inside
    refine ⟨source, old, ?_, ?_⟩
    · split <;> rfl
    · intro later usable
      split at usable
      · cases usable
      · exact usable

theorem dwindles_linkStep (event : LinkEvent) :
    Dwindles console.links (linkStep runtime now console event).links := by
  cases event with
  | accept rawToken newPassword => exact dwindles_accept
  | inviteMember rawToken quota tenant email role actor =>
      rw [linkStep]
      split
      · exact Dwindles.refl _
      · rename_i issued ok
        exact dwindles_inviteMember ok
  | createClient rawToken named subscribed ownerEmail actor =>
      rw [linkStep]
      split
      · exact Dwindles.refl _
      · rename_i issued ok
        exact dwindles_createClient ok
  | invitePlatformAdmin rawToken email level actor =>
      rw [linkStep]
      split
      · exact Dwindles.refl _
      · rename_i issued ok
        exact dwindles_invitePlatformAdmin ok
  | resetPassword rawToken membership actor =>
      rw [linkStep]
      split
      · exact Dwindles.refl _
      · exact dwindles_createAccessInvitation
  | member event =>
      rw [linkStep, links_memberStep]
      exact Dwindles.refl _
  | wait microseconds => exact Dwindles.refl _

end Links

/-! ## One request -/

section Requests

variable {reading : Outdating} {runtime : Accounts.Runtime} {history : LinkHistory}
  {event : LinkEvent} {link : AccessInvitation}

/-- Outdated links have keys that are taken. -/
def LinkHistory.Known (history : LinkHistory) : Prop :=
  ∀ key, history.outdated key = true → key < history.console.links.next

theorem outdated_step_iff {key : Nat} :
    (historyStep reading runtime history event).outdated key = true ↔
      history.outdated key = true ∨ ∃ link ∈ history.console.links, link.id = key ∧
        event.outdates reading runtime history.now history.console link = true := by
  simp [historyStep, Table.mem_def]

theorem known_step (event : LinkEvent) (known : history.Known) :
    (historyStep reading runtime history event).Known := by
  intro key outdated
  refine Nat.lt_of_lt_of_le ?_ (dwindles_linkStep event).next
  rcases outdated_step_iff.mp outdated with before | ⟨link, inside, rfl, _⟩
  · exact known key before
  · exact history.console.links.allocated link inside

theorem ne_of_outdates {accepted : AccessInvitation}
    (outdates : reading.outdates accepted link = true) : link.id ≠ accepted.id := by
  cases reading with
  | issuedBefore =>
      exact Nat.ne_of_lt (of_decide_eq_true (Bool.and_eq_true_iff.mp outdates).2)
  | allOthers => exact of_decide_eq_true (Bool.and_eq_true_iff.mp outdates).2

/-- A request leaves the links that it outdates as they are. -/
theorem mem_links_of_outdates (inside : link ∈ history.console.links)
    (outdates : event.outdates reading runtime history.now history.console link = true) :
    link ∈ (historyStep reading runtime history event).console.links ∧
      (historyStep reading runtime history event).now = history.now := by
  cases event with
  | accept rawToken newPassword =>
      refine ⟨?_, rfl⟩
      rw [historyStep, linkStep]
      dsimp only
      split
      · exact inside
      · rename_i accepted ok
        obtain ⟨used, taken, same, _⟩ := acceptAccessInvitation_eq_ok ok
        rw [LinkEvent.outdates, taken, Option.any_some] at outdates
        rw [same]
        exact Table.mem_modify.mpr ⟨link, inside, if_neg (ne_of_outdates outdates)⟩
  | member event =>
      refine ⟨?_, rfl⟩
      rw [historyStep, linkStep]
      dsimp only
      rw [links_memberStep]
      exact inside
  | inviteMember _ _ _ _ _ _ | createClient _ _ _ _ _ | invitePlatformAdmin _ _ _ _
  | resetPassword _ _ _ | wait _ => cases outdates

theorem closed_step_iff (event : LinkEvent) (known : history.Known) (closed : history.Closed) :
    (historyStep reading runtime history event).Closed ↔
      OutdatesUnusable reading runtime history event := by
  constructor
  · intro after link inside outdates
    obtain ⟨kept, now⟩ := mem_links_of_outdates inside outdates
    have dead := after link kept (outdated_step_iff.mpr (Or.inr ⟨link, inside, rfl, outdates⟩))
    rwa [now] at dead
  · intro unusable link inside outdated
    refine isUsable_later (Nat.le_add_right history.now event.elapsed) ?_
    have taken : link.id < history.console.links.next := by
      rcases outdated_step_iff.mp outdated with before | ⟨old, member, same, _⟩
      · exact known link.id before
      · exact same ▸ history.console.links.allocated old member
    rcases (dwindles_linkStep event).source link inside with fresh | ⟨old, member, same, weaker⟩
    · exact absurd taken (Nat.not_lt.mpr fresh)
    · have dead : old.isUsable history.now = false := by
        rcases outdated_step_iff.mp outdated with before | ⟨other, listed, sameOther, outdates⟩
        · exact closed old member (same ▸ before)
        · have equal : other = old :=
            Table.ident_injective listed member (sameOther.trans same.symm)
          exact unusable old member (equal ▸ outdates)
      rw [Bool.eq_false_iff] at dead ⊢
      exact fun usable => dead (weaker history.now usable)

theorem acceptsCurrent (event : LinkEvent) (closed : history.Closed) :
    AcceptsCurrent runtime history event := by
  rintro rawToken newPassword accepted rfl ok
  obtain ⟨link, taken, _, owner⟩ := acceptAccessInvitation_eq_ok ok
  obtain ⟨inside, matching, usable⟩ := acceptedLink?_eq_some taken
  refine ⟨link, inside, matching, owner.symm, ?_⟩
  rw [Bool.eq_false_iff]
  intro outdated
  rw [closed link inside outdated] at usable
  cases usable

end Requests

/-! ## Runs -/

/-- No outdated link is usable in any state of a run exactly where each request
finds the links that it outdates unusable already.  The passwords are then only
set by links that are not outdated. -/
theorem old_links_closed_iff (reading : Outdating) (runtime : Accounts.Runtime)
    (console : Console) (now : Nat) (events : List LinkEvent) :
    (Always (historyStep reading runtime) LinkHistory.Closed (.fresh console now) events ↔
      EachStep (historyStep reading runtime) (OutdatesUnusable reading runtime)
        (.fresh console now) events) ∧
    (Always (historyStep reading runtime) LinkHistory.Closed (.fresh console now) events →
      EachStep (historyStep reading runtime) (AcceptsCurrent runtime) (.fresh console now)
        events) := by
  constructor
  · refine always_iff_eachStep (fun _ event known => known_step event known)
      (fun _ event known closed => closed_step_iff event known closed) ?_ ?_ events
    · rintro key ⟨⟩
    · rintro link _ ⟨⟩
  · exact eachStep_of_always fun _ event => acceptsCurrent event

/-! ## A link that survives a cut -/

/-- The founder is sent a link to choose another password, and leaves. -/
def resetThenCut : List LinkEvent := [.resetPassword "jeton" 0 none, .member (.setActive 0 false)]

/-- The link makes the account active again. -/
theorem cut_leaves_link_usable :
    ¬ Always (historyStep .issuedBefore bareRuntime) LinkHistory.Closed
        (.fresh founderAndInvited 0) resetThenCut ∧
      ((after (historyStep .issuedBefore bareRuntime) (.fresh founderAndInvited 0)
          (resetThenCut ++ [.accept "jeton" "secret"])).console.users.find? 0).map
        (fun user => (user.password, user.isActive)) = some (some "secret", true) := by
  refine ⟨fun always => ?_, by decide +kernel⟩
  have closed : ∀ link ∈ (after (historyStep .issuedBefore bareRuntime)
      (.fresh founderAndInvited 0) resetThenCut).console.links.rows, _ := always.last
  revert closed
  decide +kernel

end RssiService.PlatformAdmin
