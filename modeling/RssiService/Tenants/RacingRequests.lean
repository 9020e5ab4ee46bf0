import RssiService.Billing.PlanEdits
import RssiService.Tenants.GuardedRequests

/-!
# Guards under concurrency

A guard looks at the tables when its request reads them, and the write comes
later.  The commitment stays within the pool and no quota is exceeded exactly
where each write still finds room when it is made.
-/

namespace RssiService.Tenants

open Foundation Foundation.Interleaving Foundation.Run Python
open Billing (Instant Plan Subscription allowance)
open ThreatIntelligence

/-! ## Quotas -/

inductive Resource where
  | users
  | watchedAccounts
  | monitoredAssets
  deriving DecidableEq, Repr

def Resource.quota (store : Billing.Store) (subscription : Subscription) : Resource → Nat
  | .users => store.maxUsersQuota subscription
  | .watchedAccounts => store.watchedAccountsQuota subscription
  | .monitoredAssets => store.monitoredAssetsQuota subscription

/-- What a quota allows: 0 is unlimited, except for the accounts, which are sold
one by one. -/
def Resource.limit (quota : Nat) : Resource → ℕ∞
  | .watchedAccounts => quota
  | _ => allowance quota

def World.used (world : World) (tenant : Nat) : Resource → Nat
  | .users => world.directory.memberCount tenant
  | .watchedAccounts => watchedCount world.watched tenant
  | .monitoredAssets => world.platform.occupied tenant

/-- What the tenant uses, and more of one resource, is within a subscription. -/
def World.Covers (world : World) (subscription : Subscription) (resource : Resource)
    (additional : Nat) : Prop :=
  ((world.used subscription.tenant resource + additional : Nat) : ℕ∞) ≤
    resource.limit (resource.quota world.billing subscription)

/-- The commitment is within the pool, and every tenant within its quotas. -/
structure World.Bounded (settings : PoolSettings) (world : World) : Prop where
  within : world.billing.WithinPool settings.billing
  covered : ∀ subscription ∈ world.billing.subscriptions, ∀ resource,
    world.Covers subscription resource 0

/-! ## Writes that find room -/

/-- A tenant has room for one more of a resource. -/
def World.HasRoom (world : World) (tenant : Nat) (resource : Resource) : Prop :=
  ∀ subscription ∈ world.billing.subscriptions, subscription.tenant = tenant →
    world.Covers subscription resource 1

/-- What a write that the tables admit needs: a slot for each one it commits,
quotas that cover what is used, and room for what it adds. -/
def World.FindsRoom (settings : PoolSettings) (world : World) : Write → Prop
  | .openTrial tenant plan now days _ =>
      let row := trialRow tenant plan.id now days world.billing.subscriptions.next
      world.billing.monitoredSlotsCommitted + world.billing.committedBy row ≤
          settings.billing.monitoredSlotPool ∧
        ∀ resource, world.Covers row resource 0
  | .save key change _ =>
      ∀ row ∈ world.billing.subscriptions, row.id = key →
        world.billing.monitoredSlotsCommitted + world.billing.committedBy (change.apply row) ≤
            settings.billing.monitoredSlotPool + world.billing.committedBy row ∧
          ∀ resource, world.Covers (change.apply row) resource 0
  | .registerDomain _ _ => True
  | .insertMonitored tenant _ _ _ => world.HasRoom tenant .monitoredAssets
  | .addMember tenant _ _ => world.HasRoom tenant .users
  | .insertWatched tenant _ => world.HasRoom tenant .watchedAccounts

def World.Fits (site : Site) (world : World) (change : Write) : Prop :=
  world.admits site.unicode change = true → world.FindsRoom site.pool change

section Writes

variable {site : Site} {settings : PoolSettings} {world next : World}

/-- What an insertion preserves: one tenant has one more of one resource. -/
theorem bounded_inserted_iff {tenant : Nat} {resource : Resource}
    (billing : next.billing = world.billing)
    (others : ∀ owner other, other ≠ resource → next.used owner other = world.used owner other)
    (counts : ∀ owner, next.used owner resource =
      world.used owner resource + if tenant = owner then 1 else 0)
    (bounded : world.Bounded settings) :
    next.Bounded settings ↔ world.HasRoom tenant resource := by
  have covers_here (subscription : Subscription) : next.Covers subscription resource 0 ↔
      world.Covers subscription resource (if tenant = subscription.tenant then 1 else 0) := by
    rw [World.Covers, World.Covers, billing, counts, Nat.add_zero]
  constructor
  · rintro ⟨_, covered⟩ subscription member mine
    have here := covered subscription (billing ▸ member) resource
    rwa [covers_here, if_pos mine.symm] at here
  · intro room
    refine ⟨billing ▸ bounded.within, fun subscription member other => ?_⟩
    rw [billing] at member
    rcases eq_or_ne other resource with rfl | apart
    · rw [covers_here]
      split
      · rename_i mine
        exact room subscription member mine.symm
      · exact bounded.covered subscription member other
    · rw [World.Covers, billing, others _ other apart]
      exact bounded.covered subscription member other

/-- A trial adds its share and its own quotas. -/
theorem bounded_openTrial_iff {tenant : Nat} {plan : Plan} {now : Instant} {days : Nat}
    {actor : Option Nat} (bounded : world.Bounded settings) :
    (world.perform site.unicode (.openTrial tenant plan now days actor)).Bounded settings ↔
      world.FindsRoom settings (.openTrial tenant plan now days actor) := by
  have committed : (world.perform site.unicode
      (.openTrial tenant plan now days actor)).billing.monitoredSlotsCommitted =
        world.billing.monitoredSlotsCommitted + world.billing.committedBy
          (trialRow tenant plan.id now days world.billing.subscriptions.next) :=
    (Billing.committed_recordEvent ..).trans Billing.committed_create
  have opened (subscription : Subscription) : subscription ∈ (world.perform site.unicode
      (.openTrial tenant plan now days actor)).billing.subscriptions ↔
        subscription ∈ world.billing.subscriptions ∨
          subscription = trialRow tenant plan.id now days world.billing.subscriptions.next :=
    @Table.mem_create _ _ _ (trialRow tenant plan.id now days) (fun _ => rfl) subscription
  constructor
  · rintro ⟨within, covered⟩
    rw [Billing.Store.WithinPool, committed] at within
    exact ⟨within, covered _ ((opened _).mpr (Or.inr rfl))⟩
  · rintro ⟨within, covers⟩
    refine ⟨committed.trans_le within, fun subscription member resource => ?_⟩
    rcases (opened _).mp member with old | rfl
    · exact bounded.covered subscription old resource
    · exact covers resource

/-- A save moves the share and the quotas of its subscription. -/
theorem bounded_save_iff {key : Nat} {change : SubscriptionChange} {line : JournalLine}
    (known : (world.billing.subscriptions.find? key).isSome = true)
    (bounded : world.Bounded settings) :
    (world.perform site.unicode (.save key change line)).Bounded settings ↔
      world.FindsRoom settings (.save key change line) := by
  obtain ⟨row, found⟩ := Option.isSome_iff_exists.mp known
  obtain ⟨member, rfl⟩ := Table.find?_eq_some_iff.mp found
  have committed : (world.perform site.unicode
      (.save (ident row) change line)).billing.monitoredSlotsCommitted +
        world.billing.committedBy row =
      world.billing.monitoredSlotsCommitted + world.billing.committedBy (change.apply row) := by
    have moved := Billing.committed_saveSubscription member change.apply change.id_apply
    rwa [← Billing.committed_recordEvent] at moved
  have saved (subscription : Subscription) : subscription ∈ (world.perform site.unicode
      (.save (ident row) change line)).billing.subscriptions ↔
        subscription = change.apply row ∨
          subscription ∈ world.billing.subscriptions ∧ ident subscription ≠ ident row :=
    @Table.mem_modify_of_mem _ _ _ _ member change.apply change.id_apply subscription
  constructor
  · rintro ⟨within, covered⟩ other inside same
    obtain rfl := Table.ident_injective inside member same
    rw [Billing.Store.WithinPool] at within
    exact ⟨by omega, covered (change.apply other) ((saved _).mpr (Or.inl rfl))⟩
  · intro room
    obtain ⟨within, covers⟩ := room row member rfl
    refine ⟨by rw [Billing.Store.WithinPool]; omega, fun subscription inside resource => ?_⟩
    rcases (saved _).mp inside with rfl | ⟨old, _⟩
    · exact covers resource
    · exact bounded.covered subscription old resource

theorem bounded_insertMonitored_iff {tenant asset now : Nat} {providerRef : String}
    (bounded : world.Bounded settings) :
    (world.perform site.unicode (.insertMonitored tenant asset providerRef now)).Bounded settings ↔
      world.HasRoom tenant .monitoredAssets := by
  refine bounded_inserted_iff rfl ?_ (fun owner => ?_) bounded
  · intro owner other apart
    cases other with
    | users => rfl
    | watchedAccounts => rfl
    | monitoredAssets => exact absurd rfl apart
  · refine (Table.countP_create _ _ (fun _ => rfl) _).trans ?_
    simp [World.used, Platform.occupied, Platform.activeCount]

theorem bounded_addMember_iff {tenant : Nat} {invited : Invited} {role : Role}
    (bounded : world.Bounded settings) :
    (world.perform site.unicode (.addMember tenant invited role)).Bounded settings ↔
      world.HasRoom tenant .users := by
  refine bounded_inserted_iff rfl ?_ (fun owner => ?_) bounded
  · intro owner other apart
    cases other with
    | users => exact absurd rfl apart
    | watchedAccounts => rfl
    | monitoredAssets => rfl
  · cases invited <;>
    · refine (Table.countP_create _ _ (fun _ => rfl) _).trans ?_
      simp [World.used, Directory.memberCount]

theorem bounded_insertWatched_iff {tenant : Nat} {declaration : Declaration}
    (bounded : world.Bounded settings) :
    (world.perform site.unicode (.insertWatched tenant declaration)).Bounded settings ↔
      world.HasRoom tenant .watchedAccounts := by
  refine bounded_inserted_iff rfl ?_ (fun owner => ?_) bounded
  · intro owner other apart
    cases other with
    | users => rfl
    | watchedAccounts => exact absurd rfl apart
    | monitoredAssets => rfl
  · refine (Table.countP_create _ _ (fun _ => rfl) _).trans ?_
    simp only [Declaration.row, Bool.true_and]
    exact congrArg _ (if_congr decide_eq_true_iff rfl rfl)

theorem bounded_registerDomain {applied : Bool} {domain : String}
    (bounded : world.Bounded settings) :
    (world.perform site.unicode (.registerDomain applied domain)).Bounded settings := by
  cases applied <;> exact ⟨bounded.within, bounded.covered⟩

/-- What one write preserves. -/
theorem bounded_apply_iff (world : World) (change : Write) (bounded : world.Bounded site.pool) :
    (world.apply site.unicode change).Bounded site.pool ↔ world.Fits site change := by
  rw [World.apply, World.Fits]
  split
  · rename_i admits
    rw [forall_prop_of_true admits]
    cases change with
    | openTrial tenant plan now days actor => exact bounded_openTrial_iff bounded
    | save key change line =>
        refine bounded_save_iff ?_ bounded
        cases change with
        | activated period renewsAt => exact admits
        | moved plan => exact (Bool.and_eq_true_iff.mp admits).1
        | overridden overrides => exact admits
    | registerDomain applied domain => exact iff_of_true (bounded_registerDomain bounded) trivial
    | insertMonitored tenant asset providerRef now =>
        exact bounded_insertMonitored_iff bounded
    | addMember tenant invited role => exact bounded_addMember_iff bounded
    | insertWatched tenant declaration =>
        exact bounded_insertWatched_iff bounded
  · rename_i refused
    exact iff_of_true bounded fun admits => absurd admits refused

end Writes

/-! ## Whole schedules -/

/-- Over every schedule of the requests, the commitment stays within the pool and
no quota is exceeded exactly where this holds at first and each write that the
tables admit still finds room when it is made. -/
theorem never_exceeded_iff (site : Site) (start : Session World Write)
    (moments : List (Moment (Instant × Request))) :
    Always (Interleaving.step (World.apply site.unicode) (requestProgram site))
        (fun session => session.state.Bounded site.pool) start moments ↔
      start.state.Bounded site.pool ∧
        EachStep (Interleaving.step (World.apply site.unicode) (requestProgram site))
          (WriteMeets (World.Fits site)) start moments :=
  always_iff_writesMeet bounded_apply_iff start moments

/-! Two trials are opened at once, with one slot in the pool. -/

section Race

def raceSite : Site := ⟨acmeUnicode, fun first second => first = second, poolSettings⟩

def raceWorld : World where
  platform := twoDomains (billed 1 [])
  directory := ⟨Table.empty, Table.empty⟩
  watched := Table.empty

/-- Both requests pass the guard before either writes. -/
def raceMoments : List (Moment (Instant × Request)) :=
  [.arrive 0 (0, .startTrial 1 none none none), .arrive 1 (0, .startTrial 2 none none none),
    .advance 0, .advance 0, .advance 0, .advance 1, .advance 1, .advance 1,
    .advance 0, .advance 1]

theorem two_trials_overflow :
    raceWorld.Bounded raceSite.pool ∧
      ¬ Always (Interleaving.step (World.apply raceSite.unicode) (requestProgram raceSite))
        (fun session => session.state.Bounded raceSite.pool) (Session.start raceWorld)
        raceMoments := by
  refine ⟨⟨by decide +kernel, ?_⟩, fun always => ?_⟩
  · intro subscription member
    exact absurd member (Table.not_mem_empty subscription)
  · exact absurd always.last.within (by decide +kernel)

end Race

end RssiService.Tenants
