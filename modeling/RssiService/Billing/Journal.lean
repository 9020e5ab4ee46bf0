import RssiService.Billing.Compositions
import RssiService.Billing.TrialMigration
import RssiService.Foundation.Replay

/-!
# The journal of a subscription

Every operation that changes the status or the plan of a subscription writes one event,
which leaves the status that the one before has reached.
-/

namespace RssiService.Billing

open Foundation Foundation.Outcome Foundation.Replay Foundation.Run Python

/-! ## Operations -/

/-- All that can happen to a subscription. -/
inductive LifeOperation where
  | operate (operation : Operation)
  | setTrialEnd (subscription : Nat) (endsAt : Option TrialEnd) (actor : Option Nat)
      (reason : String)
  | setFeatureOverrides (subscription : Nat) (keys : List String) (actor : Option Nat)
  | clearFeatureOverrides (subscription : Nat) (actor : Option Nat)
  | basculerEssais (codeEssai : String)

/-- An operation, with what the operations read of their environment. -/
structure LifeRequest where
  settings : Settings
  now : Instant
  tenantName : Nat → String
  unicode : Unicode
  operation : LifeOperation

/-- The store that a request leaves, where it is not refused. -/
def LifeRequest.result (store : Store) (request : LifeRequest) : Option Store :=
  match request.operation with
  | .operate operation => (store.perform request.settings request.now operation).toOption
  | .setTrialEnd key endsAt actor reason => (store.setTrialEnd key endsAt actor reason).toOption
  | .setFeatureOverrides key keys actor => (store.setFeatureOverrides key keys actor).toOption
  | .clearFeatureOverrides key actor => (store.clearFeatureOverrides key actor).toOption
  | .basculerEssais codeEssai =>
      some (store.basculerEssais request.tenantName request.unicode codeEssai).1

/-- A request that is refused leaves nothing behind. -/
def Store.live (store : Store) (request : LifeRequest) : Store :=
  (request.result store).getD store

/-! ## The law of the journal -/

/-- The status that an event reaches. -/
def SubscriptionEvent.reaches (event : SubscriptionEvent) : Option SubscriptionStatus :=
  some event.toStatus

/-- The journal of each subscription leads from no status to the one it has. -/
structure Journalled (store : Store) : Prop where
  replays : ∀ row ∈ store.subscriptions,
    Replays SubscriptionEvent.fromStatus SubscriptionEvent.reaches none (store.journalOf row.id)
      (some row.status)
  known : ∀ event ∈ store.events, event.subscription < store.subscriptions.next

/-- A subscription that is opened, or has another status or plan than before, has one event
more. -/
def OneEventEach (before after : Store) : Prop :=
  ∀ later ∈ after.subscriptions,
    ((∀ row ∈ before.subscriptions, row.id ≠ later.id) →
      ∃ event, after.journalOf later.id = [event]) ∧
    ∀ row ∈ before.subscriptions, row.id = later.id →
      row.status ≠ later.status ∨ row.plan ≠ later.plan →
      ∃ event, after.journalOf later.id = before.journalOf row.id ++ [event]

/-! ## What an operation writes -/

/-- The events that an operation adds, at most one for a subscription, tell all that it does
to the statuses and the plans. -/
structure Logs (before after : Store) (added : List SubscriptionEvent) : Prop where
  events : after.events = before.events ++ added
  distinct : (added.map SubscriptionEvent.subscription).Nodup
  next_le : before.subscriptions.next ≤ after.subscriptions.next
  known : ∀ event ∈ added, event.subscription < after.subscriptions.next
  moved : ∀ event ∈ added, ∀ later ∈ after.subscriptions, later.id = event.subscription →
    event.toStatus = later.status ∧
      ((∃ row ∈ before.subscriptions, row.id = later.id ∧ event.fromStatus = some row.status) ∨
        later.id = before.subscriptions.next ∧ event.fromStatus = none)
  stayed : ∀ later ∈ after.subscriptions, (∀ event ∈ added, event.subscription ≠ later.id) →
    ∃ row ∈ before.subscriptions, row.id = later.id ∧ row.status = later.status ∧
      row.plan = later.plan

section Logs

variable {before after store next : Store} {added : List SubscriptionEvent}

theorem journalOf_eq_append (logs : Logs before after added) (key : Nat) :
    after.journalOf key =
      before.journalOf key ++ added.filter fun event => event.subscription = key := by
  rw [Store.journalOf, logs.events, List.filter_append, Store.journalOf]

theorem stays_or_moves (added : List SubscriptionEvent) (key : Nat) :
    (∀ event ∈ added, event.subscription ≠ key) ∨ ∃ event ∈ added, event.subscription = key := by
  by_cases moves : ∃ event ∈ added, event.subscription = key
  · exact Or.inr moves
  · exact Or.inl fun event listed same => moves ⟨event, listed, same⟩

/-- A subscription that no event is about keeps its journal. -/
theorem journalOf_of_stayed (logs : Logs before after added) {key : Nat}
    (stays : ∀ event ∈ added, event.subscription ≠ key) :
    after.journalOf key = before.journalOf key := by
  rw [journalOf_eq_append logs, List.filter_eq_nil_iff.mpr, List.append_nil]
  exact fun event listed same => stays event listed (of_decide_eq_true same)

theorem journalOf_of_moved (logs : Logs before after added) {event : SubscriptionEvent}
    (listed : event ∈ added) :
    after.journalOf event.subscription = before.journalOf event.subscription ++ [event] := by
  rw [journalOf_eq_append logs, filter_key_eq_singleton logs.distinct listed]

/-- Nothing is written yet of what is to come. -/
theorem journalOf_next (journalled : Journalled store) :
    store.journalOf store.subscriptions.next = [] :=
  List.filter_eq_nil_iff.mpr fun event listed same =>
    (journalled.known event listed).ne (of_decide_eq_true same)

theorem journalled_of_logs (logs : Logs before after added) (journalled : Journalled before) :
    Journalled after := by
  refine ⟨fun later member => ?_, fun event listed => ?_⟩
  · rcases stays_or_moves added later.id with stays | ⟨event, listed, about⟩
    · obtain ⟨row, inside, key, status, _⟩ := logs.stayed later member stays
      rw [journalOf_of_stayed logs stays, ← key, ← status]
      exact journalled.replays row inside
    · obtain ⟨reached, origin⟩ := logs.moved event listed later member about.symm
      rw [← about, journalOf_of_moved logs listed, ← reached]
      refine Replays.concat ?_
      rcases origin with ⟨row, inside, key, leaves⟩ | ⟨fresh, leaves⟩
      · rw [leaves, about, ← key]
        exact journalled.replays row inside
      · rw [leaves, about, fresh, journalOf_next journalled]
        rfl
  · rw [logs.events] at listed
    rcases List.mem_append.mp listed with old | new
    · exact (journalled.known event old).trans_le logs.next_le
    · exact logs.known event new

theorem oneEventEach_of_logs (logs : Logs before after added) (journalled : Journalled before) :
    OneEventEach before after := by
  intro later member
  rcases stays_or_moves added later.id with stays | ⟨event, listed, about⟩
  · obtain ⟨row, inside, key, status, plan⟩ := logs.stayed later member stays
    refine ⟨fun fresh => absurd key (fresh row inside), fun other known same changed => ?_⟩
    cases Table.ident_injective known inside (same.trans key.symm)
    rcases changed with moved | moved
    · exact absurd status moved
    · exact absurd plan moved
  · rw [← about, journalOf_of_moved logs listed]
    refine ⟨fun fresh => ⟨event, ?_⟩, fun row known same _ => ⟨event, ?_⟩⟩
    · obtain ⟨_, ⟨row, inside, key, _⟩ | ⟨opened, _⟩⟩ :=
        logs.moved event listed later member about.symm
      · exact absurd (key.trans about.symm) (fresh row inside)
      · rw [about, opened, journalOf_next journalled, List.nil_append]
    · rw [same]

/-- What changes no status and no plan needs no event. -/
theorem logs_of_frame (events : after.events = before.events)
    (next_le : before.subscriptions.next ≤ after.subscriptions.next)
    (frame : ∀ later ∈ after.subscriptions, ∃ row ∈ before.subscriptions,
      row.id = later.id ∧ row.status = later.status ∧ row.plan = later.plan) :
    Logs before after [] := by
  refine ⟨events.trans (List.append_nil _).symm, List.nodup_nil, next_le, ?_, ?_, ?_⟩
  · exact fun event listed => absurd listed List.not_mem_nil
  · exact fun event listed => absurd listed List.not_mem_nil
  · exact fun later member _ => frame later member

theorem logs_refl (store : Store) : Logs store store [] :=
  logs_of_frame rfl (Nat.le_refl _) fun later member => ⟨later, member, rfl, rfl, rfl⟩

theorem mem_rewritten {selected : Subscription → Bool} {change : Subscription → Subscription}
    (keeps : ∀ row, ident (change row) = ident row) {row : Subscription} :
    row ∈ store.subscriptions.updateWhere selected change keeps ↔
      ∃ source ∈ store.subscriptions, (if selected source then change source else source) = row :=
  Table.mem_updateWhere

/-- The rows of a selection are changed, with an event for each one whose status or plan
changes. -/
theorem logs_updateWhere {plans : Table Plan} {selected : Subscription → Bool}
    {change : Subscription → Subscription} (keeps : ∀ row, ident (change row) = ident row)
    (distinct : (added.map SubscriptionEvent.subscription).Nodup)
    (about : ∀ event ∈ added, ∃ row ∈ store.subscriptions, selected row = true ∧
      row.id = event.subscription ∧ event.fromStatus = some row.status ∧
      event.toStatus = (change row).status)
    (told : ∀ row ∈ store.subscriptions, selected row = true →
      (∃ event ∈ added, event.subscription = row.id) ∨
        ((change row).status = row.status ∧ (change row).plan = row.plan)) :
    Logs store
      { plans, subscriptions := store.subscriptions.updateWhere selected change keeps
        events := store.events ++ added } added := by
  refine ⟨rfl, distinct, Nat.le_refl _, fun event listed => ?_, ?_, ?_⟩
  · obtain ⟨row, inside, _, key, _⟩ := about event listed
    exact key ▸ store.subscriptions.allocated row inside
  · intro event listed later member same
    obtain ⟨row, inside, chosen, key, leaves, reaches⟩ := about event listed
    obtain ⟨source, known, rfl⟩ := (mem_rewritten keeps).mp member
    obtain rfl := Table.source_eq keeps known inside (same.trans key.symm)
    rw [if_pos chosen] at same ⊢
    exact ⟨reaches, Or.inl ⟨source, known, (keeps source).symm, leaves⟩⟩
  · intro later member stays
    obtain ⟨source, known, rfl⟩ := (mem_rewritten keeps).mp member
    refine ⟨source, known, ?_⟩
    by_cases chosen : selected source = true
    · rw [if_pos chosen] at stays ⊢
      refine ⟨(keeps source).symm, ?_⟩
      rcases told source known chosen with ⟨event, listed, mine⟩ | ⟨status, plan⟩
      · exact absurd (mine.trans (keeps source).symm) (stays event listed)
      · exact ⟨status.symm, plan.symm⟩
    · rw [if_neg chosen]
      exact ⟨rfl, rfl, rfl⟩

/-- The save of one subscription, with its event. -/
theorem logs_saveSubscription {row : Subscription} (member : row ∈ store.subscriptions)
    {change : Subscription → Subscription} {keeps : ∀ row, (change row).id = row.id}
    {toStatus : SubscriptionStatus} {fromPlan toPlan reason : String} {actor : Option Nat}
    (reaches : (change row).status = toStatus) :
    ∃ added, Logs store ((store.saveSubscription row.id change keeps).recordEvent row.id
      (some row.status) toStatus fromPlan toPlan reason actor) added := by
  refine ⟨_, logs_updateWhere keeps (List.nodup_singleton _) ?_ ?_⟩
  · intro event listed
    rw [List.mem_singleton.mp listed]
    exact ⟨row, member, beq_self_eq_true _, rfl, rfl, reaches.symm⟩
  · intro other inside chosen
    exact Or.inl ⟨_, List.mem_singleton_self _, (beq_iff_eq.mp chosen).symm⟩

theorem mem_opened {build : Nat → Subscription} (ident_build : ∀ key, ident (build key) = key)
    {row : Subscription} :
    row ∈ store.subscriptions.create build ident_build ↔
      row ∈ store.subscriptions ∨ row = build store.subscriptions.next := Table.mem_create

/-- The opening of a subscription, with its event. -/
theorem logs_create (build : Nat → Subscription) (ident_build : ∀ key, ident (build key) = key)
    (fromPlan toPlan reason : String) (actor : Option Nat) :
    ∃ added, Logs store
      ({ store with subscriptions := store.subscriptions.create build ident_build }.recordEvent
        store.subscriptions.next none (build store.subscriptions.next).status fromPlan toPlan
        reason actor) added := by
  refine ⟨_, rfl, List.nodup_singleton _, Nat.le_succ _, ?_, ?_, ?_⟩
  · intro event listed
    rw [List.mem_singleton.mp listed]
    exact Nat.lt_succ_self _
  · intro event listed later member same
    rw [List.mem_singleton.mp listed] at same ⊢
    rcases (mem_opened ident_build).mp member with old | rfl
    · exact absurd same (store.subscriptions.allocated later old).ne
    · exact ⟨rfl, Or.inr ⟨same, rfl⟩⟩
  · intro later member stays
    rcases (mem_opened ident_build).mp member with old | rfl
    · exact ⟨later, old, rfl, rfl, rfl⟩
    · exact absurd (ident_build _).symm (stays _ (List.mem_singleton_self _))

end Logs

/-! ## Each operation -/

section Operations

variable {settings : Settings} {store next : Store} {now : Instant} {key : Nat}
  {actor : Option Nat} {reason : String}

theorem logs_startTrial {tenant : Nat} {plan days : Option Nat}
    (done : store.startTrial settings now tenant plan actor days = .ok next) :
    ∃ added, Logs store next added := by
  unfold Store.startTrial at done
  split at done
  · cases done
  · obtain ⟨requested, _, done⟩ := bind_eq_ok.mp done
    cases requested with
    | none => cases done
    | some plan =>
        obtain ⟨_, _, done⟩ := bind_eq_ok.mp done
        cases done
        exact logs_create _ (fun _ => rfl) _ _ _ _

theorem logs_activate {period : Option Period}
    (done : store.activate settings now key period actor reason = .ok next) :
    ∃ added, Logs store next added := by
  unfold Store.activate at done
  obtain ⟨row, found, done⟩ := bind_eq_ok.mp done
  obtain ⟨member, rfl⟩ := Table.find?_eq_some_iff.mp (require_eq_ok.mp found)
  split at done
  · cases done
    exact ⟨[], logs_refl _⟩
  · obtain ⟨_, _, done⟩ := bind_eq_ok.mp done
    cases done
    exact logs_saveSubscription member rfl

theorem logs_suspend (done : store.suspend key actor reason = .ok next) :
    ∃ added, Logs store next added := by
  unfold Store.suspend at done
  obtain ⟨row, found, done⟩ := bind_eq_ok.mp done
  obtain ⟨member, rfl⟩ := Table.find?_eq_some_iff.mp (require_eq_ok.mp found)
  cases done
  exact logs_saveSubscription member rfl

theorem logs_cancel (done : store.cancel now key actor reason = .ok next) :
    ∃ added, Logs store next added := by
  unfold Store.cancel at done
  obtain ⟨row, found, done⟩ := bind_eq_ok.mp done
  obtain ⟨member, rfl⟩ := Table.find?_eq_some_iff.mp (require_eq_ok.mp found)
  cases done
  exact logs_saveSubscription member rfl

theorem logs_changePlan {plan : Nat}
    (done : store.changePlan settings key plan actor reason = .ok next) :
    ∃ added, Logs store next added := by
  unfold Store.changePlan at done
  obtain ⟨row, found, done⟩ := bind_eq_ok.mp done
  obtain ⟨member, rfl⟩ := Table.find?_eq_some_iff.mp (require_eq_ok.mp found)
  obtain ⟨target, _, done⟩ := bind_eq_ok.mp done
  split at done
  · cases done
    exact ⟨[], logs_refl _⟩
  · obtain ⟨previous, _, done⟩ := bind_eq_ok.mp done
    obtain ⟨_, _, done⟩ := bind_eq_ok.mp done
    cases done
    exact logs_saveSubscription member rfl

theorem logs_setQuotaOverrides {overrides : QuotaOverrides}
    (done : store.setQuotaOverrides settings key overrides actor = .ok next) :
    ∃ added, Logs store next added := by
  unfold Store.setQuotaOverrides at done
  obtain ⟨row, found, done⟩ := bind_eq_ok.mp done
  obtain ⟨member, rfl⟩ := Table.find?_eq_some_iff.mp (require_eq_ok.mp found)
  dsimp only at done
  split at done
  · cases done
    exact ⟨[], logs_refl _⟩
  · obtain ⟨_, _, done⟩ := bind_eq_ok.mp done
    cases done
    exact logs_saveSubscription member rfl

theorem logs_setTrialEnd {endsAt : Option TrialEnd}
    (done : store.setTrialEnd key endsAt actor reason = .ok next) :
    ∃ added, Logs store next added := by
  unfold Store.setTrialEnd at done
  split at done
  · cases done
  · next row found =>
      obtain ⟨member, rfl⟩ := Table.find?_eq_some_iff.mp found
      split at done
      · cases done
      · obtain ⟨_, _, done⟩ := bind_eq_ok.mp done
        cases done
        exact logs_saveSubscription member rfl

theorem logs_setFeatureOverrides {keys : List String}
    (done : store.setFeatureOverrides key keys actor = .ok next) :
    ∃ added, Logs store next added := by
  unfold Store.setFeatureOverrides at done
  split at done
  · cases done
  · next row found =>
      obtain ⟨member, rfl⟩ := Table.find?_eq_some_iff.mp found
      dsimp only at done
      split at done
      · cases done
      · split at done
        · cases done
          exact ⟨[], logs_refl _⟩
        · cases done
          exact logs_saveSubscription member rfl

theorem logs_clearFeatureOverrides (done : store.clearFeatureOverrides key actor = .ok next) :
    ∃ added, Logs store next added := by
  unfold Store.clearFeatureOverrides at done
  split at done
  · cases done
  · next row found =>
      obtain ⟨member, rfl⟩ := Table.find?_eq_some_iff.mp found
      split at done
      · cases done
        exact ⟨[], logs_refl _⟩
      · cases done
        exact logs_saveSubscription member rfl

theorem logs_updatePlan {changes : PlanChanges} {frozen : List Nat}
    (done : store.updatePlan key changes = .ok (next, frozen)) : Logs store next [] := by
  unfold Store.updatePlan at done
  obtain ⟨plan, _, done⟩ := bind_eq_ok.mp done
  cases done
  split
  · refine logs_of_frame rfl (Nat.le_refl _) fun later member => ?_
    obtain ⟨source, inside, rfl⟩ :=
      (mem_rewritten fun row => (freeze_frame plan _ row).1).mp member
    refine ⟨source, inside, ?_⟩
    split
    · obtain ⟨id, same, status⟩ :=
        freeze_frame plan (store.planImpact plan changes).loweredQuotas source
      exact ⟨id.symm, status.symm, same.symm⟩
    · exact ⟨rfl, rfl, rfl⟩
  · exact logs_of_frame rfl (Nat.le_refl _) fun later member => ⟨later, member, rfl, rfl, rfl⟩

/-- The event of an expiry. -/
def expiryEvent (key : Nat) : SubscriptionEvent where
  subscription := key
  fromStatus := some .trial
  toStatus := .expired
  fromPlan := ""
  toPlan := ""
  reason := String.ofList ("Fin de la période d'essai.".toList.take 255)
  actor := none

def Subscription.expiredAt (now : Instant) (row : Subscription) : Subscription :=
  { row with status := .expired, endsAt := some now }

theorem ident_expiredAt (now : Instant) (row : Subscription) :
    ident (row.expiredAt now) = ident row := rfl

/-- The turns of the expiry loop, as one write. -/
theorem foldl_expireTrial (due : List Nat) :
    due.foldl (Store.expireTrial now) store =
      { plans := store.plans
        subscriptions := due.foldl (fun table key =>
          table.modify key (Subscription.expiredAt now) (ident_expiredAt now)) store.subscriptions
        events := store.events ++ due.map expiryEvent } := by
  induction due generalizing store with
  | nil => simp
  | cons key rest ih =>
      rw [List.foldl_cons, ih, Store.expireTrial, Store.recordEvent, Store.saveSubscription,
        List.foldl_cons, List.map_cons, List.append_assoc]
      rfl

theorem logs_expireDueTrials (now : Instant) (store : Store) :
    ∃ added, Logs store (store.expireDueTrials now).1 added := by
  let due := store.subscriptions.rows.filter (Subscription.trialDue now)
  have distinct : (due.map Subscription.id).Nodup :=
    List.pairwise_map.mpr ((store.subscriptions.increasing.filter _).imp fun lower => lower.ne)
  rw [Store.expireDueTrials]
  dsimp only
  rw [foldl_expireTrial, Table.foldl_modify _ _ _ (ident_expiredAt now) fun _ => rfl]
  refine ⟨_, logs_updateWhere (ident_expiredAt now) ?_ ?_ ?_⟩
  · rw [List.map_map, show SubscriptionEvent.subscription ∘ expiryEvent = id from rfl, List.map_id]
    exact distinct
  · intro event listed
    obtain ⟨key, inside, rfl⟩ := List.mem_map.mp listed
    obtain ⟨row, chosen, rfl⟩ := List.mem_map.mp inside
    obtain ⟨member, isDue⟩ := List.mem_filter.mp chosen
    have trial : row.status = .trial :=
      of_decide_eq_true (Bool.and_eq_true_iff.mp isDue).1
    exact ⟨row, member, List.contains_iff_mem.mpr inside, rfl, congrArg some trial.symm, rfl⟩
  · intro row member chosen
    exact Or.inl ⟨_, List.mem_map_of_mem (List.contains_iff_mem.mp chosen), rfl⟩

theorem logs_basculerEssais (tenantName : Nat → String) (unicode : Unicode) (store : Store)
    (codeEssai : String) :
    ∃ added, Logs store (store.basculerEssais tenantName unicode codeEssai).1 added := by
  cases found : store.offreEssai codeEssai with
  | none =>
      rw [Store.basculerEssais, found]
      exact ⟨[], logs_refl store⟩
  | some essai =>
      rw [basculerEssais_fst found]
      refine ⟨_, logs_updateWhere (ident_withPlan essai.id) ?_ ?_ ?_⟩
      · rw [List.map_map]
        exact nodup_deplaces store essai
      · intro event listed
        obtain ⟨candidat, moved, rfl⟩ := List.mem_map.mp listed
        obtain ⟨inside, _, moves⟩ := mem_deplaces.mp moved
        exact ⟨candidat.1, inside, moves, rfl, rfl, rfl⟩
      · intro row member moves
        obtain ⟨candidat, moved, same⟩ := List.mem_map.mp
          (List.contains_iff_mem.mp ((moved_iff member).mpr moves))
        exact Or.inl ⟨_, List.mem_map_of_mem moved, same⟩

/-- The operation that a step of a billing store performs. -/
theorem logs_perform {operation : Operation}
    (done : store.perform settings now operation = .ok next) : ∃ added, Logs store next added := by
  cases operation with
  | startTrial tenant plan actor days => exact logs_startTrial done
  | activate subscription period actor reason => exact logs_activate done
  | suspend subscription actor reason => exact logs_suspend done
  | cancel subscription actor reason => exact logs_cancel done
  | changePlan subscription plan actor reason => exact logs_changePlan done
  | expireDueTrials =>
      cases done
      exact logs_expireDueTrials now store
  | setQuotaOverrides subscription overrides actor => exact logs_setQuotaOverrides done
  | updatePlan plan changes =>
      obtain ⟨⟨_, _⟩, updated, rfl⟩ := map_eq_ok.mp done
      exact ⟨[], logs_updatePlan updated⟩

end Operations

/-! ## Runs -/

section Runs

variable {store next : Store} {request : LifeRequest}

theorem ok_of_toOption {Failure Value : Type} {result : Except Failure Value} {value : Value}
    (done : result.toOption = some value) : result = .ok value := by
  cases result with
  | error failure => cases done
  | ok found => exact congrArg Except.ok (Option.some.inj done)

theorem logs_result (done : request.result store = some next) :
    ∃ added, Logs store next added := by
  obtain ⟨settings, now, tenantName, unicode, operation⟩ := request
  cases operation with
  | operate operation => exact logs_perform (ok_of_toOption done)
  | setTrialEnd key endsAt actor reason => exact logs_setTrialEnd (ok_of_toOption done)
  | setFeatureOverrides key keys actor => exact logs_setFeatureOverrides (ok_of_toOption done)
  | clearFeatureOverrides key actor => exact logs_clearFeatureOverrides (ok_of_toOption done)
  | basculerEssais codeEssai =>
      cases done
      exact logs_basculerEssais tenantName unicode store codeEssai

/-- Whatever is asked, what it does is told. -/
theorem logs_live (store : Store) (request : LifeRequest) :
    ∃ added, Logs store (store.live request) added := by
  rw [Store.live]
  cases done : request.result store with
  | none => exact ⟨[], logs_refl store⟩
  | some next => exact logs_result done

theorem journalled_live (journalled : Journalled store) (request : LifeRequest) :
    Journalled (store.live request) := by
  obtain ⟨added, logs⟩ := logs_live store request
  exact journalled_of_logs logs journalled

/-- A catalogue that nobody has subscribed to yet. -/
def Store.unsold (plans : Table Plan) : Store where
  plans := plans
  subscriptions := Table.empty
  events := []

theorem journalled_unsold (plans : Table Plan) : Journalled (Store.unsold plans) where
  replays _ member := (List.not_mem_nil member).elim
  known _ listed := (List.not_mem_nil listed).elim

/-- Through every sequence of operations, the journal of each subscription leads from no status
to its own, and what changes a status or a plan adds one event. -/
theorem journal_replays_and_oneEventEach (plans : Table Plan) (requests : List LifeRequest) :
    Always Store.live Journalled (Store.unsold plans) requests ∧
      EachStep Store.live (fun store request => OneEventEach store (store.live request))
        (Store.unsold plans) requests := by
  have always : Always Store.live Journalled (Store.unsold plans) requests :=
    always_of_step (P := Journalled) (fun _ request journalled => journalled_live journalled request)
      (journalled_unsold plans) requests
  refine ⟨always, eachStep_of_always (fun store request journalled => ?_) always⟩
  obtain ⟨added, logs⟩ := logs_live store request
  exact oneEventEach_of_logs logs journalled

end Runs

end RssiService.Billing
