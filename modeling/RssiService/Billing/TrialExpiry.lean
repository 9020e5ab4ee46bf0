import RssiService.Billing.Journal
import RssiService.Foundation.Interleaving

/-!
# The expiry of trials

The nightly pass reads the trials that are due once, and saves them all at its commit.  An
activation or a new end of trial that is saved in between is not looked at again.
-/

namespace RssiService.Billing

open Foundation Foundation.Run Foundation.Interleaving Python

/-! ## Writes -/

/-- The billing tables, and the subscriptions of which an activation was saved. -/
structure Ledger where
  store : Store
  activated : List Nat

/-- The columns that an operation saves. -/
inductive LifeChange where
  | activated (period : Period) (renewsAt : Instant)
  | suspended
  | cancelled (now : Instant)
  | trialEnd (endsAt : Option Instant)
  deriving DecidableEq, Repr

def LifeChange.apply : LifeChange → Subscription → Subscription
  | .activated period renewsAt, row =>
      { row with status := .active, period, renewsAt := some renewsAt, endsAt := none }
  | .suspended, row => { row with status := .suspended }
  | .cancelled now, row => { row with status := .cancelled, endsAt := some now }
  | .trialEnd endsAt, row => { row with trialEndsAt := endsAt }

theorem LifeChange.id_apply (change : LifeChange) (row : Subscription) :
    (change.apply row).id = row.id := by
  cases change <;> rfl

def LifeChange.activates : LifeChange → Bool
  | .activated _ _ => true
  | _ => false

/-- The event that goes with a save. -/
structure LifeEvent where
  fromStatus : SubscriptionStatus
  toStatus : SubscriptionStatus
  reason : String
  actor : Option Nat
  deriving DecidableEq, Repr

inductive LedgerWrite where
  | save (subscription : Nat) (change : LifeChange) (event : LifeEvent)
  | expire (now : Instant) (due : List Nat)
  deriving DecidableEq, Repr

namespace Ledger

def apply (ledger : Ledger) : LedgerWrite → Ledger
  | .save key change event =>
      { store := (ledger.store.saveSubscription key change.apply change.id_apply).recordEvent key
          (some event.fromStatus) event.toStatus "" "" event.reason event.actor
        activated := if change.activates then key :: ledger.activated else ledger.activated }
  | .expire now due => { ledger with store := due.foldl (Store.expireTrial now) ledger.store }

/-! ## Requests -/

def load (key : Nat) (ledger : Ledger) : Except Failure Subscription :=
  require (ledger.store.subscriptions.find? key)

/-- Only a subscription that counts for nothing goes through the capacity guard. -/
def checkReactivation (settings : Settings) (subscription : Subscription) (ledger : Ledger) :
    Except Failure Unit :=
  if subscription.isOperational then .ok ()
  else ledger.store.ensureMonitoredSlotsAvailable settings
    (ledger.store.monitoredAssetsQuota subscription) (some subscription.id)

def activate (settings : Settings) (now : Instant) (key : Nat) (period : Option Period)
    (actor : Option Nat) (reason : String) : Program Ledger LedgerWrite :=
  .attempt (load key) fun subscription =>
    if subscription.status = .active then .done
    else
      .attempt (checkReactivation settings subscription) fun _ =>
        let chosen := period.getD subscription.period
        let delta := match chosen with
          | .yearly => 365
          | .monthly => 30
        .write (.save key (.activated chosen (now.addDays delta))
          ⟨subscription.status, .active, textOr reason "Abonnement activé.", actor⟩) .done

def suspend (key : Nat) (actor : Option Nat) (reason : String) : Program Ledger LedgerWrite :=
  .attempt (load key) fun subscription =>
    .write (.save key .suspended
      ⟨subscription.status, .suspended, textOr reason "Abonnement suspendu.", actor⟩) .done

def cancel (now : Instant) (key : Nat) (actor : Option Nat) (reason : String) :
    Program Ledger LedgerWrite :=
  .attempt (load key) fun subscription =>
    .write (.save key (.cancelled now)
      ⟨subscription.status, .cancelled, textOr reason "Abonnement résilié.", actor⟩) .done

def setTrialEnd (key : Nat) (endsAt : Option TrialEnd) (actor : Option Nat) (reason : String) :
    Program Ledger LedgerWrite :=
  .attempt (load key) fun subscription =>
    if subscription.status ≠ .trial then .done
    else
      match trialEndReason endsAt subscription.trialEndsAt reason with
      | .error _ => .done
      | .ok reason =>
          .write (.save key (.trialEnd (endsAt.map TrialEnd.instant))
            ⟨subscription.status, subscription.status, reason, actor⟩) .done

/-- One transaction: the trials that are due are read first. -/
def expireDueTrials (now : Instant) : Program Ledger LedgerWrite :=
  .read fun ledger =>
    .write (.expire now
      ((ledger.store.subscriptions.rows.filter (Subscription.trialDue now)).map
        Subscription.id)) .done

inductive Request where
  | expireDueTrials
  | activate (subscription : Nat) (period : Option Period) (actor : Option Nat) (reason : String)
  | suspend (subscription : Nat) (actor : Option Nat) (reason : String)
  | cancel (subscription : Nat) (actor : Option Nat) (reason : String)
  | setTrialEnd (subscription : Nat) (endsAt : Option TrialEnd) (actor : Option Nat)
      (reason : String)

def program (settings : Settings) : Instant × Request → Program Ledger LedgerWrite
  | (now, .expireDueTrials) => expireDueTrials now
  | (now, .activate key period actor reason) => activate settings now key period actor reason
  | (_, .suspend key actor reason) => suspend key actor reason
  | (now, .cancel key actor reason) => cancel now key actor reason
  | (_, .setTrialEnd key endsAt actor reason) => setTrialEnd key endsAt actor reason

/-! ## The law and its condition -/

/-- No subscription that was activated is expired. -/
def Standing (ledger : Ledger) : Prop :=
  ∀ row ∈ ledger.store.subscriptions, row.id ∈ ledger.activated → row.status ≠ .expired

/-- A subscription that becomes expired is closed at the end of its trial or later. -/
def EndsInTime (before after : Ledger) : Prop :=
  ∀ row ∈ before.store.subscriptions, row.status ≠ .expired →
    ∀ later ∈ after.store.subscriptions, later.id = row.id → later.status = .expired →
      ∀ ends, row.trialEndsAt = some ends → ∃ closed, later.endsAt = some closed ∧ ends ≤ closed

/-- The pass finds none of its trials activated, and the end of each one still past. -/
def FindsDue (ledger : Ledger) : LedgerWrite → Prop
  | .save _ _ _ => True
  | .expire now due =>
      ∀ row ∈ ledger.store.subscriptions, row.id ∈ due → row.id ∉ ledger.activated ∧
        (row.status ≠ .expired → ∀ ends, row.trialEndsAt = some ends → ends ≤ now)

section Writes

variable {ledger : Ledger} {row : Subscription} {key : Nat} {now : Instant} {due : List Nat}

theorem mem_saved {change : LifeChange} {event : LifeEvent} :
    row ∈ (ledger.apply (.save key change event)).store.subscriptions ↔
      ∃ source ∈ ledger.store.subscriptions,
        (if source.id = key then change.apply source else source) = row := by
  change row ∈ ledger.store.subscriptions.modify key change.apply change.id_apply ↔ _
  exact Table.mem_modify

/-- The rows after a pass. -/
theorem mem_expired :
    row ∈ (ledger.apply (.expire now due)).store.subscriptions ↔
      ∃ source ∈ ledger.store.subscriptions,
        (if due.contains source.id = true then source.expiredAt now else source) = row := by
  rw [apply, foldl_expireTrial, Table.foldl_modify _ _ _ (ident_expiredAt now) fun _ => rfl]
  exact mem_rewritten (ident_expiredAt now)

/-- No operation expires a subscription. -/
theorem status_apply_ne (change : LifeChange) (standing : row.status ≠ .expired) :
    (change.apply row).status ≠ .expired := by
  cases change with
  | activated period renewsAt => exact nofun
  | suspended => exact nofun
  | cancelled now => exact nofun
  | trialEnd endsAt => exact standing

theorem status_activated {change : LifeChange} (activates : change.activates = true) :
    (change.apply row).status ≠ .expired := by
  cases change with
  | activated period renewsAt => exact nofun
  | suspended => cases activates
  | cancelled now => cases activates
  | trialEnd endsAt => cases activates

theorem standing_save (standing : ledger.Standing) (change : LifeChange) (event : LifeEvent) :
    (ledger.apply (.save key change event)).Standing := by
  intro later inside listed
  obtain ⟨source, known, rfl⟩ := mem_saved.mp inside
  have before : source.id = key → change.activates = true ∨ source.id ∈ ledger.activated := by
    intro mine
    rw [if_pos mine, change.id_apply] at listed
    cases activates : change.activates with
    | true => exact Or.inl rfl
    | false =>
        simp only [apply, activates] at listed
        exact Or.inr listed
  split
  · next mine =>
      rcases before mine with activates | listed
      · exact status_activated activates
      · exact status_apply_ne change (standing source known listed)
  · next other =>
      rw [if_neg other] at listed
      refine standing source known ?_
      cases activates : change.activates with
      | true =>
          simp only [apply, activates, if_true, List.mem_cons] at listed
          exact listed.resolve_left other
      | false =>
          simp only [apply, activates] at listed
          exact listed

theorem endsInTime_save (change : LifeChange) (event : LifeEvent) :
    ledger.EndsInTime (ledger.apply (.save key change event)) := by
  intro row known live later inside same expired
  obtain ⟨source, member, rfl⟩ := mem_saved.mp inside
  obtain rfl := Table.source_eq change.id_apply member known same
  refine absurd expired ?_
  split
  · exact status_apply_ne change live
  · exact live

theorem standing_expire (standing : ledger.Standing) (finds : ledger.FindsDue (.expire now due)) :
    (ledger.apply (.expire now due)).Standing := by
  intro later inside activated
  obtain ⟨source, known, rfl⟩ := mem_expired.mp inside
  by_cases chosen : due.contains source.id = true
  · rw [if_pos chosen] at activated
    exact absurd activated (finds source known (List.contains_iff_mem.mp chosen)).1
  · rw [if_neg chosen] at activated ⊢
    exact standing source known activated

theorem endsInTime_expire (finds : ledger.FindsDue (.expire now due)) :
    ledger.EndsInTime (ledger.apply (.expire now due)) := by
  intro row known live later inside same expired ends past
  obtain ⟨source, member, rfl⟩ := mem_expired.mp inside
  obtain rfl := Table.source_eq (ident_expiredAt now) member known same
  by_cases chosen : due.contains source.id = true
  · rw [if_pos chosen]
    exact ⟨now, rfl, (finds source known (List.contains_iff_mem.mp chosen)).2 live ends past⟩
  · rw [if_neg chosen] at expired
    exact absurd expired live

/-- A pass that keeps the law has found its trials due. -/
theorem findsDue_of_law (standing : (ledger.apply (.expire now due)).Standing)
    (inTime : ledger.EndsInTime (ledger.apply (.expire now due))) :
    ledger.FindsDue (.expire now due) := by
  intro row inside listed
  have saved : row.expiredAt now ∈ (ledger.apply (.expire now due)).store.subscriptions :=
    mem_expired.mpr ⟨row, inside, if_pos (List.contains_iff_mem.mpr listed)⟩
  refine ⟨fun activated => standing _ saved activated rfl, fun live ends past => ?_⟩
  obtain ⟨closed, same, le⟩ := inTime row inside live _ saved rfl rfl ends past
  cases same
  exact le

/-- The law over one write. -/
theorem law_apply_iff (standing : ledger.Standing) (change : LedgerWrite) :
    (ledger.apply change).Standing ∧ ledger.EndsInTime (ledger.apply change) ↔
      ledger.FindsDue change := by
  cases change with
  | save key change event =>
      exact iff_of_true ⟨standing_save standing change event, endsInTime_save change event⟩ trivial
  | expire now due =>
      constructor
      · rintro ⟨later, inTime⟩
        exact findsDue_of_law later inTime
      · intro finds
        exact ⟨standing_expire standing finds, endsInTime_expire finds⟩

end Writes

/-! ## Schedules -/

/-- Through a schedule of expiries and operations, no activated subscription is expired and
none is closed before the end of its trial, exactly where each pass finds its trials still
due. -/
theorem expiry_respects_iff (settings : Settings) (start : Ledger)
    (moments : List (Moment (Instant × Request))) :
    Always (step apply (program settings)) (fun session => session.state.Standing)
        (.start start) moments ∧
      EachStep (step apply (program settings))
        (WriteMeets fun ledger change => ledger.EndsInTime (ledger.apply change)) (.start start)
        moments ↔
    start.Standing ∧
      EachStep (step apply (program settings)) (WriteMeets FindsDue) (.start start) moments := by
  have exact_write (ledger : Ledger) (change : LedgerWrite) (standing : ledger.Standing) :=
    law_apply_iff standing change
  constructor
  · intro law
    have standing : start.Standing := law.1.start
    exact ⟨standing, (always_and_writesMeet_iff exact_write standing moments).mp law⟩
  · rintro ⟨standing, each⟩
    exact (always_and_writesMeet_iff exact_write standing moments).mpr each

/-! ## A pass that nothing interrupts -/

/-- A subscription that was activated is on trial no more. -/
def Settled (ledger : Ledger) : Prop :=
  ∀ row ∈ ledger.store.subscriptions, row.id ∈ ledger.activated → row.status ≠ .trial

/-- A pass that nothing interrupts finds what it has read. -/
theorem findsDue_alone {ledger : Ledger} (settled : ledger.Settled) (now : Instant) :
    (expireDueTrials now).WritesFit apply FindsDue ledger := by
  refine ⟨fun row inside listed => ?_, trivial⟩
  obtain ⟨source, chosen, same⟩ := List.mem_map.mp listed
  obtain ⟨member, due⟩ := List.mem_filter.mp chosen
  cases Table.ident_injective member inside same
  obtain ⟨trial, past⟩ := Bool.and_eq_true_iff.mp due
  refine ⟨fun activated => settled row inside activated (of_decide_eq_true trial), ?_⟩
  intro _ ends known
  rw [known] at past
  exact of_decide_eq_true past

/-! The pass of a night in which an operator is at work. -/

/-- A trial whose end is due. -/
def dueTrial : Subscription :=
  ⟨0, 1, 0, .trial, .monthly, 0, some 1000, none, none, none, none, none, none, none, none⟩

def duePlan : Plan :=
  ⟨0, "essentiel", "Essentiel", "", "", 4900, 49000, "EUR", false, .published, 1, false, 1, 4, 3,
    0, 0, []⟩

def dueLedger : Ledger where
  store :=
    { plans := ⟨[duePlan], 1, by decide, by decide⟩
      subscriptions := ⟨[dueTrial], 1, by decide, by decide⟩
      events := [] }
  activated := []

def nightSettings : Settings := ⟨25, "essentiel", 14⟩

/-- The pass reads, then the client is activated. -/
def activatedMeanwhile : List (Moment (Instant × Request)) :=
  [.arrive 0 (2000, .expireDueTrials), .advance 0,
    .arrive 1 (2010, .activate 0 none (some 11) ""), .advance 1, .advance 1, .advance 1,
    .advance 0]

/-- The pass reads, then the trial is extended. -/
def extendedMeanwhile : List (Moment (Instant × Request)) :=
  [.arrive 0 (2000, .expireDueTrials), .advance 0,
    .arrive 1 (2010, .setTrialEnd 0 (some ⟨90000, "02/01/1970"⟩) (some 11) ""), .advance 1,
    .advance 1]

theorem EndsInTime.refl (ledger : Ledger) : ledger.EndsInTime ledger := by
  intro row known live later inside same expired
  cases Table.ident_injective inside known same
  exact absurd expired live

/-- The pass expires the client who was activated, and the trial that was extended. -/
theorem expired_by_late_pass :
    ¬Always (step apply (program nightSettings)) (fun session => session.state.Standing)
        (.start dueLedger) activatedMeanwhile ∧
      ¬EachStep (step apply (program nightSettings))
        (WriteMeets fun ledger change => ledger.EndsInTime (ledger.apply change))
        (.start dueLedger) (extendedMeanwhile ++ [.advance 0]) := by
  constructor
  · intro always
    have expired : ∃ row ∈ (after (step apply (program nightSettings)) (.start dueLedger)
        activatedMeanwhile).state.store.subscriptions.rows, row.status = .expired ∧
        row.id ∈ (after (step apply (program nightSettings)) (.start dueLedger)
          activatedMeanwhile).state.activated := by
      decide +kernel
    obtain ⟨row, inside, status, activated⟩ := expired
    exact always.last row inside activated status
  · intro each
    have inTime : EndsInTime (after (step apply (program nightSettings)) (.start dueLedger)
        extendedMeanwhile).state (after (step apply (program nightSettings)) (.start dueLedger)
        (extendedMeanwhile ++ [.advance 0])).state := by
      rw [after_append, after_cons, after_nil]
      exact related_of_writeMeets EndsInTime.refl each.between
    have extended : ∃ row ∈ (after (step apply (program nightSettings)) (.start dueLedger)
        extendedMeanwhile).state.store.subscriptions.rows,
        row.status = .trial ∧ row.id = 0 ∧ row.trialEndsAt = some 90000 := by
      decide +kernel
    have expired : ∃ row ∈ (after (step apply (program nightSettings)) (.start dueLedger)
        (extendedMeanwhile ++ [.advance 0])).state.store.subscriptions.rows,
        row.status = .expired ∧ row.id = 0 ∧ row.endsAt = some 2000 := by
      decide +kernel
    obtain ⟨row, known, trial, key, ends⟩ := extended
    obtain ⟨later, inside, status, same, closed⟩ := expired
    obtain ⟨instant, saved, past⟩ := inTime row known (trial ▸ nofun) later inside
      (same.trans key.symm) status _ ends
    rw [closed] at saved
    cases saved
    exact absurd past (by decide)

end Ledger

end RssiService.Billing
