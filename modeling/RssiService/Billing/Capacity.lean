import RssiService.Billing.Catalogue

/-!
# The platform guard on monitored slots

The provider licence caps the whole platform.  The commitment is the sum of the
effective monitored-asset quotas of the operational subscriptions, and the
guard refuses before anything is written.
-/

namespace RssiService.Billing

open Foundation

/-- A refusal: a business rule, an exceeded platform cap, or an unknown row. -/
inductive Failure where
  | billing (message : String)
  | platformCapacity (operatorMessage clientMessage : String)
  | notFound
  deriving DecidableEq, Repr

/-- Slots that would be committed with `additional` more, one subscription
possibly left out of the count. -/
def Store.projectedMonitoredSlots (store : Store) (additional : Nat)
    (excludingSubscriptionId : Option Nat) : Nat :=
  let counted := store.subscriptions.rows.filter fun subscription =>
    subscription.isOperational && !(excludingSubscriptionId == some subscription.id)
  (counted.map store.monitoredAssetsQuota).sum + additional

/-- Slots committed by contract, occupied or not. -/
def Store.monitoredSlotsCommitted (store : Store) : Nat :=
  store.projectedMonitoredSlots 0 none

/-- Refuse when the commitment would exceed the platform pool. -/
def Store.ensureMonitoredSlotsAvailable (settings : Settings) (store : Store) (additional : Nat)
    (excludingSubscriptionId : Option Nat) : Except Failure Unit :=
  if additional = 0 then .ok ()
  else
    let capacity := settings.monitoredSlotPool
    let projected := store.projectedMonitoredSlots additional excludingSubscriptionId
    if projected > capacity then
      let already := projected - additional
      let remaining := capacity - already
      .error (.platformCapacity
        (s!"Cette opération engagerait {projected} emplacements de surveillance continue " ++
          s!"pour un plafond plateforme de {capacity}. Il en reste {remaining} disponible(s). " ++
          "Libérez des emplacements (suspension ou changement de plan d'un client existant) " ++
          "ou passez à un palier de licence supérieur avant de poursuivre.")
        ("La surveillance continue ne peut pas être activée pour le " ++
          "moment. Contactez-nous : nous l'activons pour vous."))
    else .ok ()

/-- Refuse when the requests of the month, and more of them, would exceed the cap. -/
def ensureScanBudgetAvailable (capacity used additional : Nat) : Except Failure Unit :=
  if additional = 0 then .ok ()
  else if capacity < used + additional then
    .error (.platformCapacity
      (s!"Le budget d'analyses de la plateforme pour ce mois est atteint " ++
        s!"({used}/{capacity}). Il reste {capacity - used} analyse(s). " ++
        "Attendez le mois suivant ou passez à un palier de licence supérieur.")
      ("Les analyses sont momentanément indisponibles. Réessayez " ++
        "d'ici quelques heures ; contactez-nous si c'est urgent."))
  else .ok ()

theorem ensureScanBudgetAvailable_eq_ok {capacity used additional : Nat} :
    ensureScanBudgetAvailable capacity used additional = .ok () ↔
      additional = 0 ∨ used + additional ≤ capacity := by
  rw [ensureScanBudgetAvailable]
  split
  · exact iff_of_true rfl (Or.inl (by assumption))
  · split
    · exact iff_of_false (by rintro ⟨⟩) (by omega)
    · exact iff_of_true rfl (by omega)

/-! ## The commitment as a sum over the table -/

/-- What one subscription contributes to the commitment. -/
def Store.committedBy (store : Store) (subscription : Subscription) : Nat :=
  if subscription.isOperational then store.monitoredAssetsQuota subscription else 0

private theorem sum_filter_map (rows : List Subscription) (selected : Subscription → Bool)
    (weight : Subscription → Nat) :
    ((rows.filter selected).map weight).sum =
      (rows.map fun row => if selected row then weight row else 0).sum := by
  induction rows with
  | nil => rfl
  | cons row rest ih =>
      cases chosen : selected row <;> simp [chosen, ih]

theorem monitoredSlotsCommitted_eq_total (store : Store) :
    store.monitoredSlotsCommitted = store.subscriptions.total store.committedBy := by
  unfold Store.monitoredSlotsCommitted Store.projectedMonitoredSlots Table.total
  simp only [sum_filter_map, Nat.add_zero]
  refine congrArg List.sum (List.map_congr_left ?_)
  intro row _
  simp [Store.committedBy]

theorem projected_none (store : Store) (additional : Nat) :
    store.projectedMonitoredSlots additional none = store.monitoredSlotsCommitted + additional := by
  simp [Store.monitoredSlotsCommitted, Store.projectedMonitoredSlots]

/-- Leaving a subscription out removes exactly what it contributed. -/
theorem projected_excluding {store : Store} {subscription : Subscription}
    (member : subscription ∈ store.subscriptions) (additional : Nat) :
    store.projectedMonitoredSlots additional (some subscription.id) +
        store.committedBy subscription =
      store.monitoredSlotsCommitted + additional := by
  have others : store.projectedMonitoredSlots additional (some subscription.id) =
      store.subscriptions.total (fun row =>
        if row.id = subscription.id then 0 else store.committedBy row) + additional := by
    simp only [Store.projectedMonitoredSlots, sum_filter_map]
    refine congrArg (· + additional) (Table.total_congr ?_)
    intro row _
    by_cases same : row.id = subscription.id
    · simp [same]
    · have different : subscription.id ≠ row.id := fun equal => same equal.symm
      simp [same, different, Store.committedBy]
  have alone : store.subscriptions.total (fun row =>
      if row.id = subscription.id then store.committedBy row else 0) =
        store.committedBy subscription :=
    Table.total_single member store.committedBy
  have sum_parts := Table.total_add store.subscriptions
    (fun row => if row.id = subscription.id then 0 else store.committedBy row)
    (fun row => if row.id = subscription.id then store.committedBy row else 0)
  have whole : store.subscriptions.total (fun row =>
      (if row.id = subscription.id then 0 else store.committedBy row) +
        (if row.id = subscription.id then store.committedBy row else 0)) =
      store.subscriptions.total store.committedBy := by
    apply Table.total_congr
    intro row _
    split <;> simp
  rw [others, monitoredSlotsCommitted_eq_total]
  omega

/-- A granted guard leaves room for what it was asked. -/
theorem projected_le_of_ensured {settings : Settings} {store : Store} {additional : Nat}
    {excluding : Option Nat}
    (granted : store.ensureMonitoredSlotsAvailable settings additional excluding = .ok ()) :
    additional = 0 ∨
      store.projectedMonitoredSlots additional excluding ≤ settings.monitoredSlotPool := by
  unfold Store.ensureMonitoredSlotsAvailable at granted
  by_cases nothing : additional = 0
  · exact Or.inl nothing
  · rw [if_neg nothing] at granted
    by_cases exceeded : store.projectedMonitoredSlots additional excluding > settings.monitoredSlotPool
    · simp [exceeded] at granted
    · exact Or.inr (Nat.le_of_not_lt exceeded)

/-- The guard refuses for the pool only. -/
theorem platformCapacity_of_refused {settings : Settings} {store : Store} {additional : Nat}
    {excluding : Option Nat} {failure : Failure}
    (refused : store.ensureMonitoredSlotsAvailable settings additional excluding = .error failure) :
    ∃ operator client, failure = .platformCapacity operator client := by
  unfold Store.ensureMonitoredSlotsAvailable at refused
  split at refused
  · cases refused
  · dsimp only at refused
    split at refused
    · cases refused
      exact ⟨_, _, rfl⟩
    · cases refused

end RssiService.Billing
