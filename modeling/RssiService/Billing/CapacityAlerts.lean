import Mathlib.Algebra.Order.Floor.Ring
import RssiService.Billing.Commitment
import RssiService.PlatformAdmin.GovernedSettings
import RssiService.ThreatIntelligence.ScanJobs

/-!
# Capacity alerts

The operator is warned before a scarce resource of the platform is exhausted, once a month for
each resource and threshold.  The thresholds are compared by the operations that open,
activate or raise a subscription; the edit of a plan, a scan and a change of a setting move
the same figures and compare nothing.
-/

namespace RssiService.Billing

open Foundation Foundation.Outcome Foundation.Run Python
open PlatformAdmin (Environment Governed Registry SettingEvent Conversions billingSettings)
open ThreatIntelligence (Usage UsageEntry)

/-! ## Figures -/

inductive Resource where
  | monitoredSlots
  | monthlyScans
  deriving DecidableEq, Repr

def Resource.label : Resource → String
  | .monitoredSlots => "Emplacements de surveillance continue"
  | .monthlyScans => "Analyses ponctuelles ce mois-ci"

structure ResourceUsage where
  resource : Resource
  used : Nat
  capacity : Int
  deriving DecidableEq, Repr

def ResourceUsage.remaining (usage : ResourceUsage) : Int := max 0 (usage.capacity - usage.used)

def ResourceUsage.ratio (usage : ResourceUsage) : ℚ :=
  if usage.capacity = 0 then 0 else usage.used / usage.capacity

/-- A threshold of the settings, in hundredths. -/
structure Threshold where
  percent : Int
  deriving DecidableEq, Repr

def Threshold.ratio (threshold : Threshold) : ℚ := threshold.percent / 100

/-- `int(threshold * 100)`, by which an alert is remembered. -/
def Threshold.rounded (threshold : Threshold) : Int := ⌊threshold.ratio * 100⌋

/-- Sorted, and one threshold where both settings have one value. -/
def alertThresholds (env : Environment) (settings : Registry) : List Threshold :=
  ([⟨(settings.current env .alertWarningRatio).toInt⟩,
      ⟨(settings.current env .alertCriticalRatio).toInt⟩] : List Threshold).dedup.insertionSort
    fun first second => first.ratio ≤ second.ratio

/-- What the alerts depend on. -/
structure Figures where
  committed : Nat
  consumed : Nat
  slotCapacity : Int
  scanCapacity : Int
  thresholds : List Threshold
  deriving DecidableEq, Repr

def Figures.snapshot (figures : Figures) : List ResourceUsage :=
  [⟨.monitoredSlots, figures.committed, figures.slotCapacity⟩,
    ⟨.monthlyScans, figures.consumed, figures.scanCapacity⟩]

/-! ## The month -/

/-- The months, numbered from January of year 1. -/
def calendarMonth (now : Instant) : Nat := monthOf (now / microsecondsPerDay + epochOrdinal)

/-- An instant of the month. -/
structure Occasion (month : Nat) where
  now : Instant
  inMonth : calendarMonth now = month

def monthlyScansUsed (month : Nat) (usage : List Usage) : Nat :=
  ((usage.filter fun row =>
      (firstOfMonth month - epochOrdinal) * microsecondsPerDay ≤ row.createdAt).map
    fun row => row.requestsConsumed).sum

/-- A sent alert is remembered for forty days. -/
def alertTimeout : Nat := 40 * microsecondsPerDay

structure AlertKey where
  resource : Resource
  period : Nat
  threshold : Int
  deriving DecidableEq, Repr

def alertKey (month : Nat) (resource : Resource) (threshold : Threshold) : AlertKey :=
  ⟨resource, month, threshold.rounded⟩

/-! ## State -/

/-- An alert that was sent. -/
structure Alert where
  resource : Resource
  threshold : Threshold
  recipient : String
  subject : String
  message : String
  deriving DecidableEq, Repr

def Alert.about (alert : Alert) : Resource × Threshold := (alert.resource, alert.threshold)

/-- What was sold, consumed and set, and the alerts sent this month, which the cache remembers. -/
structure Desk (month : Nat) where
  billing : Store
  usage : List Usage
  settings : Registry
  alerts : Cache AlertKey Unit
  sent : List Alert
  remembered : ∀ (occasion : Occasion month) (resource : Resource) (threshold : Threshold),
    (alerts.get occasion.now (alertKey month resource threshold)).isSome = true ↔
      (resource, threshold) ∈ sent.map Alert.about

theorem Threshold.rounded_eq (threshold : Threshold) : threshold.rounded = threshold.percent := by
  have whole : threshold.ratio * 100 = (threshold.percent : ℚ) := by
    rw [Threshold.ratio]
    exact div_mul_cancel₀ _ (by decide)
  rw [Threshold.rounded, whole, Int.floor_intCast]

theorem alertKey_inj {month : Nat} {first second : Resource} {low high : Threshold} :
    alertKey month first low = alertKey month second high ↔ first = second ∧ low = high := by
  rw [alertKey, alertKey, Threshold.rounded_eq, Threshold.rounded_eq, AlertKey.mk.injEq]
  cases low
  cases high
  simp

/-- A month is shorter than the memory of an alert. -/
theorem lt_alertTimeout {month : Nat} (first second : Occasion month) :
    first.now < second.now + alertTimeout := by
  have positive (now : Nat) : 1 ≤ now / microsecondsPerDay + epochOrdinal := Nat.le_add_left _ _
  have begun : firstOfMonth month ≤ second.now / microsecondsPerDay + epochOrdinal :=
    (firstOfMonth_le_iff (positive second.now)).mpr second.inMonth.ge
  have unfinished : first.now / microsecondsPerDay + epochOrdinal < firstOfMonth (month + 1) := by
    rw [← Nat.not_le, firstOfMonth_le_iff (positive first.now)]
    have same : monthOf (first.now / microsecondsPerDay + epochOrdinal) = month := first.inMonth
    omega
  have length := firstOfMonth_succ_le month
  have days : first.now / microsecondsPerDay < second.now / microsecondsPerDay + 40 :=
    Nat.lt_of_add_lt_add_right
      (calc first.now / microsecondsPerDay + epochOrdinal
          < firstOfMonth (month + 1) := unfinished
        _ ≤ firstOfMonth month + 40 := length.trans (Nat.add_le_add_left (by decide) _)
        _ ≤ second.now / microsecondsPerDay + epochOrdinal + 40 := Nat.add_le_add_right begun _
        _ = second.now / microsecondsPerDay + 40 + epochOrdinal := Nat.add_right_comm _ _ _)
  have some : 0 < microsecondsPerDay := by
    unfold microsecondsPerDay
    decide
  calc first.now
      < (second.now / microsecondsPerDay + 40) * microsecondsPerDay :=
        (Nat.div_lt_iff_lt_mul some).mp days
    _ = second.now / microsecondsPerDay * microsecondsPerDay + alertTimeout := Nat.add_mul _ _ _
    _ ≤ second.now + alertTimeout := Nat.add_le_add_right (Nat.div_mul_le_self _ _) _

namespace Desk

variable {month : Nat}

def about (desk : Desk month) : List (Resource × Threshold) := desk.sent.map Alert.about

def figures (env : Environment) (desk : Desk month) : Figures where
  committed := desk.billing.monitoredSlotsCommitted
  consumed := monthlyScansUsed month desk.usage
  slotCapacity := (desk.settings.current env .monitoredSlotPool).toInt
  scanCapacity := (desk.settings.current env .monthlyScanCap).toInt
  thresholds := alertThresholds env desk.settings

end Desk

/-- The message of an alert. -/
def ResourceUsage.alert (usage : ResourceUsage) (recipient : String) (threshold : Threshold) :
    Alert where
  resource := usage.resource
  threshold := threshold
  recipient := recipient
  subject := s!"[Plateforme] {usage.resource.label} à {⌊usage.ratio * 100⌋} % " ++
    s!"({usage.used}/{usage.capacity})"
  message :=
    s!"La ressource « {usage.resource.label} » atteint " ++
      s!"{⌊usage.ratio * 100⌋} % de sa capacité plateforme.\n\n" ++
      s!"Consommé : {usage.used}\n" ++
      s!"Capacité : {usage.capacity}\n" ++
      s!"Restant : {usage.remaining}\n\n" ++
      "Au-delà du plafond, toute nouvelle activation d'abonnement sera " ++
      "refusée. Envisagez un palier de licence supérieur."

namespace Desk

variable {month : Nat}

/-- Send the alert of a threshold that is reached, unless it is remembered. -/
def consider (recipient : String) (occasion : Occasion month) (desk : Desk month)
    (usage : ResourceUsage) (threshold : Threshold) : Desk month :=
  let key := alertKey month usage.resource threshold
  if usage.ratio < threshold.ratio then desk
  else if (desk.alerts.get occasion.now key).isSome then desk
  else
    { desk with
      alerts := desk.alerts.set occasion.now key () alertTimeout
      sent := desk.sent ++ [usage.alert recipient threshold]
      remembered := by
        intro later resource other
        rw [List.map_append, List.mem_append, ← desk.remembered later]
        by_cases same : alertKey month resource other = key
        · obtain ⟨rfl, rfl⟩ := alertKey_inj.mp same
          have kept := lt_alertTimeout later occasion
          refine iff_of_true ?_ (Or.inr (List.mem_singleton.mpr rfl))
          rw [Cache.get, Cache.live, Cache.set_apply, if_pos same, Option.filter_some,
            if_pos (decide_eq_true kept)]
          rfl
        · have apart : (resource, other) ∉ [usage.alert recipient threshold].map Alert.about := by
            rintro member
            obtain ⟨rfl, rfl⟩ := Prod.mk.inj (List.mem_singleton.mp member)
            exact same rfl
          rw [Cache.get, Cache.get, Cache.live, Cache.live, Cache.set_apply, if_neg same]
          exact (or_iff_left apart).symm }

/-- Each resource is compared with each threshold. -/
def comparisons (figures : Figures) : List (ResourceUsage × Threshold) :=
  figures.snapshot.flatMap fun usage => figures.thresholds.map fun threshold => (usage, threshold)

/-- Without an address, the alerts are disabled. -/
def checkAlertThresholds (recipient : String) (env : Environment) (occasion : Occasion month)
    (desk : Desk month) : Desk month :=
  if recipient = "" then desk
  else
    (comparisons (desk.figures env)).foldl
      (fun desk pair => desk.consider recipient occasion pair.1 pair.2) desk

end Desk

/-! ## Operations -/

/-- The operation goes on to the alerts, in a store where it succeeds. -/
def Operation.checks (store : Store) : Operation → Bool
  | .startTrial _ _ _ _ => true
  | .activate key _ _ _ => (store.subscriptions.find? key).any fun row => row.status ≠ .active
  | .changePlan key plan _ _ => (store.subscriptions.find? key).any fun row => row.plan ≠ plan
  | .setQuotaOverrides key overrides _ =>
      (store.subscriptions.find? key).any fun row => overrides.changed row ≠ QuotaOverrides.none
  | .suspend _ _ _ | .cancel _ _ _ | .expireDueTrials | .updatePlan _ _ => false

inductive DeskOperation where
  | billing (operation : Operation)
  | scan (entry : UsageEntry)
  | setting (event : SettingEvent)

/-- What the platform supplies: the environment file, the conversions of the settings, and the
address of the operator. -/
structure Platform where
  env : Environment
  conversions : Conversions
  recipient : String

namespace Desk

variable {month : Nat}

/-- What the billing operations read of the settings. -/
def billingSettings (env : Environment) (desk : Desk month) : Settings :=
  PlatformAdmin.billingSettings (Governed.read env desk.settings.store)

def performBilling (platform : Platform) (occasion : Occasion month) (desk : Desk month)
    (operation : Operation) : Desk month :=
  match desk.billing.perform (desk.billingSettings platform.env) occasion.now operation with
  | .error _ => desk
  | .ok billing =>
      if operation.checks desk.billing then
        checkAlertThresholds platform.recipient platform.env occasion { desk with billing }
      else { desk with billing }

def step (platform : Platform) (desk : Desk month) (event : Occasion month × DeskOperation) :
    Desk month :=
  match event.2 with
  | .billing operation => desk.performBilling platform event.1 operation
  | .scan entry => { desk with usage := desk.usage ++ [{ entry with createdAt := event.1.now }] }
  | .setting change =>
      { desk with settings := desk.settings.step platform.conversions platform.env change }

end Desk

/-! ## The law -/

/-- Every resource at or above a threshold is among the alerts. -/
def Figures.Covered (figures : Figures) (about : List (Resource × Threshold)) : Prop :=
  ∀ usage ∈ figures.snapshot, ∀ threshold ∈ figures.thresholds,
    threshold.ratio ≤ usage.ratio → (usage.resource, threshold) ∈ about

instance (figures : Figures) (about : List (Resource × Threshold)) :
    Decidable (figures.Covered about) :=
  inferInstanceAs (Decidable (∀ usage ∈ figures.snapshot, ∀ threshold ∈ figures.thresholds,
    threshold.ratio ≤ usage.ratio → (usage.resource, threshold) ∈ about))

/-- Every threshold that is reached has had its alert this month, and none was sent twice. -/
structure Desk.Alerted {month : Nat} (env : Environment) (desk : Desk month) : Prop where
  complete : (desk.figures env).Covered desk.about
  once : desk.about.Nodup

/-- The edit of a plan, a scan and a change of a setting reach no threshold without its alert.
The other operations compare the thresholds, or free slots; they need an address. -/
def Desk.Fits {month : Nat} (platform : Platform) (desk : Desk month)
    (event : Occasion month × DeskOperation) : Prop :=
  let figures := desk.figures platform.env
  match event.2 with
  | .billing (.updatePlan key changes) =>
      ∀ plan ∈ desk.billing.plans.find? key,
        Figures.Covered
          { figures with committed := figures.committed + desk.billing.editGrowth plan changes }
          desk.about
  | .billing (.suspend _ _ _) | .billing (.cancel _ _ _) | .billing .expireDueTrials => True
  | .billing operation =>
      platform.recipient = "" → ∀ next,
        desk.billing.perform (desk.billingSettings platform.env) event.1.now operation = .ok next →
        Figures.Covered { figures with committed := next.monitoredSlotsCommitted } desk.about
  | .scan entry =>
      Figures.Covered { figures with consumed := figures.consumed + entry.requestsConsumed }
        desk.about
  | .setting change =>
      let settings := desk.settings.step platform.conversions platform.env change
      Figures.Covered
        { figures with
          slotCapacity := (settings.current platform.env .monitoredSlotPool).toInt
          scanCapacity := (settings.current platform.env .monthlyScanCap).toInt
          thresholds := alertThresholds platform.env settings }
        desk.about

/-! ## One comparison -/

section Comparisons

variable {month : Nat} {env : Environment} {platform : Platform} {desk : Desk month}
  {recipient : String} {occasion : Occasion month}

/-- What comparisons leave: the figures and the alerts sent before, and an alert for each
threshold that is reached. -/
structure Compared (env : Environment) (pairs : List (ResourceUsage × Threshold))
    (before after : Desk month) : Prop where
  figures : after.figures env = before.figures env
  kept : ∀ about ∈ before.about, about ∈ after.about
  once : before.about.Nodup → after.about.Nodup
  reached : ∀ pair ∈ pairs, pair.2.ratio ≤ pair.1.ratio → (pair.1.resource, pair.2) ∈ after.about

theorem compared_consider (usage : ResourceUsage) (threshold : Threshold) :
    Compared env [(usage, threshold)] desk (desk.consider recipient occasion usage threshold) := by
  rw [Desk.consider]
  split
  · rename_i below
    refine ⟨rfl, fun _ member => member, id, ?_⟩
    intro pair member reached
    obtain rfl := List.mem_singleton.mp member
    exact absurd reached (not_le.mpr below)
  · split
    · rename_i held
      refine ⟨rfl, fun _ member => member, id, ?_⟩
      intro pair member _
      obtain rfl := List.mem_singleton.mp member
      exact (desk.remembered occasion usage.resource threshold).mp held
    · rename_i unknown
      have fresh : (usage.resource, threshold) ∉ desk.about := by
        intro sent
        exact unknown ((desk.remembered occasion usage.resource threshold).mpr sent)
      have about : (desk.sent ++ [usage.alert recipient threshold]).map Alert.about =
          desk.about ++ [(usage.resource, threshold)] := List.map_append
      refine ⟨rfl, ?_, ?_, ?_⟩
      · intro item member
        show item ∈ (desk.sent ++ _).map Alert.about
        rw [about]
        exact List.mem_append_left _ member
      · intro once
        show ((desk.sent ++ _).map Alert.about).Nodup
        rw [about]
        exact List.Nodup.append once (List.nodup_singleton _)
          (List.disjoint_singleton.mpr fresh)
      · intro pair member _
        obtain rfl := List.mem_singleton.mp member
        show _ ∈ (desk.sent ++ _).map Alert.about
        rw [about]
        exact List.mem_append_right _ (List.mem_singleton.mpr rfl)

theorem compared_foldl (pairs : List (ResourceUsage × Threshold)) (desk : Desk month) :
    Compared env pairs desk
      (pairs.foldl (fun desk pair => desk.consider recipient occasion pair.1 pair.2) desk) := by
  induction pairs generalizing desk with
  | nil => exact ⟨rfl, fun _ member => member, id, nofun⟩
  | cons pair rest ih =>
      have first : Compared env [pair] desk (desk.consider recipient occasion pair.1 pair.2) :=
        compared_consider pair.1 pair.2
      have later := ih (desk.consider recipient occasion pair.1 pair.2)
      refine ⟨later.figures.trans first.figures, ?_, fun once => later.once (first.once once), ?_⟩
      · intro about member
        exact later.kept about (first.kept about member)
      · intro other member reached
        rcases List.mem_cons.mp member with rfl | inRest
        · exact later.kept _ (first.reached _ (List.mem_singleton.mpr rfl) reached)
        · exact later.reached other inRest reached

theorem compared_check (address : recipient ≠ "") :
    Compared env (Desk.comparisons (desk.figures env)) desk
      (desk.checkAlertThresholds recipient env occasion) := by
  rw [Desk.checkAlertThresholds, if_neg address]
  exact compared_foldl (Desk.comparisons (desk.figures env)) desk

/-- Once the thresholds are compared, each one that is reached has had its alert. -/
theorem alerted_check (address : recipient ≠ "") (once : desk.about.Nodup) :
    (desk.checkAlertThresholds recipient env occasion).Alerted env := by
  have compared : Compared env (Desk.comparisons (desk.figures env)) desk
      (desk.checkAlertThresholds recipient env occasion) := compared_check address
  refine ⟨?_, compared.once once⟩
  rw [compared.figures]
  intro usage inSnapshot threshold inThresholds reached
  refine compared.reached (usage, threshold) ?_ reached
  exact List.mem_flatMap.mpr ⟨usage, inSnapshot, List.mem_map_of_mem inThresholds⟩

theorem once_check (once : desk.about.Nodup) :
    (desk.checkAlertThresholds recipient env occasion).about.Nodup := by
  by_cases address : recipient = ""
  · rw [Desk.checkAlertThresholds, if_pos address]
    exact once
  · have compared : Compared env (Desk.comparisons (desk.figures env)) desk
        (desk.checkAlertThresholds recipient env occasion) := compared_check address
    exact compared.once once

theorem once_performBilling (once : desk.about.Nodup) (operation : Operation) :
    (desk.performBilling platform occasion operation).about.Nodup := by
  rw [Desk.performBilling]
  split
  · exact once
  · split
    · exact once_check once
    · exact once

theorem once_step (desk : Desk month) (event : Occasion month × DeskOperation)
    (once : desk.about.Nodup) : (desk.step platform event).about.Nodup := by
  obtain ⟨occasion, operation⟩ := event
  cases operation with
  | billing operation => exact once_performBilling once operation
  | scan entry => exact once
  | setting change => exact once

/-- Whatever is done in the month, no alert is sent twice. -/
theorem once_always (platform : Platform) (start : Desk month)
    (events : List (Occasion month × DeskOperation)) (once : start.about.Nodup) :
    Always (Desk.step platform) (fun desk => desk.about.Nodup) start events :=
  always_of_step once_step once events

/-! ## Figures that move -/

theorem alerted_iff_covered {after : Desk month} (once : desk.about.Nodup)
    (same : after.about = desk.about) :
    after.Alerted env ↔ (after.figures env).Covered desk.about := by
  constructor
  · intro alerted
    exact same ▸ alerted.complete
  · intro covered
    exact ⟨same ▸ covered, same ▸ once⟩

/-- A threshold of the settings is one hundredth at least. -/
theorem ratio_pos {settings : Registry} {threshold : Threshold}
    (listed : threshold ∈ alertThresholds env settings) : 0 < threshold.ratio := by
  have positive (key : PlatformAdmin.SettingKey) (own : key.spec.djangoSetting = "")
      (kind : key.spec.kind = .int) (least : key.spec.minimum = some 1) :
      0 < (settings.current env key).toInt := by
    have accepted := settings.current_accepted env own
    cases value : settings.current env key with
    | int entered =>
        rw [value, PlatformAdmin.SettingSpec.accepts, least] at accepted
        · have bounds := (Bool.and_eq_true_iff.mp accepted).1
          exact of_decide_eq_true bounds
        · exact kind
    | none | bool _ | text _ => simp [value, PlatformAdmin.SettingSpec.accepts, kind] at accepted
  rw [alertThresholds, List.mem_insertionSort, List.mem_dedup] at listed
  have percent : 0 < threshold.percent := by
    rcases List.mem_cons.mp listed with rfl | last
    · exact positive .alertWarningRatio rfl rfl rfl
    · obtain rfl := List.mem_singleton.mp last
      exact positive .alertCriticalRatio rfl rfl rfl
  exact div_pos (Int.cast_pos.mpr percent) (by norm_num)

/-- A smaller use reaches no threshold that the larger one does not. -/
theorem reached_of_le {resource : Resource} {fewer more : Nat} {capacity : Int}
    {threshold : Threshold} (le : fewer ≤ more) (positive : 0 < threshold.ratio)
    (reached : threshold.ratio ≤ (ResourceUsage.mk resource fewer capacity).ratio) :
    threshold.ratio ≤ (ResourceUsage.mk resource more capacity).ratio := by
  refine reached.trans ?_
  have used := positive.trans_le reached
  rw [ResourceUsage.ratio] at used ⊢
  rw [ResourceUsage.ratio]
  split
  · exact le_refl _
  · rename_i nonzero
    rw [if_neg nonzero] at used
    have room : (0 : ℚ) < (capacity : ℚ) := by
      by_contra small
      exact absurd used (not_lt.mpr (div_nonpos_of_nonneg_of_nonpos (Nat.cast_nonneg _)
        (not_lt.mp small)))
    exact div_le_div_of_nonneg_right (Nat.cast_le.mpr le) room.le

theorem covered_of_le {figures : Figures} {about : List (Resource × Threshold)}
    (positive : ∀ threshold ∈ figures.thresholds, 0 < threshold.ratio)
    (covered : figures.Covered about) {fewer : Nat} (le : fewer ≤ figures.committed) :
    Figures.Covered { figures with committed := fewer } about := by
  intro usage inSnapshot threshold inThresholds reached
  have above := positive threshold inThresholds
  rcases List.mem_cons.mp inSnapshot with rfl | last
  · exact covered _ List.mem_cons_self threshold inThresholds (reached_of_le le above reached)
  · exact covered usage (List.mem_cons_of_mem _ last) threshold inThresholds reached

/-! ## What the billing operations do -/

section Idle

variable {settings : Settings} {now : Instant} {store next : Store}

/-- The pool as large as what is committed: what keeps within it does not rise. -/
theorem committed_le_of_withinPool
    (keeps : ∀ settings : Settings, store.WithinPool settings → next.WithinPool settings) :
    next.monitoredSlotsCommitted ≤ store.monitoredSlotsCommitted :=
  keeps ⟨store.monitoredSlotsCommitted, "", 0⟩ (Nat.le_refl _)

theorem activate_of_active {key : Nat} {period : Option Period} {actor : Option Nat}
    {reason : String} (done : store.activate settings now key period actor reason = .ok next)
    (idle : ((store.subscriptions.find? key).any fun row => row.status ≠ .active) = false) :
    next = store := by
  unfold Store.activate at done
  obtain ⟨row, found, done⟩ := bind_eq_ok.mp done
  rw [require_eq_ok.mp found] at idle
  rw [if_pos (by simpa using idle)] at done
  exact (Except.ok.inj done).symm

theorem changePlan_of_same {key plan : Nat} {actor : Option Nat} {reason : String}
    (done : store.changePlan settings key plan actor reason = .ok next)
    (idle : ((store.subscriptions.find? key).any fun row => row.plan ≠ plan) = false) :
    next = store := by
  unfold Store.changePlan at done
  obtain ⟨row, found, done⟩ := bind_eq_ok.mp done
  obtain ⟨target, foundTarget, done⟩ := bind_eq_ok.mp done
  have named : target.id = plan := Table.ident_of_find? (require_eq_ok.mp foundTarget)
  rw [require_eq_ok.mp found] at idle
  have same : row.plan = plan := by simpa using idle
  rw [if_pos (named.trans same.symm)] at done
  exact (Except.ok.inj done).symm

theorem setQuotaOverrides_of_unchanged {key : Nat} {overrides : QuotaOverrides}
    {actor : Option Nat} (done : store.setQuotaOverrides settings key overrides actor = .ok next)
    (idle : ((store.subscriptions.find? key).any fun row =>
      overrides.changed row ≠ QuotaOverrides.none) = false) : next = store := by
  unfold Store.setQuotaOverrides at done
  obtain ⟨row, found, done⟩ := bind_eq_ok.mp done
  rw [require_eq_ok.mp found] at idle
  dsimp only at done
  rw [if_pos (by simpa using idle)] at done
  exact (Except.ok.inj done).symm

/-- An operation that compares nothing commits no slot, the edit of a plan apart. -/
theorem committed_le_of_idle {operation : Operation}
    (done : store.perform settings now operation = .ok next)
    (idle : operation.checks store = false)
    (noEdit : ∀ key changes, operation ≠ .updatePlan key changes) :
    next.monitoredSlotsCommitted ≤ store.monitoredSlotsCommitted := by
  cases operation with
  | startTrial tenant plan actor days => cases idle
  | activate key period actor reason => rw [activate_of_active done idle]
  | suspend key actor reason =>
      exact committed_le_of_withinPool fun _ within => withinPool_suspend done within
  | cancel key actor reason =>
      exact committed_le_of_withinPool fun _ within => withinPool_cancel done within
  | changePlan key plan actor reason => rw [changePlan_of_same done idle]
  | expireDueTrials =>
      obtain rfl := Except.ok.inj done
      exact committed_le_of_withinPool fun _ within => withinPool_expireDueTrials within
  | setQuotaOverrides key overrides actor => rw [setQuotaOverrides_of_unchanged done idle]
  | updatePlan key changes => exact absurd rfl (noEdit key changes)

end Idle

/-! ## One step -/

/-- A store saved without a comparison: the alerts sent before have to cover it. -/
theorem alerted_saved_iff (alerted : desk.Alerted env) (next : Store) :
    Desk.Alerted env { desk with billing := next } ↔
      Figures.Covered
        { desk.figures env with committed := next.monitoredSlotsCommitted } desk.about :=
  alerted_iff_covered alerted.once rfl

/-- They cover it where no slot is committed. -/
theorem covered_idle (alerted : desk.Alerted env) {next : Store}
    (le : next.monitoredSlotsCommitted ≤ desk.billing.monitoredSlotsCommitted) :
    Figures.Covered
      { desk.figures env with committed := next.monitoredSlotsCommitted } desk.about :=
  covered_of_le (fun _ listed => ratio_pos listed) alerted.complete le

theorem alerted_performBilling_iff (alerted : desk.Alerted platform.env) (occasion : Occasion month)
    (operation : Operation) (noEdit : ∀ key changes, operation ≠ .updatePlan key changes) :
    (desk.performBilling platform occasion operation).Alerted platform.env ↔
      (platform.recipient = "" → ∀ next, desk.billing.perform
          (desk.billingSettings platform.env) occasion.now operation = .ok next →
        Figures.Covered
          { desk.figures platform.env with committed := next.monitoredSlotsCommitted }
          desk.about) := by
  rw [Desk.performBilling]
  cases done : desk.billing.perform (desk.billingSettings platform.env) occasion.now operation with
  | error failure => exact iff_of_true alerted nofun
  | ok next =>
      dsimp only
      simp only [Except.ok.injEq, forall_eq']
      cases checks : operation.checks desk.billing with
      | false =>
          have covered := covered_idle alerted (committed_le_of_idle done checks noEdit)
          exact iff_of_true ((alerted_saved_iff alerted next).mpr covered) fun _ => covered
      | true =>
          by_cases address : platform.recipient = ""
          · rw [if_pos rfl, Desk.checkAlertThresholds, if_pos address, alerted_saved_iff alerted]
            exact ⟨fun covered _ => covered, fun covered => covered address⟩
          · rw [if_pos rfl]
            have compared : (Desk.checkAlertThresholds platform.recipient platform.env occasion
                { desk with billing := next }).Alerted platform.env :=
              alerted_check address alerted.once
            exact iff_of_true compared fun missing => absurd missing address

/-- An operation that never compares keeps the law. -/
theorem alerted_performBilling_idle (alerted : desk.Alerted platform.env)
    (occasion : Occasion month) (operation : Operation) (idle : operation.checks desk.billing = false)
    (noEdit : ∀ key changes, operation ≠ .updatePlan key changes) :
    (desk.performBilling platform occasion operation).Alerted platform.env := by
  rw [alerted_performBilling_iff alerted occasion operation noEdit]
  intro _ next done
  exact covered_idle alerted (committed_le_of_idle done idle noEdit)

theorem alerted_updatePlan_iff (alerted : desk.Alerted platform.env) (key : Nat)
    (changes : PlanChanges) :
    (desk.performBilling platform occasion (.updatePlan key changes)).Alerted platform.env ↔
      ∀ plan ∈ desk.billing.plans.find? key,
        Figures.Covered
          { desk.figures platform.env with
            committed := (desk.figures platform.env).committed +
              desk.billing.editGrowth plan changes }
          desk.about := by
  rw [Desk.performBilling, Store.perform]
  cases done : desk.billing.updatePlan key changes with
  | error failure =>
      have unknown : desk.billing.plans.find? key = none := by
        cases found : desk.billing.plans.find? key with
        | none => rfl
        | some plan =>
            unfold Store.updatePlan at done
            rw [found] at done
            cases done
      rw [unknown]
      refine iff_of_true alerted ?_
      intro plan known
      cases known
  | ok result =>
      have edited : desk.billing.updatePlan key changes = .ok (result.1, result.2) := done
      obtain ⟨plan, known, named, grown⟩ := committed_updatePlan edited
      have found : desk.billing.plans.find? key = some plan :=
        Table.find?_eq_some_iff.mpr ⟨known, named⟩
      simp only [found, Option.mem_def, Option.some.injEq, forall_eq']
      refine (alerted_saved_iff alerted result.1).trans ?_
      rw [grown]
      exact Iff.rfl

theorem monthlyScansUsed_append (usage : List Usage) (entry : UsageEntry) :
    monthlyScansUsed month (usage ++ [{ entry with createdAt := occasion.now }]) =
      monthlyScansUsed month usage + entry.requestsConsumed := by
  have begun := periodStart_le occasion.now
  rw [periodStart, show monthOf (occasion.now / microsecondsPerDay + epochOrdinal) = month from
    occasion.inMonth] at begun
  simp [monthlyScansUsed, List.filter_append, begun]

/-- Every threshold that is reached has had its alert after an operation exactly where the
operation fits. -/
theorem alerted_step_iff (alerted : desk.Alerted platform.env)
    (event : Occasion month × DeskOperation) :
    (desk.step platform event).Alerted platform.env ↔ desk.Fits platform event := by
  obtain ⟨occasion, operation⟩ := event
  cases operation with
  | billing operation =>
      have sold := alerted_performBilling_iff alerted occasion operation
      have kept := alerted_performBilling_idle alerted occasion operation
      dsimp only [Desk.step, Desk.Fits]
      cases operation with
      | updatePlan key changes => exact alerted_updatePlan_iff alerted key changes
      | suspend key actor reason => exact iff_of_true (kept rfl (by simp)) trivial
      | cancel key actor reason => exact iff_of_true (kept rfl (by simp)) trivial
      | expireDueTrials => exact iff_of_true (kept rfl (by simp)) trivial
      | startTrial tenant plan actor days => exact sold (by simp)
      | activate key period actor reason => exact sold (by simp)
      | changePlan key plan actor reason => exact sold (by simp)
      | setQuotaOverrides key overrides actor => exact sold (by simp)
  | scan entry =>
      have scanned : (desk.step platform (occasion, .scan entry)).Alerted platform.env ↔
          ((desk.step platform (occasion, .scan entry)).figures platform.env).Covered desk.about :=
        alerted_iff_covered alerted.once rfl
      rw [scanned, Desk.figures, Desk.step, monthlyScansUsed_append]
      exact Iff.rfl
  | setting change => exact alerted_iff_covered alerted.once rfl

/-- Along every run in a month, every threshold that is reached has had its alert, once, exactly
where that held at first and each operation fits. -/
theorem alerted_always_iff (platform : Platform) (start : Desk month)
    (events : List (Occasion month × DeskOperation)) :
    Always (Desk.step platform) (Desk.Alerted platform.env) start events ↔
      start.Alerted platform.env ∧
        EachStep (Desk.step platform) (Desk.Fits platform) start events :=
  always_iff_start_and_eachStep (fun _ event alerted => alerted_step_iff alerted event) start events

end Comparisons

/-! ## An edit that nobody hears of -/

/-- One published plan, no subscriber, and the settings of the environment. -/
def openingDesk : Desk (calendarMonth 0) where
  billing := soloCatalogue
  usage := []
  settings := PlatformAdmin.freshRegistry
  alerts := Cache.empty
  sent := []
  remembered := by
    intro occasion resource threshold
    exact iff_of_false Bool.false_ne_true List.not_mem_nil

def operatedPlatform : Platform where
  env := PlatformAdmin.defaultEnvironment
  conversions := PlatformAdmin.plainConversions
  recipient := "exploitation@plateforme.example"

/-- A trial of one slot out of fifteen, then the plan is raised to thirteen: 86 % of the pool. -/
def unheardEdit : List (Occasion (calendarMonth 0) × DeskOperation) :=
  [(⟨0, rfl⟩, .billing (.startTrial 1 (some 0) none none)),
    (⟨0, rfl⟩, .billing (.updatePlan 0 { monitoredAssets := some 13 }))]

theorem warning_not_sent :
    openingDesk.Alerted operatedPlatform.env ∧
      ¬ Always (Desk.step operatedPlatform) (Desk.Alerted operatedPlatform.env) openingDesk
        unheardEdit := by
  refine ⟨⟨by decide +kernel, List.nodup_nil⟩, ?_⟩
  intro always
  exact absurd always.last.complete (by decide +kernel)

end RssiService.Billing
