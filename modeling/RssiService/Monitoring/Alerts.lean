import RssiService.Foundation.Table

/-!
# Assets and alerts

An asset has at most one open alert of each type.  Opening again updates the
open alert in place; resolving closes whatever is open.
-/

namespace RssiService.Monitoring

open Foundation

inductive AssetType where
  | website
  | emailDomain
  deriving DecidableEq, Repr

structure Asset where
  id : Nat
  tenant : Nat
  type : AssetType
  value : String
  isActive : Bool
  deriving DecidableEq, Repr

instance : Identified Asset := ⟨Asset.id⟩

inductive AlertType where
  | down
  | sslExpiring
  | securityHeaders
  | emailMisconfigured
  | breachCompromise
  deriving DecidableEq, Repr

inductive AlertSeverity where
  | warning
  | critical
  deriving DecidableEq, Repr

/-- One problem of an email configuration. -/
structure Issue where
  type : String
  message : String
  deriving DecidableEq, Repr

/-- The details of an alert, one shape for each type. -/
inductive AlertDetails where
  | down (consecutiveFailures : Nat) (lastError : Option String)
  | sslExpiring (daysLeft : Int) (expiresAt : Option String) (notifiedThresholds : List Int)
  | securityHeaders (missing : List String)
  | emailMisconfigured (issues : List Issue)
  | breachCompromise (findingId : Nat) (findingType sourceEndpoint severity : String)
  deriving DecidableEq, Repr

structure Alert where
  id : Nat
  tenant : Nat
  asset : Nat
  alertType : AlertType
  severity : AlertSeverity
  isOpen : Bool
  details : AlertDetails
  openedAt : Nat
  updatedAt : Nat
  resolvedAt : Option Nat
  deriving DecidableEq, Repr

instance : Identified Alert := ⟨Alert.id⟩

/-- The alert is the open one of its asset and type. -/
def Alert.openFor (asset : Nat) (alertType : AlertType) (alert : Alert) : Bool :=
  alert.asset = asset && alert.alertType = alertType && alert.isOpen

theorem openFor_iff {asset : Nat} {alertType : AlertType} {alert : Alert} :
    alert.openFor asset alertType = true ↔
      alert.asset = asset ∧ alert.alertType = alertType ∧ alert.isOpen = true := by
  simp [Alert.openFor, and_assoc]

/-- The open alert of an asset and type, the most recent first. -/
def findOpen (alerts : Table Alert) (asset : Nat) (alertType : AlertType) : Option Alert :=
  alerts.rows.reverse.find? (Alert.openFor asset alertType)

theorem mem_of_findOpen {alerts : Table Alert} {asset : Nat} {alertType : AlertType}
    {alert : Alert} (found : findOpen alerts asset alertType = some alert) :
    alert ∈ alerts ∧ alert.openFor asset alertType = true := by
  refine ⟨?_, List.find?_some found⟩
  exact List.mem_reverse.mp (List.mem_of_find?_eq_some found)

theorem findOpen_eq_none {alerts : Table Alert} {asset : Nat} {alertType : AlertType} :
    findOpen alerts asset alertType = none ↔
      ∀ alert ∈ alerts, alert.openFor asset alertType = false := by
  simp [findOpen, Table.mem_def]

/-- Open an alert, or bring the open one up to date.  The flag says whether
anything changed. -/
def openOrUpdateAlert (now : Nat) (alerts : Table Alert) (asset : Asset) (alertType : AlertType)
    (severity : AlertSeverity) (details : AlertDetails) : Table Alert × Alert × Bool :=
  match findOpen alerts asset.id alertType with
  | none =>
      let build (key : Nat) : Alert :=
        { id := key, tenant := asset.tenant, asset := asset.id, alertType, severity
          isOpen := true, details, openedAt := now, updatedAt := now, resolvedAt := none }
      (alerts.create build (fun _ => rfl), build alerts.next, true)
  | some alert =>
      if alert.severity ≠ severity ∨ alert.details ≠ details then
        (alerts.modify alert.id (fun row => { row with severity, details, updatedAt := now })
          (fun _ => rfl), { alert with severity, details, updatedAt := now }, true)
      else (alerts, alert, false)

section Opening

variable {now : Nat} {alerts : Table Alert} {asset : Asset} {alertType : AlertType}
  {severity : AlertSeverity} {details : AlertDetails}

/-- What an opening does: the open alert of the asset and type, or a new one
under the next key, gets the severity and details, and every other alert stays. -/
structure OpenedAs (alerts : Table Alert) (asset : Asset) (alertType : AlertType)
    (severity : AlertSeverity) (details : AlertDetails) (result : Table Alert × Alert × Bool) :
    Prop where
  openFor : result.2.1.openFor asset.id alertType = true
  severity_eq : result.2.1.severity = severity
  details_eq : result.2.1.details = details
  key : result.2.1.id = (findOpen alerts asset.id alertType).elim alerts.next Alert.id
  rows : ∀ other, other ∈ result.1 ↔
    (other ∈ alerts ∧ other.id ≠ result.2.1.id) ∨ other = result.2.1
  next_le : alerts.next ≤ result.1.next

theorem openOrUpdateAlert_spec :
    OpenedAs alerts asset alertType severity details
      (openOrUpdateAlert now alerts asset alertType severity details) := by
  cases found : findOpen alerts asset.id alertType with
  | none =>
      simp only [openOrUpdateAlert, found]
      refine ⟨by simp [Alert.openFor], rfl, rfl, by rw [found]; rfl, fun other => ?_,
        Nat.le_succ _⟩
      rw [Table.mem_create]
      exact or_congr_left ⟨fun old => ⟨old, Table.ne_next old⟩, And.left⟩
  | some standing =>
      obtain ⟨member, isOpen⟩ := mem_of_findOpen found
      simp only [openOrUpdateAlert, found]
      split
      · refine ⟨isOpen, rfl, rfl, by rw [found]; rfl, fun other => ?_, Nat.le_refl _⟩
        dsimp only
        rw [or_comm]
        exact Table.mem_modify_of_mem member
      · rename_i same
        obtain ⟨sameSeverity, sameDetails⟩ := not_or.mp same
        refine ⟨isOpen, not_not.mp sameSeverity, not_not.mp sameDetails, by rw [found]; rfl,
          fun other => ?_, Nat.le_refl _⟩
        constructor
        · intro inside
          rcases eq_or_ne other.id standing.id with hit | miss
          · exact Or.inr (Table.ident_injective inside member hit)
          · exact Or.inl ⟨inside, miss⟩
        · rintro (⟨inside, _⟩ | rfl)
          · exact inside
          · exact member

/-- An alert after an opening is an old one, or carries the details given. -/
theorem details_of_mem_openOrUpdateAlert {alert : Alert}
    (member : alert ∈ (openOrUpdateAlert now alerts asset alertType severity details).1) :
    alert ∈ alerts ∨ alert.details = details := by
  have opened : OpenedAs alerts asset alertType severity details
      (openOrUpdateAlert now alerts asset alertType severity details) := openOrUpdateAlert_spec
  rcases (opened.rows alert).mp member with ⟨old, _⟩ | rfl
  · exact Or.inl old
  · exact Or.inr opened.details_eq

end Opening

/-- Close the open alerts of an asset and type. -/
def resolveAlert (now : Nat) (alerts : Table Alert) (asset : Nat) (alertType : AlertType) :
    Table Alert :=
  alerts.updateWhere (Alert.openFor asset alertType)
    (fun row => { row with isOpen := false, resolvedAt := some now }) (fun _ => rfl)

/-! ## Open alerts -/

/-- Some alert of the asset and type is open. -/
def HasOpen (alerts : Table Alert) (asset : Nat) (alertType : AlertType) : Prop :=
  ∃ alert ∈ alerts, alert.openFor asset alertType = true

theorem hasOpen_iff_findOpen {alerts : Table Alert} {asset : Nat} {alertType : AlertType} :
    HasOpen alerts asset alertType ↔ (findOpen alerts asset alertType).isSome := by
  cases found : findOpen alerts asset alertType with
  | none =>
      have absent := findOpen_eq_none.mp found
      simp only [Option.isSome_none, Bool.false_eq_true, iff_false]
      rintro ⟨alert, member, isOpen⟩
      rw [absent alert member] at isOpen
      cases isOpen
  | some alert => exact iff_of_true ⟨alert, mem_of_findOpen found⟩ rfl

instance (alerts : Table Alert) (asset : Nat) (alertType : AlertType) :
    Decidable (HasOpen alerts asset alertType) :=
  decidable_of_iff _ hasOpen_iff_findOpen.symm

/-- Resolving closes the alerts of its asset and type and no other. -/
theorem hasOpen_resolveAlert {now : Nat} {alerts : Table Alert} {asset other : Nat}
    {alertType otherType : AlertType} :
    HasOpen (resolveAlert now alerts asset alertType) other otherType ↔
      HasOpen alerts other otherType ∧ ¬ (asset = other ∧ alertType = otherType) := by
  unfold HasOpen resolveAlert
  simp only [Table.mem_updateWhere]
  constructor
  · rintro ⟨_, ⟨alert, member, rfl⟩, isOpen⟩
    split at isOpen
    · simp [Alert.openFor] at isOpen
    · rename_i untouched
      refine ⟨⟨alert, member, isOpen⟩, ?_⟩
      rintro ⟨rfl, rfl⟩
      exact untouched isOpen
  · rintro ⟨⟨alert, member, isOpen⟩, apart⟩
    refine ⟨alert, ⟨alert, member, if_neg ?_⟩, isOpen⟩
    intro same
    obtain ⟨rfl, rfl, _⟩ := openFor_iff.mp same
    obtain ⟨sameAsset, sameType, _⟩ := openFor_iff.mp isOpen
    exact apart ⟨sameAsset, sameType⟩

/-- Opening closes nothing and leaves an open alert of its asset and type. -/
theorem hasOpen_openOrUpdateAlert {now : Nat} {alerts : Table Alert} {asset : Asset}
    {alertType otherType : AlertType} {severity : AlertSeverity} {details : AlertDetails}
    {other : Nat} :
    HasOpen (openOrUpdateAlert now alerts asset alertType severity details).1 other otherType ↔
      HasOpen alerts other otherType ∨ (asset.id = other ∧ alertType = otherType) := by
  unfold openOrUpdateAlert
  cases found : findOpen alerts asset.id alertType with
  | none =>
      simp only [HasOpen, Table.mem_create]
      constructor
      · rintro ⟨alert, old | rfl, isOpen⟩
        · exact Or.inl ⟨alert, old, isOpen⟩
        · obtain ⟨sameAsset, sameType, _⟩ := openFor_iff.mp isOpen
          exact Or.inr ⟨sameAsset, sameType⟩
      · rintro (⟨alert, old, isOpen⟩ | ⟨rfl, rfl⟩)
        · exact ⟨alert, Or.inl old, isOpen⟩
        · exact ⟨_, Or.inr rfl, by simp [Alert.openFor]⟩
  | some alert =>
      obtain ⟨member, isOpen⟩ := mem_of_findOpen found
      obtain ⟨sameAsset, sameType, _⟩ := openFor_iff.mp isOpen
      have standing : asset.id = other ∧ alertType = otherType → HasOpen alerts other otherType := by
        rintro ⟨rfl, rfl⟩
        exact ⟨alert, member, isOpen⟩
      have unchanged : HasOpen alerts other otherType ↔
          HasOpen alerts other otherType ∨ (asset.id = other ∧ alertType = otherType) :=
        ⟨Or.inl, fun either => either.elim id standing⟩
      simp only
      split
      · rw [← unchanged]
        unfold HasOpen
        simp only [Table.mem_modify]
        constructor
        · rintro ⟨_, ⟨source, inside, rfl⟩, stillOpen⟩
          refine ⟨source, inside, ?_⟩
          split at stillOpen <;> exact stillOpen
        · rintro ⟨source, inside, wasOpen⟩
          refine ⟨_, ⟨source, inside, rfl⟩, ?_⟩
          split <;> exact wasOpen
      · exact unchanged

end RssiService.Monitoring
