import RssiService.Foundation.Run
import RssiService.ThreatIntelligence.MonitoredPool

/-!
# The registry of the provider and the table of monitored assets

The registry should hold the domains of the active rows, and an asset that was
unregistered should come back.  A row is deactivated and never removed, and the
table has one row for each asset, so an asset registers once in its life; a
second registration reaches the provider and is then refused by the table.
-/

namespace RssiService.ThreatIntelligence

open Foundation Foundation.Run Python
open Monitoring (Asset AssetType)

/-! ## Runs -/

inductive PoolEvent where
  | declareAsset (tenant : Nat) (type : AssetType) (value : String)
  | verifyOwnership (asset : Nat)
  | bill (billing : Billing.Store)
  | register (entry : EntryPoint) (tenant asset now : Nat) (answer : Answer String)
  | unregister (entry : EntryPoint) (tenant asset : Nat) (answer : Answer Unit)
  | setAssetActive (tenant asset : Nat) (isActive : Bool)
  | deleteAsset (tenant asset : Nat)

def poolStep (unicode : Unicode) (settings : PoolSettings) (platform : Platform) :
    PoolEvent → Platform
  | .declareAsset tenant type value =>
      { platform with
        assets := platform.assets.create
          (fun key => { id := key, tenant, type, value, isActive := true }) (fun _ => rfl) }
  | .verifyOwnership asset => { platform with proven := asset :: platform.proven }
  | .bill billing => { platform with billing }
  | .register entry tenant asset now answer =>
      (postMonitored unicode settings platform entry tenant asset now answer).1
  | .unregister entry tenant asset answer => (deleteMonitored platform entry tenant asset answer).1
  | .setAssetActive tenant asset isActive =>
      match platform.getAsset tenant asset with
      | none => platform
      | some found => setAssetActive platform found isActive
  | .deleteAsset tenant asset =>
      match platform.getAsset tenant asset with
      | none => platform
      | some found => deleteAsset platform found

/-! ## Agreement -/

/-- The references of the active rows. -/
def Platform.activeRefs (platform : Platform) : Set String :=
  {domain | ∃ row ∈ platform.monitored, row.isActive = true ∧ row.providerRef = domain}

/-- The provider has exactly the domains of the active rows. -/
def InStep (platform : Platform) : Prop :=
  ∀ domain, domain ∈ platform.registry ↔ domain ∈ platform.activeRefs

/-- The asset has a row: it was registered before. -/
def Platform.HasRow (platform : Platform) (asset : Nat) : Prop :=
  ∃ row ∈ platform.monitored, row.asset = asset

def Platform.IsMonitored (platform : Platform) (asset : Nat) : Prop :=
  ∃ row ∈ platform.monitored, row.asset = asset ∧ row.isActive = true

/-- The rights, the quotas, the pool and the proof of ownership all allow the
registration of an asset under a domain. -/
structure Granted (unicode : Unicode) (settings : PoolSettings) (platform : Platform)
    (entry : EntryPoint) (tenant asset : Nat) (found : Asset) (domain : String) : Prop where
  asset_eq : platform.getAsset tenant asset = some found
  entitled : platform.entitled settings tenant entry = .ok ()
  guarded : platform.registrationGuard unicode settings tenant found = .ok domain

/-- An asset that was unregistered is monitored again after a registration that
everything allows and that the provider accepts. -/
def Readmitted (unicode : Unicode) (settings : PoolSettings) (platform : Platform) :
    PoolEvent → Prop
  | .register entry tenant asset now answer =>
      ∀ found domain, Granted unicode settings platform entry tenant asset found domain →
        platform.HasRow found.id → answer.applied = true → (∃ ref, answer.outcome = .ok ref) →
        (poolStep unicode settings platform (.register entry tenant asset now answer)).IsMonitored
          found.id
  | _ => True

/-- What a step has to do: leave the registry and the table in agreement, and
readmit. -/
def Agrees (unicode : Unicode) (settings : PoolSettings) (platform : Platform)
    (event : PoolEvent) : Prop :=
  InStep (poolStep unicode settings platform event) ∧
    Readmitted unicode settings platform event

/-! ## The condition -/

/-- A registration that reaches the provider.  One that the table takes is
applied and answered with the domain itself.  One that is refused, by the
provider or by the table, is not applied, or its domain is monitored already;
the table refuses no asset that was registered before. -/
def RegistrationSafe (platform : Platform) (asset : Nat) (domain : String)
    (answer : Answer String) : Prop :=
  match answer.outcome with
  | .ok ref =>
      if platform.insertable asset ref then answer.applied = true ∧ ref = domain
      else answer.applied = true → domain ∈ platform.activeRefs ∧ ¬ platform.HasRow asset
  | .error _ => answer.applied = true → domain ∈ platform.activeRefs

/-- The condition on one event. -/
def KeepsStep (unicode : Unicode) (settings : PoolSettings) (platform : Platform) :
    PoolEvent → Prop
  | .register entry tenant asset _ answer =>
      ∀ found domain, Granted unicode settings platform entry tenant asset found domain →
        RegistrationSafe platform found.id domain answer
  | .unregister .tenantView tenant asset answer =>
      ∀ row, platform.getMonitoredAsset tenant asset = some row →
        (answer.applied = true ↔ answer.outcome = .ok ())
  | .deleteAsset tenant asset =>
      ∀ found, platform.getAsset tenant asset = some found → ¬ platform.IsMonitored found.id
  | _ => True

/-- The constraints of the table of monitored assets. -/
structure Constrained (platform : Platform) : Prop where
  provider_eq : ∀ row ∈ platform.monitored, row.provider = defaultProvider
  unique_asset : ∀ first ∈ platform.monitored, ∀ second ∈ platform.monitored,
    first.asset = second.asset → first = second
  unique_ref : ∀ first ∈ platform.monitored, ∀ second ∈ platform.monitored,
    first.providerRef = second.providerRef → first = second

/-! ## One write -/

section Writes

variable {platform : Platform} {domain ref : String} {applied : Bool} {tenant asset now : Nat}

theorem inStep_registered_iff (agreed : InStep platform) :
    InStep (platform.registered applied domain) ↔
      (applied = true → domain ∈ platform.activeRefs) := by
  cases applied with
  | false => exact iff_of_true agreed (by rintro ⟨⟩)
  | true =>
      constructor
      · intro after _
        exact (after domain).mp (Finset.mem_insert_self _ _)
      · intro monitored other
        have known : other ∈ insert domain platform.registry ↔ other ∈ platform.activeRefs := by
          rw [Finset.mem_insert, agreed other]
          constructor
          · rintro (rfl | active)
            · exact monitored rfl
            · exact active
          · exact Or.inr
        exact known

theorem insertable_iff : platform.insertable asset ref = true ↔
    ∀ row ∈ platform.monitored, row.asset ≠ asset ∧
      ¬ (row.provider = defaultProvider ∧ row.providerRef = ref) := by
  simp [Platform.insertable, Table.mem_def]

theorem mem_insertMonitored {row : MonitoredAsset} :
    row ∈ (platform.insertMonitored tenant asset ref now).monitored ↔
      row ∈ platform.monitored ∨
        row = { id := platform.monitored.next, tenant, asset, provider := defaultProvider
                providerRef := ref, providerAssetType := "domain", registeredAt := now
                isActive := true } := by
  rw [Platform.insertMonitored, Table.mem_create]

theorem activeRefs_insertMonitored (other : String) :
    other ∈ (platform.insertMonitored tenant asset ref now).activeRefs ↔
      other ∈ platform.activeRefs ∨ other = ref := by
  simp only [Platform.activeRefs, Set.mem_ofPred_eq, mem_insertMonitored]
  constructor
  · rintro ⟨row, old | rfl, isActive, rfl⟩
    · exact Or.inl ⟨row, old, isActive, rfl⟩
    · exact Or.inr rfl
  · rintro (⟨row, old, isActive, rfl⟩ | rfl)
    · exact ⟨row, Or.inl old, isActive, rfl⟩
    · exact ⟨_, Or.inr rfl, rfl, rfl⟩

/-- A row that the table takes is in step with a call that was applied under its
own reference. -/
theorem inStep_insertMonitored_iff (agreed : InStep platform) (constrained : Constrained platform)
    (free : platform.insertable asset ref = true) :
    InStep ((platform.registered applied domain).insertMonitored tenant asset ref now) ↔
      applied = true ∧ ref = domain := by
  have unused : ref ∉ platform.registry := by
    intro known
    obtain ⟨row, member, _, same⟩ := (agreed ref).mp known
    exact (insertable_iff.mp free row member).2 ⟨constrained.provider_eq row member, same⟩
  cases applied with
  | false =>
      refine iff_of_false ?_ (by simp)
      intro after
      exact unused ((after ref).mpr ((activeRefs_insertMonitored ref).mpr (Or.inr rfl)))
  | true =>
      have known (other : String) :
          other ∈ insert domain platform.registry ↔ other = domain ∨ other ∈ platform.activeRefs := by
        rw [Finset.mem_insert, agreed other]
      constructor
      · intro after
        have added := (after ref).mpr ((activeRefs_insertMonitored ref).mpr (Or.inr rfl))
        exact ⟨rfl, (Finset.mem_insert.mp added).resolve_right unused⟩
      · rintro ⟨_, rfl⟩ other
        exact (known other).trans (or_comm.trans (activeRefs_insertMonitored other).symm)

/-- Leaving a row out of the active ones removes its reference and no other. -/
theorem activeRefs_without (constrained : Constrained platform) {row : MonitoredAsset}
    (member : row ∈ platform.monitored) (other : String) :
    (∃ kept ∈ platform.monitored, kept.id ≠ row.id ∧ kept.isActive = true ∧
        kept.providerRef = other) ↔
      other ∈ platform.activeRefs ∧ other ≠ row.providerRef := by
  constructor
  · rintro ⟨kept, inside, apart, keptActive, rfl⟩
    refine ⟨⟨kept, inside, keptActive, rfl⟩, ?_⟩
    intro same
    exact apart (congrArg MonitoredAsset.id (constrained.unique_ref kept inside row member same))
  · rintro ⟨⟨kept, inside, keptActive, rfl⟩, apart⟩
    refine ⟨kept, inside, ?_, keptActive, rfl⟩
    intro same
    exact apart (congrArg MonitoredAsset.providerRef (Table.ident_injective inside member same))

theorem activeRefs_deactivate (constrained : Constrained platform) {row : MonitoredAsset}
    (member : row ∈ platform.monitored) (other : String) :
    other ∈ Platform.activeRefs { platform with
        monitored := platform.monitored.modify row.id (fun row => { row with isActive := false })
          (fun _ => rfl) } ↔
      other ∈ platform.activeRefs ∧ other ≠ row.providerRef := by
  have rows (kept : MonitoredAsset) : kept ∈ platform.monitored.modify row.id
      (fun row => { row with isActive := false }) (fun _ => rfl) ↔
        kept = { row with isActive := false } ∨ kept ∈ platform.monitored ∧ kept.id ≠ row.id :=
    Table.mem_modify_of_mem member
  rw [← activeRefs_without constrained member]
  simp only [Platform.activeRefs, Set.mem_ofPred_eq, rows]
  constructor
  · rintro ⟨kept, rfl | ⟨inside, apart⟩, keptActive, sameRef⟩
    · cases keptActive
    · exact ⟨kept, inside, apart, keptActive, sameRef⟩
  · rintro ⟨kept, inside, apart, keptActive, sameRef⟩
    exact ⟨kept, Or.inr ⟨inside, apart⟩, keptActive, sameRef⟩

/-- A deactivation is in step with a call that was applied exactly when it is
answered. -/
theorem inStep_unregister_iff (agreed : InStep platform) (constrained : Constrained platform)
    {row : MonitoredAsset} (member : row ∈ platform.monitored) (isActive : row.isActive = true)
    (answer : Answer Unit) :
    InStep (unregisterMonitoredAsset platform row answer).1 ↔
      (answer.applied = true ↔ answer.outcome = .ok ()) := by
  have known : row.providerRef ∈ platform.registry :=
    (agreed _).mpr ⟨row, member, isActive, rfl⟩
  obtain ⟨applied, outcome⟩ := answer
  cases outcome with
  | error fault =>
      cases applied with
      | false => exact iff_of_true agreed (by simp)
      | true =>
          refine iff_of_false ?_ (by simp)
          intro after
          have erased := (after row.providerRef).mpr ⟨row, member, isActive, rfl⟩
          exact (Finset.mem_erase.mp erased).1 rfl
  | ok answered =>
      cases applied with
      | false =>
          refine iff_of_false ?_ (by simp)
          intro after
          have gone := (activeRefs_deactivate constrained member _).mp
            ((after row.providerRef).mp known)
          exact gone.2 rfl
      | true =>
          refine iff_of_true ?_ (by simp)
          intro other
          refine Iff.trans ?_ (activeRefs_deactivate constrained member other).symm
          exact Finset.mem_erase.trans (and_comm.trans (and_congr_left fun _ => agreed other))

/-- A deletion is in step when it takes no active row along. -/
theorem inStep_deleteAsset_iff (agreed : InStep platform) (constrained : Constrained platform)
    (found : Asset) :
    InStep (deleteAsset platform found) ↔ ¬ platform.IsMonitored found.id := by
  constructor
  · rintro after ⟨row, member, same, isActive⟩
    have known : row.providerRef ∈ platform.registry :=
      (agreed _).mpr ⟨row, member, isActive, rfl⟩
    obtain ⟨kept, inside, _, sameRef⟩ := (after row.providerRef).mp known
    obtain ⟨inside, apart⟩ := Table.mem_deleteWhere.mp inside
    rw [constrained.unique_ref kept inside row member sameRef, same] at apart
    simp at apart
  · intro idle other
    apply (agreed other).trans
    constructor
    · rintro ⟨row, member, isActive, rfl⟩
      refine ⟨row, Table.mem_deleteWhere.mpr ⟨member, ?_⟩, isActive, rfl⟩
      apply decide_eq_false
      intro same
      exact idle ⟨row, member, same, isActive⟩
    · rintro ⟨row, member, isActive, rfl⟩
      exact ⟨row, (Table.mem_deleteWhere.mp member).1, isActive, rfl⟩

end Writes

/-! ## A registration -/

section Registrations

variable {unicode : Unicode} {settings : PoolSettings} {platform : Platform} {entry : EntryPoint}
  {tenant asset now : Nat} {answer : Answer String} {found : Asset} {domain : String}

theorem Granted.unique {other : Asset} {otherDomain : String}
    (granted : Granted unicode settings platform entry tenant asset found domain)
    (again : Granted unicode settings platform entry tenant asset other otherDomain) :
    found = other ∧ domain = otherDomain := by
  obtain rfl := Option.some.inj (granted.asset_eq.symm.trans again.asset_eq)
  exact ⟨rfl, Except.ok.inj (granted.guarded.symm.trans again.guarded)⟩

/-- A registration that something refuses leaves the platform as it was. -/
theorem postMonitored_of_refused
    (refused : ∀ found domain,
      ¬ Granted unicode settings platform entry tenant asset found domain) :
    (postMonitored unicode settings platform entry tenant asset now answer).1 = platform := by
  rw [postMonitored]
  cases lookup : platform.getAsset tenant asset with
  | none => rfl
  | some found =>
      dsimp only
      cases rights : platform.entitled settings tenant entry with
      | error refusal => rfl
      | ok granted =>
          dsimp only
          rw [registerMonitoredAsset]
          cases guarded : platform.registrationGuard unicode settings tenant found with
          | error refusal => rfl
          | ok domain => exact absurd ⟨lookup, rights, guarded⟩ (refused found domain)

theorem monitored_registered (applied : Bool) :
    (platform.registered applied domain).monitored = platform.monitored := by
  cases applied <;> rfl

/-- A registration that everything allows calls the provider, then inserts. -/
theorem postMonitored_of_granted
    (granted : Granted unicode settings platform entry tenant asset found domain) :
    (postMonitored unicode settings platform entry tenant asset now answer).1 =
      match answer.outcome with
      | .ok ref =>
          if platform.insertable found.id ref then
            (platform.registered answer.applied domain).insertMonitored tenant found.id ref now
          else platform.registered answer.applied domain
      | .error _ => platform.registered answer.applied domain := by
  rw [postMonitored, granted.asset_eq]
  dsimp only
  rw [granted.entitled]
  dsimp only
  rw [registerMonitoredAsset, granted.guarded]
  dsimp only
  cases outcome : answer.outcome with
  | error fault => cases fault <;> rfl
  | ok ref =>
      dsimp only
      rw [Platform.insertable, monitored_registered, ← Platform.insertable]
      split <;> rfl

/-- The guards let no asset through that is monitored. -/
theorem Granted.idle (granted : Granted unicode settings platform entry tenant asset found domain) :
    ¬ platform.IsMonitored found.id := by
  rintro ⟨row, member, same, isActive⟩
  have guarded := granted.guarded
  have taken : (platform.monitored.rows.any fun row => row.asset = found.id && row.isActive) =
      true := by
    refine List.any_eq_true.mpr ⟨row, member, ?_⟩
    simp [same, isActive]
  rw [Platform.registrationGuard, taken] at guarded
  split at guarded
  · cases guarded
  split at guarded
  · cases guarded
  cases guarded

/-- An insertion the table refuses monitors nothing more. -/
theorem isMonitored_registered (applied : Bool) :
    (platform.registered applied domain).IsMonitored asset ↔ platform.IsMonitored asset := by
  rw [Platform.IsMonitored, monitored_registered, ← Platform.IsMonitored]

theorem not_hasRow_of_insertable {ref : String} (free : platform.insertable asset ref = true) :
    ¬ platform.HasRow asset := by
  rintro ⟨row, member, same⟩
  exact (insertable_iff.mp free row member).1 same

theorem agrees_register_iff (agreed : InStep platform) (constrained : Constrained platform)
    (granted : Granted unicode settings platform entry tenant asset found domain) :
    Agrees unicode settings platform (.register entry tenant asset now answer) ↔
      RegistrationSafe platform found.id domain answer := by
  have step : poolStep unicode settings platform (.register entry tenant asset now answer) = _ :=
    postMonitored_of_granted granted
  have readmitted :
      Readmitted unicode settings platform (.register entry tenant asset now answer) ↔
        (platform.HasRow found.id → answer.applied = true → (∃ ref, answer.outcome = .ok ref) →
          (poolStep unicode settings platform
            (.register entry tenant asset now answer)).IsMonitored found.id) := by
    constructor
    · intro all
      exact all found domain granted
    · intro here other otherDomain again
      obtain ⟨rfl, rfl⟩ := granted.unique again
      exact here
  rw [Agrees, readmitted, step, RegistrationSafe]
  cases outcome : answer.outcome with
  | error fault =>
      dsimp only
      rw [inStep_registered_iff agreed]
      refine and_iff_left ?_
      rintro _ _ ⟨_, answered⟩
      cases answered
  | ok ref =>
      dsimp only
      cases free : platform.insertable found.id ref with
      | true =>
          simp only [if_true]
          rw [inStep_insertMonitored_iff agreed constrained free]
          exact and_iff_left fun hasRow => absurd hasRow (not_hasRow_of_insertable free)
      | false =>
          simp only [Bool.false_eq_true, if_false]
          rw [inStep_registered_iff agreed, isMonitored_registered]
          have never : ¬ platform.IsMonitored found.id := granted.idle
          constructor
          · rintro ⟨known, again⟩ applied
            exact ⟨known applied, fun hasRow => never (again hasRow applied ⟨ref, rfl⟩)⟩
          · intro safe
            exact ⟨fun applied => (safe applied).1,
              fun hasRow applied _ => absurd hasRow (safe applied).2⟩

/-- A registration agrees exactly when it is safe wherever everything allows it. -/
theorem agrees_register_iff_keepsStep (agreed : InStep platform)
    (constrained : Constrained platform) :
    Agrees unicode settings platform (.register entry tenant asset now answer) ↔
      KeepsStep unicode settings platform (.register entry tenant asset now answer) := by
  rcases Classical.em (∃ found domain,
      Granted unicode settings platform entry tenant asset found domain) with
    ⟨found, domain, granted⟩ | refused
  · apply (agrees_register_iff agreed constrained granted).trans
    constructor
    · intro safe other otherDomain again
      obtain ⟨rfl, rfl⟩ := granted.unique again
      exact safe
    · intro all
      exact all found domain granted
  · have none (found : Asset) (domain : String) :
        ¬ Granted unicode settings platform entry tenant asset found domain :=
      fun granted => refused ⟨found, domain, granted⟩
    have step : poolStep unicode settings platform (.register entry tenant asset now answer) =
        platform := postMonitored_of_refused none
    refine iff_of_true ⟨?_, ?_⟩ ?_
    · rw [step]
      exact agreed
    · intro found domain granted
      exact absurd granted (none found domain)
    · intro found domain granted
      exact absurd granted (none found domain)

end Registrations

/-! ## Events and runs -/

section Runs

variable {unicode : Unicode} {settings : PoolSettings} {platform : Platform} {event : PoolEvent}

theorem mem_of_getMonitoredAsset {tenant asset : Nat} {row : MonitoredAsset}
    (found : platform.getMonitoredAsset tenant asset = some row) :
    row ∈ platform.monitored ∧ row.isActive = true := by
  have chosen := List.find?_some found
  simp only [Bool.and_eq_true, decide_eq_true_eq] at chosen
  exact ⟨List.mem_of_find?_eq_some found, chosen.2⟩

/-- An event agrees exactly when it meets the condition. -/
theorem agrees_iff_keepsStep (constrained : Constrained platform) (agreed : InStep platform) :
    Agrees unicode settings platform event ↔ KeepsStep unicode settings platform event := by
  cases event with
  | declareAsset tenant type value => exact iff_of_true ⟨agreed, trivial⟩ trivial
  | verifyOwnership asset => exact iff_of_true ⟨agreed, trivial⟩ trivial
  | bill billing => exact iff_of_true ⟨agreed, trivial⟩ trivial
  | register entry tenant asset now answer => exact agrees_register_iff_keepsStep agreed constrained
  | unregister entry tenant asset answer =>
      cases entry with
      | console =>
          refine iff_of_true ⟨?_, trivial⟩ trivial
          simp only [poolStep, deleteMonitored]
          split <;> exact agreed
      | tenantView =>
          apply (and_iff_left trivial).trans
          rw [KeepsStep, poolStep, deleteMonitored]
          cases lookup : platform.getMonitoredAsset tenant asset with
          | none =>
              apply iff_of_true agreed
              intro row impossible
              cases impossible
          | some row =>
              obtain ⟨member, isActive⟩ := mem_of_getMonitoredAsset lookup
              apply (inStep_unregister_iff agreed constrained member isActive answer).trans
              constructor
              · rintro safe _ ⟨⟩
                exact safe
              · intro all
                exact all row rfl
  | setAssetActive tenant asset isActive =>
      refine iff_of_true ⟨?_, trivial⟩ trivial
      rw [poolStep]
      split <;> exact agreed
  | deleteAsset tenant asset =>
      apply (and_iff_left trivial).trans
      rw [KeepsStep, poolStep]
      cases lookup : platform.getAsset tenant asset with
      | none =>
          apply iff_of_true agreed
          intro found impossible
          cases impossible
      | some found =>
          apply (inStep_deleteAsset_iff agreed constrained found).trans
          constructor
          · rintro safe _ ⟨⟩
            exact safe
          · intro all
            exact all found rfl

/-- A row that the table takes breaks no constraint. -/
theorem constrained_insertMonitored (constrained : Constrained platform) {tenant asset now : Nat}
    {ref : String} (free : platform.insertable asset ref = true) :
    Constrained (platform.insertMonitored tenant asset ref now) := by
  have apart := insertable_iff.mp free
  refine ⟨?_, ?_, ?_⟩
  · intro row member
    rcases mem_insertMonitored.mp member with old | rfl
    · exact constrained.provider_eq row old
    · rfl
  · intro first inFirst second inSecond same
    rcases mem_insertMonitored.mp inFirst with old | rfl
    · rcases mem_insertMonitored.mp inSecond with old' | rfl
      · exact constrained.unique_asset first old second old' same
      · exact absurd same (apart first old).1
    · rcases mem_insertMonitored.mp inSecond with old' | rfl
      · exact absurd same.symm (apart second old').1
      · rfl
  · intro first inFirst second inSecond same
    rcases mem_insertMonitored.mp inFirst with old | rfl
    · rcases mem_insertMonitored.mp inSecond with old' | rfl
      · exact constrained.unique_ref first old second old' same
      · exact absurd ⟨constrained.provider_eq first old, same⟩ (apart first old).2
    · rcases mem_insertMonitored.mp inSecond with old' | rfl
      · exact absurd ⟨constrained.provider_eq second old', same.symm⟩ (apart second old').2
      · rfl

/-- Rows that keep their asset and reference break no constraint. -/
theorem constrained_of_rows (constrained : Constrained platform) {later : Platform}
    (change : MonitoredAsset → MonitoredAsset)
    (same : ∀ row, (change row).asset = row.asset ∧ (change row).providerRef = row.providerRef ∧
      (change row).provider = row.provider)
    (rows : ∀ row ∈ later.monitored, ∃ source ∈ platform.monitored, change source = row) :
    Constrained later := by
  refine ⟨?_, ?_, ?_⟩
  · intro row member
    obtain ⟨source, inside, rfl⟩ := rows row member
    exact (same source).2.2.trans (constrained.provider_eq source inside)
  · intro first inFirst second inSecond sameAsset
    obtain ⟨source, inside, rfl⟩ := rows first inFirst
    obtain ⟨other, inside', rfl⟩ := rows second inSecond
    rw [(same source).1, (same other).1] at sameAsset
    rw [constrained.unique_asset source inside other inside' sameAsset]
  · intro first inFirst second inSecond sameRef
    obtain ⟨source, inside, rfl⟩ := rows first inFirst
    obtain ⟨other, inside', rfl⟩ := rows second inSecond
    rw [(same source).2.1, (same other).2.1] at sameRef
    rw [constrained.unique_ref source inside other inside' sameRef]

theorem constrained_of_monitored (constrained : Constrained platform) {later : Platform}
    (same : later.monitored = platform.monitored) : Constrained later :=
  constrained_of_rows constrained id (fun _ => ⟨rfl, rfl, rfl⟩)
    fun row member => ⟨row, same ▸ member, rfl⟩

theorem constrained_register (constrained : Constrained platform) {entry : EntryPoint}
    {tenant asset now : Nat} {answer : Answer String} :
    Constrained
      (postMonitored unicode settings platform entry tenant asset now answer).1 := by
  rcases Classical.em (∃ found domain,
      Granted unicode settings platform entry tenant asset found domain) with
    ⟨found, domain, granted⟩ | refused
  · have called : Constrained (platform.registered answer.applied domain) :=
      constrained_of_monitored constrained (monitored_registered _)
    rw [postMonitored_of_granted granted]
    split
    · rename_i ref _
      split
      · rename_i free
        apply constrained_insertMonitored called
        rw [Platform.insertable, monitored_registered]
        exact free
      · exact called
    · exact called
  · rw [postMonitored_of_refused fun found domain granted => refused ⟨found, domain, granted⟩]
    exact constrained

theorem constrained_unregister (constrained : Constrained platform) (row : MonitoredAsset)
    (answer : Answer Unit) : Constrained (unregisterMonitoredAsset platform row answer).1 := by
  have called : (platform.unregistered answer.applied row.providerRef).monitored =
      platform.monitored := by
    cases answer.applied <;> rfl
  rw [unregisterMonitoredAsset]
  split
  · exact constrained_of_monitored constrained called
  · refine constrained_of_rows constrained
      (fun source => if source.id = row.id then { source with isActive := false } else source) ?_ ?_
    · intro source
      split
      · exact ⟨rfl, rfl, rfl⟩
      · exact ⟨rfl, rfl, rfl⟩
    · intro later member
      simp only [called, Table.mem_modify, ident_monitoredAsset] at member
      exact member

theorem constrained_step (constrained : Constrained platform) :
    Constrained (poolStep unicode settings platform event) := by
  cases event with
  | declareAsset tenant type value => exact constrained_of_monitored constrained rfl
  | verifyOwnership asset => exact constrained_of_monitored constrained rfl
  | bill billing => exact constrained_of_monitored constrained rfl
  | register entry tenant asset now answer => exact constrained_register constrained
  | unregister entry tenant asset answer =>
      cases entry with
      | tenantView =>
          rw [poolStep, deleteMonitored]
          split
          · exact constrained
          · exact constrained_unregister constrained _ answer
      | console =>
          rw [poolStep, deleteMonitored]
          split <;> exact constrained
  | setAssetActive tenant asset isActive =>
      rw [poolStep]
      split
      · exact constrained
      · exact constrained_of_monitored constrained rfl
  | deleteAsset tenant asset =>
      rw [poolStep]
      split
      · exact constrained
      · refine constrained_of_rows constrained id (fun _ => ⟨rfl, rfl, rfl⟩) ?_
        intro row member
        exact ⟨row, (Table.mem_deleteWhere.mp member).1, rfl⟩

/-- Over any run, the provider and the table agree after every operation and
unregistered assets come back exactly when every event meets the condition. -/
theorem registry_agrees_iff (unicode : Unicode) (settings : PoolSettings) (start : Platform)
    (constrained : Constrained start) (agreed : InStep start) (events : List PoolEvent) :
    EachStep (poolStep unicode settings) (Agrees unicode settings) start events ↔
      EachStep (poolStep unicode settings) (KeepsStep unicode settings) start events :=
  eachStep_iff_eachStep (I := Constrained) (P := InStep) (fun _ _ => constrained_step)
    (fun _ _ => agrees_iff_keepsStep) (fun _ _ _ _ agrees => agrees.1) constrained agreed events

end Runs

/-! ## A domain that is registered twice -/

section Twice

def acmeUnicode : Unicode := ⟨id, id, fun _ => true⟩

def acmeSettings : PoolSettings :=
  { webhookCallbackUrl := "https://rssi.example/webhook", monitoredAssetPoolSize := 15
    billing := { monitoredSlotPool := 15, defaultTrialPlanCode := "", trialDays := 14 } }

def acmeBilling : Billing.Store :=
  { plans := Table.empty.create
      (fun key => ⟨key, "pilotage", "Pilotage", "", "", 100, 1000, "EUR", false, .published, 1, false,
        2, 20, 5, 0, 0, [Billing.realtimeMonitoring]⟩)
      (fun _ => rfl)
    subscriptions := Table.empty.create
      (fun key => ⟨key, 1, 0, .active, .monthly, 0, none, none, none, none, none, none, none, none, none⟩)
      (fun _ => rfl)
    events := [] }

theorem ident_acmeDomain (key : Nat) :
    ident (⟨key, 1, .emailDomain, "acme.fr", true⟩ : Asset) = key := rfl

/-- A client with one verified domain and room for two. -/
def acmePlatform : Platform :=
  { assets := Table.empty.create (fun key => ⟨key, 1, .emailDomain, "acme.fr", true⟩) ident_acmeDomain
    proven := [0], monitored := Table.empty, billing := acmeBilling, registry := ∅ }

def registerAcme : PoolEvent := .register .tenantView 1 0 30 ⟨true, .ok "acme.fr"⟩

def unregisterAcme : PoolEvent := .unregister .tenantView 1 0 ⟨true, .ok ()⟩

theorem constrained_acmePlatform : Constrained acmePlatform :=
  ⟨fun row member => absurd member (Table.not_mem_empty row),
    fun row member => absurd member (Table.not_mem_empty row),
    fun row member => absurd member (Table.not_mem_empty row)⟩

theorem inStep_acmePlatform : InStep acmePlatform := by
  refine fun domain => iff_of_false (Finset.notMem_empty domain) ?_
  rintro ⟨row, member, _⟩
  exact Table.not_mem_empty row member

theorem registry_agrees_iff_twice :
    EachStep (poolStep acmeUnicode acmeSettings) (Agrees acmeUnicode acmeSettings) acmePlatform
        [registerAcme, unregisterAcme, registerAcme] ↔
      EachStep (poolStep acmeUnicode acmeSettings) (KeepsStep acmeUnicode acmeSettings) acmePlatform
        [registerAcme, unregisterAcme, registerAcme] :=
  registry_agrees_iff acmeUnicode acmeSettings acmePlatform constrained_acmePlatform
    inStep_acmePlatform _

/-- The second registration reaches the provider and leaves no active row. -/
theorem second_registration_drifts :
    ¬ EachStep (poolStep acmeUnicode acmeSettings) (Agrees acmeUnicode acmeSettings) acmePlatform
        [registerAcme, unregisterAcme, registerAcme] := by
  have drifted :
      "acme.fr" ∈ (after (poolStep acmeUnicode acmeSettings) acmePlatform
          [registerAcme, unregisterAcme, registerAcme]).registry ∧
        ∀ row ∈ (after (poolStep acmeUnicode acmeSettings) acmePlatform
          [registerAcme, unregisterAcme, registerAcme]).monitored.rows, row.isActive = false := by
    decide +kernel
  rintro ⟨_, _, ⟨agreed, _⟩, _⟩
  obtain ⟨row, member, isActive, _⟩ := (agreed "acme.fr").mp drifted.1
  rw [drifted.2 row member] at isActive
  cases isActive

end Twice

end RssiService.ThreatIntelligence
