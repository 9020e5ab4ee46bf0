import RssiService.Monitoring.Ownership

/-!
# Assets to review

An asset is to be reviewed where nothing says that its client may have it
scanned: no proof of ownership, and no attestation.  The console lists them by
a query of its own.
-/

namespace RssiService.Monitoring

open Foundation Foundation.Run Python

structure AssetOwnershipAttestation where
  id : Nat
  tenant : Nat
  asset : Nat
  user : Option Nat
  statement : String
  ipAddress : Option String
  userAgent : String
  createdAt : Nat
  deriving DecidableEq, Repr

instance : Identified AssetOwnershipAttestation := ⟨AssetOwnershipAttestation.id⟩

def attestationStatement : String :=
  "Je déclare être habilité par l'organisation propriétaire de cet actif à en " ++
    "demander l'analyse, et j'accepte que cette déclaration soit conservée avec " ++
    "mon nom, la date et l'actif concerné."

/-- Who attests, from where and when. -/
structure Attesting where
  user : Option Nat
  ipAddress : String
  userAgent : String
  now : Nat

/-- An asset to declare, with the box that confirms its ownership. -/
structure AssetDeclaration where
  tenant : Nat
  type : AssetType
  value : String
  ownershipConfirmed : Bool
  attesting : Attesting

def AssetDeclaration.row (declaration : AssetDeclaration) (key : Nat) : Asset :=
  { id := key, tenant := declaration.tenant, type := declaration.type
    value := declaration.value, isActive := true }

inductive AssetRefusal where
  | invalid (message : String)
  | integrity
  deriving DecidableEq, Repr

/-- The assets, their proofs and their attestations. -/
structure OwnershipStore where
  assets : Table Asset
  proofs : Table AssetOwnershipProof
  attestations : Table AssetOwnershipAttestation

namespace OwnershipStore

/-- Assets that were declared before there were proofs. -/
def beforeProofs (assets : Table Asset) : OwnershipStore := ⟨assets, Table.empty, Table.empty⟩

def recordOwnershipAttestation (store : OwnershipStore) (asset : Asset) (attesting : Attesting) :
    OwnershipStore :=
  { store with
    attestations := store.attestations.create (fun key =>
      { id := key, tenant := asset.tenant, asset := asset.id, user := attesting.user
        statement := attestationStatement
        ipAddress := if attesting.ipAddress = "" then none else some attesting.ipAddress
        userAgent := takeChars attesting.userAgent 255
        createdAt := attesting.now }) fun _ => rfl }

/-- The asset and its attestation are written together; an asset is unique for its client. -/
def createAsset (store : OwnershipStore) (declaration : AssetDeclaration) :
    Except AssetRefusal OwnershipStore :=
  if !declaration.ownershipConfirmed then
    .error (.invalid
      "La case d'engagement de propriété doit être cochée pour déclarer un actif.")
  else if store.assets.rows.any fun row => row.tenant = declaration.tenant &&
      row.type = declaration.type && row.value = declaration.value then .error .integrity
  else
    .ok (recordOwnershipAttestation
      { store with
        assets := store.assets.create declaration.row fun _ => rfl }
      (declaration.row store.assets.next) declaration.attesting)

def hasOwnershipAttestation (store : OwnershipStore) (asset : Nat) : Bool :=
  store.attestations.rows.any fun row => row.asset = asset

def needsOwnershipReview (store : OwnershipStore) (asset : Nat) : Bool :=
  !isOwnershipProven store.proofs asset && !store.hasOwnershipAttestation asset

/-- The assets that no proof and no attestation refers to, by client and value. -/
def assetsNeedingOwnershipReview (before : Asset → Asset → Bool) (store : OwnershipStore) :
    List Asset :=
  (store.assets.rows.filter fun asset =>
    !(store.proofs.rows.any fun row => row.asset = asset.id) &&
      !(store.attestations.rows.any fun row => row.asset = asset.id)).mergeSort before

end OwnershipStore

/-! ## Runs -/

inductive ReviewEvent where
  | declare (declaration : AssetDeclaration)
  | start (asset : Nat) (opening : Opening)
  | verify (asset key : Nat) (code : String) (answers : Answers) (now : Nat)
  | attest (asset : Nat) (attesting : Attesting)

/-- What an operation on the proofs leaves: nothing new where it fails. -/
def OwnershipStore.written (store : OwnershipStore)
    (outcome : Except OwnershipFailure (Table AssetOwnershipProof × AssetOwnershipProof)) :
    OwnershipStore :=
  match outcome with
  | .ok (proofs, _) => { store with proofs }
  | .error _ => store

def OwnershipStore.step (unicode : Unicode) (store : OwnershipStore) : ReviewEvent → OwnershipStore
  | .declare declaration =>
      match store.createAsset declaration with
      | .ok after => after
      | .error _ => store
  | .start key opening =>
      match store.assets.find? key with
      | none => store
      | some asset => store.written (startOwnershipProof unicode store.proofs asset opening)
  | .verify key proof code answers now =>
      match store.assets.find? key with
      | none => store
      | some asset => store.written (verifyView unicode store.proofs asset proof code answers now)
  | .attest key attesting =>
      match store.assets.find? key with
      | none => store
      | some asset => store.recordOwnershipAttestation asset attesting

/-- The list of the console holds the assets to review, and no others. -/
def ListsToReview (before : Asset → Asset → Bool) (store : OwnershipStore) : Prop :=
  ∀ asset, asset ∈ store.assetsNeedingOwnershipReview before ↔
    asset ∈ store.assets ∧ store.needsOwnershipReview asset.id = true

/-- Proofs are opened of assets that have an attestation. -/
def OpensAttested (unicode : Unicode) (store : OwnershipStore) : ReviewEvent → Prop
  | .start key opening =>
      ∀ asset, store.assets.find? key = some asset →
        (startOwnershipProof unicode store.proofs asset opening).isOk = true →
          store.hasOwnershipAttestation asset.id = true
  | .declare _ | .verify _ _ _ _ _ | .attest _ _ => True

/-- Every proof is of an asset that has an attestation. -/
def ProofsAttested (store : OwnershipStore) : Prop :=
  ∀ proof ∈ store.proofs, store.hasOwnershipAttestation proof.asset = true

section Steps

variable {unicode : Unicode} {before : Asset → Asset → Bool} {store : OwnershipStore}

theorem hasOwnershipAttestation_iff {key : Nat} :
    store.hasOwnershipAttestation key = true ↔ ∃ row ∈ store.attestations, row.asset = key := by
  simp [OwnershipStore.hasOwnershipAttestation, Table.mem_def]

theorem mem_assetsNeedingOwnershipReview {asset : Asset} :
    asset ∈ store.assetsNeedingOwnershipReview before ↔
      asset ∈ store.assets ∧ (∀ proof ∈ store.proofs, proof.asset ≠ asset.id) ∧
        store.hasOwnershipAttestation asset.id = false := by
  rw [OwnershipStore.assetsNeedingOwnershipReview, List.mem_mergeSort, List.mem_filter]
  refine and_congr_right fun _ => ?_
  rw [Bool.and_eq_true, Bool.not_eq_true', Bool.not_eq_true']
  refine and_congr_left fun _ => ?_
  rw [List.any_eq_false]
  exact forall₂_congr fun _ _ => by simp

/-- The list agrees with the assets to review exactly when each asset without an attestation
that has a proof is proven. -/
theorem listsToReview_iff :
    ListsToReview before store ↔ ∀ asset ∈ store.assets,
      store.hasOwnershipAttestation asset.id = false →
        (∃ proof ∈ store.proofs, proof.asset = asset.id) →
          isOwnershipProven store.proofs asset.id = true := by
  constructor
  · intro lists asset declared unattested opened
    by_contra unproven
    have listed := (lists asset).mpr ⟨declared, by
      simp [OwnershipStore.needsOwnershipReview, unproven, unattested]⟩
    obtain ⟨proof, inside, same⟩ := opened
    exact (mem_assetsNeedingOwnershipReview.mp listed).2.1 proof inside same
  · intro proven asset
    rw [mem_assetsNeedingOwnershipReview, OwnershipStore.needsOwnershipReview, Bool.and_eq_true,
      Bool.not_eq_true', Bool.not_eq_true']
    refine and_congr_right fun declared => ?_
    constructor
    · rintro ⟨unopened, unattested⟩
      refine ⟨?_, unattested⟩
      rw [← Bool.not_eq_true, isOwnershipProven_iff]
      rintro ⟨proof, inside, same, _⟩
      exact unopened proof inside same
    · rintro ⟨unproven, unattested⟩
      refine ⟨fun proof inside same => ?_, unattested⟩
      rw [proven asset declared unattested ⟨proof, inside, same⟩] at unproven
      cases unproven

theorem ProofsAttested.lists (attested : ProofsAttested store) : ListsToReview before store := by
  refine listsToReview_iff.mpr ?_
  rintro asset _ unattested ⟨proof, inside, same⟩
  rw [← same, attested proof inside] at unattested
  cases unattested

theorem exists_saved_iff {proofs written : Table AssetOwnershipProof}
    {proof saved : AssetOwnershipProof} {asset : Nat}
    {change : AssetOwnershipProof → AssetOwnershipProof}
    {keeps : ∀ row, ident (change row) = ident row}
    (asset_eq : ∀ row, (change row).asset = row.asset)
    (saves : saveProof proofs proof change keeps = .ok (written, saved)) :
    (∃ row ∈ written, row.asset = asset) ↔ ∃ row ∈ proofs, row.asset = asset := by
  rcases saveProof_cases proofs proof change keeps with ⟨failed, _⟩ | ⟨succeeded, _⟩
  · cases saves.symm.trans failed
  · cases saves.symm.trans succeeded
    exact exists_modify_iff asset_eq

theorem opened_of_start {proofs written : Table AssetOwnershipProof} {asset : Asset}
    {opening : Opening} {proof : AssetOwnershipProof}
    (started : startOwnershipProof unicode proofs asset opening = .ok (written, proof)) :
    Opened proofs written asset.id := by
  rcases startOwnershipProof_cases unicode proofs asset opening with
    ⟨failure, failed, _⟩ | ⟨_, _, succeeded, opened⟩
  · cases started.symm.trans failed
  · cases started.symm.trans succeeded
    exact opened

theorem exists_verified_iff {proofs written : Table AssetOwnershipProof} {asset : Asset}
    {key now other : Nat} {code : String} {answers : Answers} {proof : AssetOwnershipProof}
    (checked : verifyView unicode proofs asset key code answers now = .ok (written, proof)) :
    (∃ row ∈ written, row.asset = other) ↔ ∃ row ∈ proofs, row.asset = other := by
  rcases verifyView_cases unicode proofs asset key code answers now with
    ⟨failure, failed, _⟩ | ⟨_, _, verdict, _, _, _, saves⟩
  · cases checked.symm.trans failed
  · refine exists_saved_iff (fun row => ?_) (saves.symm.trans checked)
    rw [AssetOwnershipProof.concluded]
    split <;> rfl

/-- An operation that writes keeps every proof attested where its assets are. -/
theorem ProofsAttested.write {written : Table AssetOwnershipProof} {after : OwnershipStore}
    (attested : ProofsAttested store) (proofs : after.proofs = written)
    (kept : ∀ key, store.hasOwnershipAttestation key = true →
      after.hasOwnershipAttestation key = true)
    (others : ∀ key, (∃ proof ∈ written, proof.asset = key) →
      after.hasOwnershipAttestation key = true ∨ ∃ proof ∈ store.proofs, proof.asset = key) :
    ProofsAttested after := by
  intro proof inside
  rw [proofs] at inside
  rcases others proof.asset ⟨proof, inside, rfl⟩ with standing | ⟨old, member, same⟩
  · exact standing
  · exact kept _ (same ▸ attested old member)

/-- A declaration that succeeds writes the asset and its attestation, and no proof. -/
theorem createAsset_eq_ok {declaration : AssetDeclaration} {after : OwnershipStore}
    (created : store.createAsset declaration = .ok after) :
    ∃ assets, after = OwnershipStore.recordOwnershipAttestation { store with assets }
      (declaration.row store.assets.next) declaration.attesting := by
  rw [OwnershipStore.createAsset] at created
  split at created
  · cases created
  · split at created
    · cases created
    · exact ⟨_, (Except.ok.inj created).symm⟩

theorem hasOwnershipAttestation_record {asset : Asset} {attesting : Attesting} {key : Nat}
    (standing : store.hasOwnershipAttestation key = true) :
    (store.recordOwnershipAttestation asset attesting).hasOwnershipAttestation key = true := by
  obtain ⟨row, inside, same⟩ := hasOwnershipAttestation_iff.mp standing
  exact hasOwnershipAttestation_iff.mpr ⟨row, Table.mem_create.mpr (Or.inl inside), same⟩

/-- Only an opening can leave a proof without an attestation. -/
theorem proofsAttested_step {event : ReviewEvent} (attested : ProofsAttested store)
    (opens : OpensAttested unicode store event) : ProofsAttested (store.step unicode event) := by
  cases event with
  | declare declaration =>
      rw [OwnershipStore.step]
      split
      · rename_i after created
        obtain ⟨assets, rfl⟩ := createAsset_eq_ok created
        exact attested.write rfl (fun _ => hasOwnershipAttestation_record)
          fun _ found => Or.inr found
      · exact attested
  | start key opening =>
      rw [OwnershipStore.step]
      split
      · exact attested
      · rename_i asset found
        unfold OwnershipStore.written
        split
        · rename_i written proof started
          refine attested.write rfl (fun _ => id) fun other new => ?_
          rcases (opened_of_start started).others other new with rfl | old
          · exact Or.inl (opens asset found (started ▸ rfl))
          · exact Or.inr old
        · exact attested
  | verify key proof code answers now =>
      rw [OwnershipStore.step]
      split
      · exact attested
      · unfold OwnershipStore.written
        split
        · rename_i written saved checked
          exact attested.write rfl (fun _ => id) fun _ new =>
            Or.inr ((exists_verified_iff checked).mp new)
        · exact attested
  | attest key attesting =>
      rw [OwnershipStore.step]
      split
      · exact attested
      · exact attested.write rfl (fun _ => hasOwnershipAttestation_record)
          fun _ found => Or.inr found

/-- The opening of a proof of an asset without an attestation takes it off the list. -/
theorem opensAttested_of_lists {event : ReviewEvent}
    (lists : ListsToReview before (store.step unicode event)) :
    OpensAttested unicode store event := by
  cases event with
  | declare | verify | attest => trivial
  | start key opening =>
      intro asset found succeeds
      by_contra unattested
      rw [Bool.not_eq_true] at unattested
      rw [OwnershipStore.step, found] at lists
      cases started : startOwnershipProof unicode store.proofs asset opening with
      | error failure =>
          rw [started] at succeeds
          cases succeeds
      | ok result =>
          obtain ⟨written, proof⟩ := result
          have opened := opened_of_start started
          simp only [started, OwnershipStore.written] at lists
          have proven := listsToReview_iff.mp lists asset (Table.mem_of_find? found) unattested
            opened.opened
          obtain ⟨row, inside, same, verified⟩ := isOwnershipProven_iff.mp proven
          have before := isOwnershipProven_iff.mpr
            ⟨row, (opened.verified row verified).mp inside, same, verified⟩
          rw [opened.unproven] at before
          cases before

end Steps

/-- From assets declared before there were proofs, the console lists the assets to review in every
state of a run exactly when the run opens proofs of assets that have an attestation alone. -/
theorem lists_to_review_iff (unicode : Unicode) (before : Asset → Asset → Bool)
    (assets : Table Asset) (events : List ReviewEvent) :
    Always (OwnershipStore.step unicode) (ListsToReview before) (.beforeProofs assets) events ↔
      EachStep (OwnershipStore.step unicode) (OpensAttested unicode) (.beforeProofs assets)
        events := by
  have attested : ProofsAttested (.beforeProofs assets) := fun proof inside =>
    absurd inside (Table.not_mem_empty proof)
  rw [always_iff_start_and_eachStep (fun _ _ _ => Iff.rfl), and_iff_right attested.lists]
  refine eachStep_iff_eachStep (I := fun _ => True) (P := ProofsAttested) (fun _ _ _ => trivial) ?_
    ?_ trivial attested events
  · intro store event _ standing
    exact ⟨opensAttested_of_lists, fun opens => (proofsAttested_step standing opens).lists⟩
  · intro store event _ standing lists
    exact proofsAttested_step standing (opensAttested_of_lists lists)

/-! An asset of before, for which a DNS proof is opened and never published. -/

def olderAssets : Table Asset :=
  Table.empty.create (fun key =>
    { id := key, tenant := 1, type := .emailDomain, value := "acme.fr", isActive := true })
    fun _ => rfl

def dnsOpening : Opening :=
  { method := "dns_txt", user := some 7, emailRecipient := "", token := "jeton"
    mailSent := true, now := 0 }

/-- It is off the list, and to be reviewed still. -/
theorem pending_proof_is_not_listed :
    ¬ Always (OwnershipStore.step ⟨id, id, fun _ => true⟩) (ListsToReview fun _ _ => true)
        (.beforeProofs olderAssets) [.start 0 dnsOpening] := by
  rintro ⟨_, lists⟩
  have attested := opensAttested_of_lists lists _ rfl (by decide +kernel)
  exact absurd attested (by decide +kernel)

end RssiService.Monitoring
