import RssiService.Foundation.Keyring
import RssiService.ThreatIntelligence.Ingestion
import RssiService.ThreatIntelligence.SecretReveal

/-!
# The life of a stored secret

A secret is sealed when its leak is ingested, sealed again when the keys are
rotated, and erased when it expires or its tenant asks for it.  The flag of a
finding says throughout whether its secret can still be read.
-/

namespace RssiService.ThreatIntelligence

open Foundation Foundation.Keyring Foundation.Run Python
open Billing (microsecondsPerDay)
open Monitoring (Asset)

/-! ## State -/

/-- The encryption of secrets: no text is sealed as the empty token. -/
structure SecretCipher (Key Nonce : Type) extends Cipher Key Nonce ByteArray String where
  encrypt_ne_empty : ∀ key nonce plain, encrypt key nonce plain ≠ ""

/-- The trace of one purge. -/
structure SecretPurgeRun where
  id : Nat
  startedAt : Nat
  retentionDays : Nat
  secretsPurged : Nat
  revealAuditsDeleted : Nat
  deriving DecidableEq, Repr

instance : Identified SecretPurgeRun := ⟨SecretPurgeRun.id⟩

structure RetentionSettings where
  breachSecretRetentionDays : Nat
  breachRevealAuditRetentionDays : Nat

/-- The configured keys, newest first, and whether the rotation command has
reached every secret since the newest was put in front. -/
structure SecretSite (Key : Type) where
  store : Store
  revealAudits : Table SecretRevealAudit
  purgeRuns : Table SecretPurgeRun
  keys : List Key
  rotationComplete : Bool

section Operations

variable {Key Nonce : Type} (cipher : SecretCipher Key Nonce)

/-! ## Encryption -/

inductive SecretError where
  | unavailable
  | unreadable
  deriving DecidableEq, Repr

/-- The decryption with the configured keys; `none` without a key. -/
def SecretSite.fernet (site : SecretSite Key) : Option Fernet :=
  match site.keys with
  | [] => none
  | keys => some (cipher.openAny keys)

/-- The token a secret is stored as; the empty secret is not encrypted. -/
def encryptSecret (keys : List Key) (nonce : Nonce) (secretPlain : String) :
    Except SecretError (Option String) :=
  if secretPlain = "" then .ok none
  else
    match cipher.sealFirst keys nonce secretPlain.toUTF8 with
    | none => .error .unavailable
    | some token => .ok (some token)

/-- Seal again under the newest key. -/
def rotateSecretCiphertext (keys : List Key) (nonce : Nonce) (encrypted : String) :
    Except SecretError String :=
  match keys with
  | [] => .error .unavailable
  | keys =>
      match cipher.rotate keys nonce encrypted with
      | none => .error .unreadable
      | some token => .ok token

/-! ## Ingestion -/

/-- A record as it is returned, with the randomness of its encryption and the
exception its handling meets, if any. -/
structure LeakRecord (Nonce : Type) where
  raw : RawFinding
  nonce : Nonce
  fault : Option Fault
  printed : (Json.obj raw.payload).Printed

/-- The record with the token its secret is encrypted as.  Without a key, the
encryption raises. -/
def LeakRecord.deliver (runtime : Runtime) (keys : List Key) (record : LeakRecord Nonce) :
    Delivery :=
  match encryptSecret cipher keys record.nonce
      (normalizeFinding runtime record.raw.endpoint record.raw.payload).secretPlain with
  | .error _ => { raw := record.raw, token := "", fault := some .encryption }
  | .ok encrypted => { raw := record.raw, token := encrypted.getD "", fault := record.fault }

/-! ## Purges -/

/-- Update the selected findings. -/
def Store.updateFindings (store : Store) (selected : BreachFinding → Bool)
    (change : BreachFinding → BreachFinding) (keeps : ∀ row, ident (change row) = ident row) :
    Store :=
  { store with findings := store.findings.updateWhere selected change keeps }

/-- Erase the secret, and keep the finding. -/
def BreachFinding.purgeSecret (now : Nat) (finding : BreachFinding) : BreachFinding :=
  { finding with secretEncrypted := none, hasSecret := false, secretPurgedAt := some now }

/-- Erase the secrets of the selected findings that still have one. -/
def Store.purgeSecrets (store : Store) (selected : BreachFinding → Bool) (now : Nat) : Store :=
  store.updateFindings (fun row => row.hasSecret && selected row) (BreachFinding.purgeSecret now)
    (fun _ => rfl)

def BreachFinding.isExpired (settings : RetentionSettings) (now : Nat) (finding : BreachFinding) :
    Bool :=
  finding.detectedAt + settings.breachSecretRetentionDays * microsecondsPerDay < now

/-- Erase the expired secrets of all the tenants, with the old reveal attempts. -/
def purgeExpiredSecrets (settings : RetentionSettings) (now : Nat) (site : SecretSite Key) :
    SecretSite Key :=
  let oldAudit := fun row : SecretRevealAudit =>
    decide (row.createdAt + settings.breachRevealAuditRetentionDays * microsecondsPerDay < now)
  { site with
    store := site.store.purgeSecrets (BreachFinding.isExpired settings now) now
    revealAudits := site.revealAudits.deleteWhere oldAudit
    purgeRuns := site.purgeRuns.create
      (fun key =>
        { id := key
          startedAt := now
          retentionDays := settings.breachSecretRetentionDays
          secretsPurged := site.store.findings.rows.countP fun row =>
            row.hasSecret && row.isExpired settings now
          revealAuditsDeleted := site.revealAudits.rows.countP oldAudit })
      (fun _ => rfl) }

/-- Erase at once the secrets of one tenant. -/
def purgeTenantSecrets (tenant now : Nat) (site : SecretSite Key) : SecretSite Key :=
  { site with store := site.store.purgeSecrets (fun row => row.tenant = tenant) now }

/-! ## Key rotation -/

/-- The findings the rotation command handles. -/
def BreachFinding.isRotatable (finding : BreachFinding) : Bool :=
  finding.hasSecret && finding.encrypted ≠ ""

/-- One turn of the command; an unreadable token stays as it is. -/
def BreachFinding.rotateSecret (keys : List Key) (nonce : Nonce) (finding : BreachFinding) :
    BreachFinding :=
  match rotateSecretCiphertext cipher keys nonce finding.encrypted with
  | .error _ => finding
  | .ok token => { finding with secretEncrypted := some token }

theorem id_rotateSecret (keys : List Key) (nonces : Nat → Nonce) (finding : BreachFinding) :
    ident (finding.rotateSecret cipher keys (nonces finding.id)) = ident finding := by
  rw [BreachFinding.rotateSecret]
  split <;> rfl

/-- The rotation command.  An interrupted run has reached some of the findings
only; without a key, or for a trial, it writes nothing. -/
def rotateBreachSecretKey (dryRun : Bool) (reached : Nat → Bool) (nonces : Nat → Nonce)
    (site : SecretSite Key) : SecretSite Key :=
  if site.keys.isEmpty || dryRun then site
  else
    { site with
      store := site.store.updateFindings (fun row => row.isRotatable && reached row.id)
        (fun row => row.rotateSecret cipher site.keys (nonces row.id))
        (id_rotateSecret cipher site.keys nonces)
      rotationComplete := site.rotationComplete ||
        site.store.findings.rows.all fun row => !row.isRotatable || reached row.id }

/-- The new key seals from now on, and the others still open. -/
def installKey (key : Key) (site : SecretSite Key) : SecretSite Key :=
  { site with keys := key :: site.keys, rotationComplete := false }

/-- The last step of the procedure: the older keys go once the command has
reached every secret. -/
def retireOldKeys (site : SecretSite Key) : SecretSite Key :=
  if site.rotationComplete then { site with keys := site.keys.take 1 } else site

/-! ## Runs -/

inductive SecretEvent (Key Nonce : Type) where
  | ingest (tenant : Nat) (asset : Asset) (now : Nat) (report : IngestionReport)
      (records : List (LeakRecord Nonce))
  | purgeExpired (now : Nat)
  | purgeTenant (tenant now : Nat)
  | install (key : Key)
  | rotate (dryRun : Bool) (reached : Nat → Bool) (nonces : Nat → Nonce)
  | retire

def SecretSite.step (runtime : Runtime) (settings : RetentionSettings) (site : SecretSite Key) :
    SecretEvent Key Nonce → SecretSite Key
  | .ingest tenant asset now report records =>
      { site with
        store := (ingestRawFindings runtime tenant asset now report
          (records.map (LeakRecord.deliver cipher runtime site.keys)) site.store).store }
  | .purgeExpired now => purgeExpiredSecrets settings now site
  | .purgeTenant tenant now => purgeTenantSecrets tenant now site
  | .install key => installKey key site
  | .rotate dryRun reached nonces => rotateBreachSecretKey cipher dryRun reached nonces site
  | .retire => retireOldKeys site

end Operations

/-! ## What the flag says -/

section Claims

variable {Key Nonce : Type} (cipher : SecretCipher Key Nonce)

/-- The finding is flagged as having a secret and not purged exactly when its
encrypted secret is not empty and can be read. -/
def FlagIsTrue (site : SecretSite Key) (finding : BreachFinding) : Prop :=
  (finding.hasSecret = true ∧ finding.secretPurgedAt = none) ↔
    (finding.encrypted ≠ "" ∧ ∃ text, decryptText (site.fernet cipher) finding.encrypted = .ok text)

/-- Every flag is true, a purged finding holds no secret, and a leak is stored
once for each tenant. -/
structure SecretSite.Coherent (site : SecretSite Key) : Prop where
  flags : ∀ finding ∈ site.store.findings, FlagIsTrue cipher site finding
  erased : ∀ finding ∈ site.store.findings, finding.secretPurgedAt.isSome = true →
    finding.hasSecret = false ∧ finding.encrypted = ""
  unique : UniqueDedup site.store

/-- A purged finding is still there, with the same date of purge. -/
def PurgeDatesKept (before later : SecretSite Key) : Prop :=
  ∀ finding ∈ before.store.findings, finding.secretPurgedAt.isSome = true →
    ∃ kept ∈ later.store.findings, kept.id = finding.id ∧
      kept.secretPurgedAt = finding.secretPurgedAt

/-- A finding holds a secret sealed under a configured key, or none at all. -/
inductive SecretHeld (keys : List Key) (finding : BreachFinding) : Prop where
  | sealed (text token : String) (flag : finding.hasSecret = true)
      (unpurged : finding.secretPurgedAt = none) (stored : finding.secretEncrypted = some token)
      (held : cipher.Sealed keys text.toUTF8 token)
  | absent (flag : finding.hasSecret = false) (stored : finding.secretEncrypted = none)

/-- The invariant of the operations.  After a complete rotation, the newest key
alone opens every secret. -/
structure SecretSite.Sound (site : SecretSite Key) : Prop where
  unique : UniqueDedup site.store
  held : ∀ finding ∈ site.store.findings, SecretHeld cipher site.keys finding
  rotated : site.rotationComplete = true →
    ∀ finding ∈ site.store.findings, SecretHeld cipher (site.keys.take 1) finding

end Claims

/-! ## One finding -/

section Findings

variable {Key Nonce : Type} {cipher : SecretCipher Key Nonce} {keys wider : List Key}
  {site : SecretSite Key} {finding later : BreachFinding}

theorem SecretHeld.mono (held : SecretHeld cipher keys finding) (subset : keys ⊆ wider) :
    SecretHeld cipher wider finding := by
  cases held with
  | sealed text token flag unpurged stored held =>
      exact .sealed text token flag unpurged stored (held.mono subset)
  | absent flag stored => exact .absent flag stored

/-- A write that leaves the secret alone. -/
theorem SecretHeld.same (held : SecretHeld cipher keys finding)
    (flag : later.hasSecret = finding.hasSecret)
    (stored : later.secretEncrypted = finding.secretEncrypted)
    (purged : later.secretPurgedAt = finding.secretPurgedAt) : SecretHeld cipher keys later := by
  cases held with
  | sealed text token flagged unpurged known held =>
      exact .sealed text token (flag.trans flagged) (purged.trans unpurged) (stored.trans known) held
  | absent unflagged known => exact .absent (flag.trans unflagged) (stored.trans known)

theorem decryptText_of_sealed {text token : String}
    (held : cipher.Sealed site.keys text.toUTF8 token) :
    decryptText (site.fernet cipher) token = .ok text := by
  have fernet : site.fernet cipher = some (cipher.openAny site.keys) := by
    rw [SecretSite.fernet]
    split
    · rename_i keyless
      obtain ⟨key, member, _⟩ := held
      rw [keyless] at member
      cases member
    · rfl
  have decoded : String.fromUTF8? text.toUTF8 = some text := dif_pos text.isValidUTF8
  simp only [decryptText, fernet, Option.bind_some, held.openAny_eq, decoded]

theorem token_ne_empty {text token : String} (held : cipher.Sealed keys text.toUTF8 token) :
    token ≠ "" := by
  obtain ⟨key, _, nonce, rfl⟩ := held
  exact cipher.encrypt_ne_empty key nonce _

theorem SecretHeld.flagIsTrue (held : SecretHeld cipher site.keys finding) :
    FlagIsTrue cipher site finding := by
  cases held with
  | sealed text token flag unpurged stored held =>
      have encrypted : finding.encrypted = token := by rw [BreachFinding.encrypted, stored]; rfl
      rw [FlagIsTrue, encrypted]
      exact iff_of_true ⟨flag, unpurged⟩ ⟨token_ne_empty held, text, decryptText_of_sealed held⟩
  | absent flag stored =>
      have encrypted : finding.encrypted = "" := by rw [BreachFinding.encrypted, stored]; rfl
      rw [FlagIsTrue, encrypted, flag]
      exact iff_of_false (by rintro ⟨⟨⟩, _⟩) (fun read => read.1 rfl)

theorem SecretHeld.erased (held : SecretHeld cipher keys finding)
    (purged : finding.secretPurgedAt.isSome = true) :
    finding.hasSecret = false ∧ finding.encrypted = "" := by
  cases held with
  | sealed text token flag unpurged stored held =>
      rw [unpurged] at purged
      cases purged
  | absent flag stored => exact ⟨flag, by rw [BreachFinding.encrypted, stored]; rfl⟩

theorem SecretSite.Sound.coherent (sound : site.Sound cipher) : site.Coherent cipher where
  flags := fun finding member => (sound.held finding member).flagIsTrue
  erased := fun finding member => (sound.held finding member).erased
  unique := sound.unique

/-- A sealed token can be rotated, and is then under the newest key. -/
theorem exists_rotateSecretCiphertext {text token : String}
    (held : cipher.Sealed keys text.toUTF8 token) (nonce : Nonce) :
    ∃ rotated, rotateSecretCiphertext cipher keys nonce token = .ok rotated ∧
      cipher.Sealed (keys.take 1) text.toUTF8 rotated := by
  obtain ⟨rotated, rotation⟩ := held.exists_rotate nonce
  refine ⟨rotated, ?_, held.rotate rotation⟩
  cases keys with
  | nil =>
      obtain ⟨key, member, _⟩ := held
      cases member
  | cons first rest => simp only [rotateSecretCiphertext, rotation]

/-- The rotation of a flagged finding puts its secret under the newest key. -/
theorem SecretHeld.rotateSecret (held : SecretHeld cipher keys finding) (nonce : Nonce)
    (flagged : finding.hasSecret = true) :
    SecretHeld cipher (keys.take 1) (finding.rotateSecret cipher keys nonce) := by
  cases held with
  | absent flag stored =>
      rw [flag] at flagged
      cases flagged
  | sealed text token flag unpurged stored held =>
      have encrypted : finding.encrypted = token := by rw [BreachFinding.encrypted, stored]; rfl
      obtain ⟨rotated, renewed, heldByFirst⟩ := exists_rotateSecretCiphertext held nonce
      rw [BreachFinding.rotateSecret, encrypted, renewed]
      exact .sealed text rotated flag unpurged rfl heldByFirst

end Findings

/-! ## Ingestion -/

section Ingestion

variable {Key Nonce : Type} {cipher : SecretCipher Key Nonce} {keys : List Key}
  {runtime : Runtime} {tenant now : Nat} {asset : Asset} {progress : Progress}
  {delivery : Delivery} {fault : Option Fault} {finding : BreachFinding}

/-- Every finding of the loop holds its secret under the newest key or, if it
was there before, under one of the keys. -/
def Progress.Held (cipher : SecretCipher Key Nonce) (keys : List Key) (progress : Progress) : Prop :=
  ∀ finding ∈ progress.store.findings, SecretHeld cipher keys finding

/-- The token of a delivery is its secret, sealed under the newest key, unless
the encryption raises. -/
def Delivery.Sealed (cipher : SecretCipher Key Nonce) (keys : List Key) (runtime : Runtime)
    (delivery : Delivery) : Prop :=
  let normalized := normalizeFinding runtime delivery.raw.endpoint delivery.raw.payload
  (normalized.hasSecret = true ↔ normalized.secretPlain ≠ "") ∧
    (normalized.secretPlain ≠ "" → delivery.fault ≠ some .encryption →
      cipher.Sealed (keys.take 1) normalized.secretPlain.toUTF8 delivery.token)

theorem sealed_deliver (record : LeakRecord Nonce) :
    (record.deliver cipher runtime keys).Sealed cipher keys runtime := by
  have same : (record.deliver cipher runtime keys).raw = record.raw := by
    rw [LeakRecord.deliver]
    split <;> rfl
  rw [Delivery.Sealed, same]
  refine ⟨secretSeen_iff runtime.unicode record.printed, fun secret unfailing => ?_⟩
  rw [LeakRecord.deliver] at unfailing ⊢
  split
  · rename_i failed
    simp only [failed] at unfailing
    exact absurd rfl unfailing
  · rename_i encrypted ok
    rw [encryptSecret, if_neg secret] at ok
    split at ok
    · cases ok
    · rename_i token sealing
      cases ok
      exact Cipher.sealed_of_sealFirst sealing

theorem held_modify {store : Store} {key : Nat} {change : BreachFinding → BreachFinding}
    {keeps : ∀ row, ident (change row) = ident row}
    (all : ∀ row ∈ store.findings, SecretHeld cipher keys row)
    (same : ∀ row, (change row).hasSecret = row.hasSecret ∧
      (change row).secretEncrypted = row.secretEncrypted ∧
      (change row).secretPurgedAt = row.secretPurgedAt) :
    ∀ row ∈ (store.modifyFinding key change keeps).findings, SecretHeld cipher keys row := by
  intro row member
  obtain ⟨source, inside, rfl⟩ := mem_modifyFinding.mp member
  split
  · obtain ⟨flag, stored, purged⟩ := same source
    exact (all source inside).same flag stored purged
  · exact all source inside

theorem Progress.Held.observeExisting (held : progress.Held cipher keys) :
    (observeExisting now progress fault finding).Held cipher keys := by
  rw [ThreatIntelligence.observeExisting]
  split
  · exact held
  · exact held_modify held fun _ => ⟨rfl, rfl, rfl⟩

theorem Progress.Held.raiseAlert (held : progress.Held cipher keys) :
    (raiseAlert asset now progress fault finding).Held cipher keys := by
  rw [ThreatIntelligence.raiseAlert]
  split
  · exact held
  · dsimp only
    split
    · exact held
    · refine held_modify ?_ fun _ => ⟨rfl, rfl, rfl⟩
      exact held

theorem held_newFinding {wider : List Key} (subset : keys.take 1 ⊆ wider)
    (sealing : delivery.Sealed cipher keys runtime) (looks : LooksUp runtime progress delivery)
    (key : Nat) :
    let normalized := normalizeFinding runtime delivery.raw.endpoint delivery.raw.payload
    SecretHeld cipher wider (newFinding tenant asset now normalized
      (if normalized.secretPlain = "" then none else some delivery.token) key) := by
  intro normalized
  obtain ⟨flag, token⟩ := sealing
  by_cases secret : normalized.secretPlain = ""
  · rw [if_pos secret]
    refine .absent (Bool.eq_false_iff.mpr fun flagged => ?_) rfl
    exact flag.mp flagged secret
  · rw [if_neg secret]
    have encrypted := looks.encrypted.resolve_left secret
    exact .sealed normalized.secretPlain delivery.token (flag.mpr secret) rfl rfl
      ((token secret encrypted).mono subset)

/-- One turn of the loop keeps every secret readable. -/
theorem Progress.Held.ingestRecord {wider : List Key} (held : progress.Held cipher wider)
    (subset : keys.take 1 ⊆ wider) (sealing : delivery.Sealed cipher keys runtime) :
    (ingestRecord runtime tenant asset now progress delivery).Held cipher wider := by
  have course := ingestRecord_course runtime tenant now asset progress delivery
  generalize same : ThreatIntelligence.ingestRecord runtime tenant asset now progress delivery =
    later at course ⊢
  cases course with
  | passed idle => exact held
  | unencrypted running real secret stopped => exact held
  | unlooked running real stopped => exact held
  | known looks found =>
      rename_i store existing
      have looked : Progress.Held cipher wider { progress with store } := by
        rcases findExistingFinding_cases found with ⟨rfl, _⟩ | ⟨legacy, _, _, _, rfl, _⟩
        · exact held
        · exact held_modify held fun _ => ⟨rfl, rfl, rfl⟩
      exact looked.observeExisting
  | uninserted looks unknown stopped => exact held
  | inserted secretEncrypted looks unknown inserts =>
      have inserted : Progress.Held cipher wider
          (progress.insert tenant asset now
            (normalizeFinding runtime delivery.raw.endpoint delivery.raw.payload)
            (if (normalizeFinding runtime delivery.raw.endpoint delivery.raw.payload).secretPlain = ""
              then none else some delivery.token)) := by
        intro row member
        rcases mem_insertFinding.mp member with old | rfl
        · exact held row old
        · exact held_newFinding subset sealing looks _
      rw [← same, ThreatIntelligence.ingestRecord, if_neg (by simp [looks.running, looks.real])]
      dsimp only
      rw [if_neg (fun stopped => (looks.encrypted.resolve_left stopped.1) stopped.2),
        if_neg looks.looked, unknown]
      dsimp only
      rw [insertNew_of_unknown unknown, if_neg inserts]
      exact inserted.raiseAlert

/-- A batch keeps every secret readable. -/
theorem held_ingestRawFindings {wider : List Key} {store : Store} {report : IngestionReport}
    {deliveries : List Delivery}
    (all : ∀ finding ∈ store.findings, SecretHeld cipher wider finding)
    (subset : keys.take 1 ⊆ wider)
    (sealing : ∀ delivery ∈ deliveries, delivery.Sealed cipher keys runtime) :
    ∀ finding ∈ (ingestRawFindings runtime tenant asset now report deliveries
      store).store.findings, SecretHeld cipher wider finding := by
  have loop : ∀ progress : Progress, progress.Held cipher wider →
      (after (ingestRecord runtime tenant asset now) progress deliveries).Held cipher wider := by
    induction deliveries with
    | nil => exact fun progress held => held
    | cons delivery rest ih =>
        intro progress held
        rw [after_cons]
        exact ih (fun other member => sealing other (List.mem_cons_of_mem _ member)) _
          (held.ingestRecord subset (sealing delivery List.mem_cons_self))
  have ended := loop (Progress.start store report) all
  rw [ingestRawFindings]
  split <;> exact ended

end Ingestion

/-! ## The other operations -/

section Steps

variable {Key Nonce : Type} {cipher : SecretCipher Key Nonce} {runtime : Runtime}
  {settings : RetentionSettings} {site : SecretSite Key} {store : Store} {keys : List Key}

theorem mem_updateFindings {finding : BreachFinding} {selected : BreachFinding → Bool}
    {change : BreachFinding → BreachFinding} {keeps : ∀ row, ident (change row) = ident row} :
    finding ∈ (store.updateFindings selected change keeps).findings ↔
      ∃ row ∈ store.findings, (if selected row then change row else row) = finding := by
  rw [Store.updateFindings, Table.mem_updateWhere]

theorem held_purgeSecrets {selected : BreachFinding → Bool} {now : Nat}
    (all : ∀ finding ∈ store.findings, SecretHeld cipher keys finding) :
    ∀ finding ∈ (store.purgeSecrets selected now).findings, SecretHeld cipher keys finding := by
  intro finding member
  obtain ⟨source, inside, rfl⟩ := mem_updateFindings.mp member
  split
  · exact .absent rfl rfl
  · exact all source inside

theorem unique_updateFindings {selected : BreachFinding → Bool}
    {change : BreachFinding → BreachFinding} {keeps : ∀ row, ident (change row) = ident row}
    (unique : UniqueDedup store)
    (same : ∀ row, (change row).tenant = row.tenant ∧ (change row).dedupHash = row.dedupHash) :
    UniqueDedup (store.updateFindings selected change keeps) := by
  have keyOf : ∀ row : BreachFinding,
      (if selected row then change row else row).tenant = row.tenant ∧
        (if selected row then change row else row).dedupHash = row.dedupHash := by
    intro row
    split
    · exact same row
    · exact ⟨rfl, rfl⟩
  intro first inFirst second inSecond sameTenant sameHash
  obtain ⟨row, inside, rfl⟩ := mem_updateFindings.mp inFirst
  obtain ⟨other, inside', rfl⟩ := mem_updateFindings.mp inSecond
  rw [(keyOf row).1, (keyOf other).1] at sameTenant
  rw [(keyOf row).2, (keyOf other).2] at sameHash
  rw [unique row inside other inside' sameTenant sameHash]

theorem SecretSite.Sound.purged (sound : site.Sound cipher) {selected : BreachFinding → Bool}
    {now : Nat} {revealAudits : Table SecretRevealAudit} {purgeRuns : Table SecretPurgeRun} :
    SecretSite.Sound cipher { site with
      store := site.store.purgeSecrets selected now, revealAudits, purgeRuns } where
  unique := unique_updateFindings sound.unique fun _ => ⟨rfl, rfl⟩
  held := held_purgeSecrets sound.held
  rotated := fun complete => held_purgeSecrets (sound.rotated complete)

theorem SecretSite.Sound.ingested (sound : site.Sound cipher) {tenant now : Nat} {asset : Asset}
    {report : IngestionReport} (records : List (LeakRecord Nonce)) :
    (site.step cipher runtime settings (.ingest tenant asset now report records)).Sound cipher := by
  have sealing : ∀ delivery ∈ records.map (LeakRecord.deliver cipher runtime site.keys),
      delivery.Sealed cipher site.keys runtime := by
    intro delivery member
    obtain ⟨record, _, rfl⟩ := List.mem_map.mp member
    exact sealed_deliver record
  exact
    { unique := (sound_ingestRawFindings sound.unique).unique
      held := held_ingestRawFindings sound.held (List.take_subset 1 _) sealing
      rotated := fun complete =>
        held_ingestRawFindings (sound.rotated complete) (List.Subset.refl _) sealing }

/-- A row that the command does not handle holds no secret. -/
theorem SecretHeld.of_not_rotatable {finding : BreachFinding} {wider : List Key}
    (held : SecretHeld cipher keys finding) (idle : finding.isRotatable = false) :
    SecretHeld cipher wider finding := by
  cases held with
  | absent flag stored => exact .absent flag stored
  | sealed text token flag unpurged stored held =>
      have encrypted : finding.encrypted = token := by rw [BreachFinding.encrypted, stored]; rfl
      have nonempty := token_ne_empty held
      simp [BreachFinding.isRotatable, flag, encrypted, nonempty] at idle

theorem dedup_rotateSecret (nonce : Nonce) (finding : BreachFinding) :
    (finding.rotateSecret cipher keys nonce).tenant = finding.tenant ∧
      (finding.rotateSecret cipher keys nonce).dedupHash = finding.dedupHash := by
  rw [BreachFinding.rotateSecret]
  split <;> exact ⟨rfl, rfl⟩

theorem SecretSite.Sound.rotateSecrets (sound : site.Sound cipher) (dryRun : Bool)
    (reached : Nat → Bool) (nonces : Nat → Nonce) :
    (rotateBreachSecretKey cipher dryRun reached nonces site).Sound cipher := by
  rw [rotateBreachSecretKey]
  split
  · exact sound
  refine ⟨unique_updateFindings sound.unique fun row => dedup_rotateSecret _ row, ?_, ?_⟩
  · intro finding member
    obtain ⟨source, inside, rfl⟩ := mem_updateFindings.mp member
    split
    · rename_i handled
      have flagged : source.hasSecret = true := by
        simp [BreachFinding.isRotatable] at handled
        exact handled.1.1
      exact ((sound.held source inside).rotateSecret _ flagged).mono (List.take_subset 1 _)
    · exact sound.held source inside
  · intro complete finding member
    obtain ⟨source, inside, rfl⟩ := mem_updateFindings.mp member
    split
    · rename_i handled
      have flagged : source.hasSecret = true := by
        simp [BreachFinding.isRotatable] at handled
        exact handled.1.1
      exact (sound.held source inside).rotateSecret _ flagged
    · rename_i unhandled
      rcases Bool.or_eq_true_iff.mp complete with before | all
      · exact sound.rotated before source inside
      · have here := List.all_eq_true.mp all source inside
        refine (sound.held source inside).of_not_rotatable ?_
        by_contra rotatable
        rw [Bool.not_eq_false] at rotatable
        rw [rotatable] at here unhandled
        exact unhandled here

theorem SecretSite.Sound.step (sound : site.Sound cipher) (event : SecretEvent Key Nonce) :
    (site.step cipher runtime settings event).Sound cipher := by
  cases event with
  | ingest tenant asset now report records => exact sound.ingested records
  | purgeExpired now => exact sound.purged
  | purgeTenant tenant now => exact sound.purged
  | install key =>
      exact
        { unique := sound.unique
          held := fun finding member =>
            (sound.held finding member).mono (List.subset_cons_self key site.keys)
          rotated := by rintro ⟨⟩ }
  | rotate dryRun reached nonces => exact sound.rotateSecrets dryRun reached nonces
  | retire =>
      rw [SecretSite.step, retireOldKeys]
      split
      · rename_i complete
        refine ⟨sound.unique, sound.rotated complete, fun _ => ?_⟩
        rw [List.take_take]
        exact sound.rotated complete
      · exact sound

theorem purgeDatesKept_purge {selected : BreachFinding → Bool} {now : Nat}
    (sound : site.Sound cipher) {revealAudits : Table SecretRevealAudit}
    {purgeRuns : Table SecretPurgeRun} :
    PurgeDatesKept site { site with
      store := site.store.purgeSecrets selected now, revealAudits, purgeRuns } := by
  intro finding member purged
  refine ⟨finding, mem_updateFindings.mpr ⟨finding, member, ?_⟩, rfl, rfl⟩
  -- a purged finding has no secret left, so no purge selects it
  rw [((sound.held finding member).erased purged).1]
  rfl

theorem purgeDatesKept_rotate (dryRun : Bool) (reached : Nat → Bool) (nonces : Nat → Nonce) :
    PurgeDatesKept site (rotateBreachSecretKey cipher dryRun reached nonces site) := by
  rw [rotateBreachSecretKey]
  split
  · exact fun finding member _ => ⟨finding, member, rfl, rfl⟩
  · intro finding member _
    refine ⟨_, mem_updateFindings.mpr ⟨finding, member, rfl⟩, ?_⟩
    split
    · rw [BreachFinding.rotateSecret]
      split <;> exact ⟨rfl, rfl⟩
    · exact ⟨rfl, rfl⟩

theorem purgeDatesKept_step (sound : site.Sound cipher) (event : SecretEvent Key Nonce) :
    PurgeDatesKept site (site.step cipher runtime settings event) := by
  cases event with
  | ingest tenant asset now report records =>
      intro finding member _
      obtain ⟨later, inside, same⟩ :=
        (sound_ingestRawFindings sound.unique).ingested.existing finding member
      exact ⟨later, inside, same.id_eq, by rw [same.kept]⟩
  | purgeExpired now => exact purgeDatesKept_purge sound
  | purgeTenant tenant now => exact purgeDatesKept_purge sound
  | install key => exact fun finding member _ => ⟨finding, member, rfl, rfl⟩
  | rotate dryRun reached nonces => exact purgeDatesKept_rotate dryRun reached nonces
  | retire =>
      rw [SecretSite.step, retireOldKeys]
      split <;> exact fun finding member _ => ⟨finding, member, rfl, rfl⟩

theorem PurgeDatesKept.trans {first second third : SecretSite Key}
    (near : PurgeDatesKept first second) (far : PurgeDatesKept second third) :
    PurgeDatesKept first third := by
  intro finding member purged
  obtain ⟨later, inside, sameId, sameDate⟩ := near finding member purged
  obtain ⟨last, inLast, lastId, lastDate⟩ := far later inside (sameDate ▸ purged)
  exact ⟨last, inLast, lastId.trans sameId, lastDate.trans sameDate⟩

end Steps

/-! ## Runs -/

/-- Over any run, a finding is flagged as having a secret that is not purged
exactly when its secret is there and can be read; a purged finding stays purged,
under the same date, with no secret, and no second finding stands for its leak. -/
theorem secrets_coherent {Key Nonce : Type} (cipher : SecretCipher Key Nonce) (runtime : Runtime)
    (settings : RetentionSettings) (start : SecretSite Key) (sound : start.Sound cipher)
    (events : List (SecretEvent Key Nonce)) :
    Always (SecretSite.step cipher runtime settings) (SecretSite.Coherent cipher) start events ∧
      Related (SecretSite.step cipher runtime settings) PurgeDatesKept start events := by
  have always : Always (SecretSite.step cipher runtime settings) (SecretSite.Sound cipher) start
      events :=
    always_of_step (fun _ event sound => sound.step event) sound events
  refine ⟨always.imp fun site => SecretSite.Sound.coherent, ?_⟩
  refine (related_iff_eachStep (R := PurgeDatesKept) ?_ fun _ _ _ => PurgeDatesKept.trans).mpr ?_
  · exact fun site finding member _ => ⟨finding, member, rfl, rfl⟩
  · exact eachStep_of_always (fun _ event sound => purgeDatesKept_step sound event) always

/-! A secret ingested, sealed again under a new key, purged, and delivered again. -/

section Redelivered

theorem byte_of_symbol (byte : UInt8) : UInt8.ofNat (Char.ofNat byte.toNat).toNat = byte := by
  have small : byte.toNat < 256 := byte.toNat_lt
  have valid : byte.toNat.isValidChar := Or.inl (by omega)
  have symbol : (Char.ofNat byte.toNat).toNat = byte.toNat := by
    rw [Char.ofNat, dif_pos valid]
    rfl
  rw [symbol, UInt8.ofNat_toNat]

/-- The token of a text is its key, then its bytes. -/
def plainCipher : SecretCipher Char Unit where
  encrypt := fun key _ plain =>
    String.ofList (key :: plain.data.toList.map fun byte => Char.ofNat byte.toNat)
  decrypt := fun key token =>
    match token.toList with
    | [] => none
    | first :: rest =>
        if first = key then some ⟨(rest.map fun symbol => UInt8.ofNat symbol.toNat).toArray⟩
        else none
  decrypt_encrypt := by
    intro key nonce plain
    simp [List.map_map, Function.comp_def, byte_of_symbol]
  decrypt_foreign := by
    intro key other nonce plain apart
    simp [apart.symm]
  encrypt_ne_empty := by
    intro key nonce plain blank
    have symbols := congrArg String.toList blank
    rw [String.toList_ofList] at symbols
    cases symbols

def emptySecretSite : SecretSite Char where
  store := ⟨Table.empty, Table.empty, Table.empty⟩
  revealAudits := Table.empty
  purgeRuns := Table.empty
  keys := ['a']
  rotationComplete := false

def leakedRecord : LeakRecord Unit where
  raw := leakedCredential
  nonce := ()
  fault := none
  printed := by decide

theorem sound_emptySecretSite : emptySecretSite.Sound plainCipher where
  unique := fun first member => absurd member (Table.not_mem_empty first)
  held := fun finding member => absurd member (Table.not_mem_empty finding)
  rotated := by rintro ⟨⟩

def redeliveredEvents : List (SecretEvent Char Unit) :=
  [.ingest 1 acmeSite 10 ⟨[], [], []⟩ [leakedRecord], .install 'b',
    .rotate false (fun _ => true) (fun _ => ()), .retire, .purgeTenant 1 20,
    .ingest 1 acmeSite 30 ⟨[], [], []⟩ [leakedRecord], .purgeTenant 1 40]

theorem secrets_coherent_redelivered :
    Always (SecretSite.step plainCipher plainRuntime ⟨90, 365⟩) (SecretSite.Coherent plainCipher)
        emptySecretSite redeliveredEvents ∧
      Related (SecretSite.step plainCipher plainRuntime ⟨90, 365⟩) PurgeDatesKept emptySecretSite
        redeliveredEvents :=
  secrets_coherent plainCipher plainRuntime ⟨90, 365⟩ emptySecretSite sound_emptySecretSite
    redeliveredEvents

end Redelivered

end RssiService.ThreatIntelligence
