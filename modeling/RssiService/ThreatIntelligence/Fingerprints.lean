import RssiService.Foundation.Joining
import RssiService.ThreatIntelligence.Normalizer

/-!
# What a deduplication key depends on

A record is hashed from the texts of its identity fields, joined by a separator,
and from the first secret the walk meets.  Where the digest has no collision,
two records share their key exactly when these texts are the same.
-/

namespace RssiService.ThreatIntelligence

open Foundation Python

/-! ## Digests -/

theorem hexDigit_injective {first second : Nat} (low : first < 16) (low' : second < 16)
    (same : hexDigit first = hexDigit second) : first = second := by
  have distinct : ∀ first < 16, ∀ second < 16,
      hexDigit first = hexDigit second → first = second := by
    decide
  exact distinct first low second low' same

/-- The digits of a number below a power of sixteen determine it. -/
theorem mod_eq_of_digits {first second : Nat} (count : Nat)
    (digits : ∀ place < count, first / 16 ^ place % 16 = second / 16 ^ place % 16) :
    first % 16 ^ count = second % 16 ^ count := by
  induction count with
  | zero => rw [Nat.pow_zero, Nat.mod_one, Nat.mod_one]
  | succ count ih =>
      have lower := ih fun place below => digits place (Nat.lt_succ_of_lt below)
      have last := digits count (Nat.lt_succ_self count)
      rw [Nat.pow_succ, Nat.mod_mul, Nat.mod_mul, lower, last]

theorem hexdigest_injective : Function.Injective hexdigest := by
  intro first second same
  have lists := congrArg String.toList same
  rw [hexdigest, hexdigest, String.toList_ofList, String.toList_ofList, List.map_inj_left] at lists
  apply BitVec.eq_of_toNat_eq
  have digits : first.toNat % 16 ^ 64 = second.toNat % 16 ^ 64 := by
    apply mod_eq_of_digits
    intro place below
    have written := lists (63 - place) (List.mem_range.mpr (by omega))
    have placed : 63 - (63 - place) = place := by omega
    rw [placed] at written
    exact hexDigit_injective (Nat.mod_lt _ (by decide)) (Nat.mod_lt _ (by decide)) written
  have power : 16 ^ 64 = 2 ^ 256 := by norm_num
  rwa [power, Nat.mod_eq_of_lt first.isLt, Nat.mod_eq_of_lt second.isLt] at digits

theorem length_hexdigest (digest : BitVec 256) : (hexdigest digest).length = 64 := by
  simp [hexdigest]

/-- The digest has no collision among the texts. -/
def CollisionFree (runtime : Runtime) (texts : List String) : Prop :=
  ∀ first ∈ texts, ∀ second ∈ texts,
    runtime.sha256 first = runtime.sha256 second → first = second

instance (runtime : Runtime) (texts : List String) : Decidable (CollisionFree runtime texts) :=
  inferInstanceAs (Decidable (∀ first ∈ texts, ∀ second ∈ texts, _))

/-! ## The secrets of a record -/

/-- The secret of a key whose value is a scalar. -/
def scalarSecret (unicode : Unicode) (key : String) (value : Json) : List String :=
  if isSecretKey unicode key && !value.isBlank then [value.toStr unicode] else []

mutual

/-- The texts of the secrets of a value, in the order of the walk. -/
def secrets (unicode : Unicode) : Json → List String
  | .obj fields => secretsFields unicode fields
  | .arr items => secretsItems unicode items
  | _ => []

def secretsItems (unicode : Unicode) : List Json → List String
  | [] => []
  | item :: rest => secrets unicode item ++ secretsItems unicode rest

def secretsFields (unicode : Unicode) : List (String × Json) → List String
  | [] => []
  | (key, value) :: rest =>
      (if value.isContainer then secrets unicode value else scalarSecret unicode key value) ++
        secretsFields unicode rest

end

/-- The walk keeps the first secret it meets. -/
def MaskState.remember (state : MaskState) (text : String) : MaskState :=
  state.note (String.ofList (maskText text.toList)) text

section Secrets

variable {unicode : Unicode}

theorem state_maskScalar (key : String) (value : Json) (state : MaskState) :
    (maskScalar unicode key value state).2 =
      (scalarSecret unicode key value).foldl MaskState.remember state := by
  rw [maskScalar, scalarSecret]
  split <;> rfl

theorem state_walkItems {items : List Json}
    (each : ∀ item ∈ items, ∀ state, (walk unicode item state).2 =
      (secrets unicode item).foldl MaskState.remember state) (state : MaskState) :
    (walkItems unicode items state).2 =
      (secretsItems unicode items).foldl MaskState.remember state := by
  induction items generalizing state with
  | nil => rfl
  | cons item rest ih =>
      simp only [walkItems, secretsItems, List.foldl_append]
      rw [ih (fun other member => each other (List.mem_cons_of_mem _ member)),
        each item List.mem_cons_self]

theorem state_walkFields {fields : List (String × Json)}
    (each : ∀ field ∈ fields, ∀ state, (walk unicode field.2 state).2 =
      (secrets unicode field.2).foldl MaskState.remember state) (state : MaskState) :
    (walkFields unicode fields state).2 =
      (secretsFields unicode fields).foldl MaskState.remember state := by
  induction fields generalizing state with
  | nil => rfl
  | cons field rest ih =>
      obtain ⟨key, value⟩ := field
      simp only [walkFields, secretsFields, List.foldl_append]
      rw [ih fun other member => each other (List.mem_cons_of_mem _ member)]
      split
      · rw [each (key, value) List.mem_cons_self]
      · rw [state_maskScalar]

/-- The walk remembers the secrets one after the other. -/
theorem state_walk (value : Json) (state : MaskState) : (walk unicode value state).2 =
    (secrets unicode value).foldl MaskState.remember state := by
  induction value generalizing state with
  | null => rfl
  | bool value => rfl
  | int value => rfl
  | float text => rfl
  | str text => rfl
  | arr items ih => exact state_walkItems ih state
  | obj fields ih => exact state_walkFields ih state

theorem foldl_remember_seen {state : MaskState} (seen : state.firstMasked ≠ "")
    (texts : List String) :
    (texts.foldl MaskState.remember state).firstPlain = state.firstPlain := by
  induction texts generalizing state with
  | nil => rfl
  | cons text texts ih =>
      have same : state.remember text = { state with secretSeen := true } := by
        rw [MaskState.remember, MaskState.note, if_neg seen]
      rw [List.foldl_cons, same]
      exact ih seen

end Secrets

/-! ## What a record is hashed from -/

/-- The identity fields that are present, each with its text. -/
def identityEntries (unicode : Unicode) (endpoint : String) (raw : List (String × Json)) :
    List (String × String) :=
  ((schemaOf endpoint).identityFields.filter fun field => !((Json.obj raw).get field).isBlank).map
    fun field => (field, ((Json.obj raw).get field).toStr unicode)

/-- The entries as they are written, `name=text`. -/
def written (entries : List (String × String)) : List String :=
  entries.map fun entry => entry.1 ++ "=" ++ entry.2

/-- The written entries, cut wherever they hold the separator. -/
def identityPieces (unicode : Unicode) (endpoint : String) (raw : List (String × Json)) :
    List (List Char) :=
  Joining.pieces '|' ((written (identityEntries unicode endpoint raw)).map String.toList)

def identityText (unicode : Unicode) (endpoint : String) (raw : List (String × Json)) : String :=
  endpoint ++ "|" ++ "|".intercalate (written (identityEntries unicode endpoint raw))

/-- The text of the first secret of a record; empty when it holds none. -/
def firstSecret (unicode : Unicode) (raw : List (String × Json)) : String :=
  (secrets unicode (.obj raw)).headD ""

theorem firstPlain_maskPayload (unicode : Unicode) (raw : List (String × Json)) :
    (maskPayload unicode (.obj raw)).2.firstPlain = firstSecret unicode raw := by
  rw [maskPayload, state_walk, firstSecret]
  cases secrets unicode (.obj raw) with
  | nil => rfl
  | cons text texts =>
      have masked : maskSecretValue unicode (.str text) ≠ "" := maskSecretValue_ne_empty (.str text)
      exact foldl_remember_seen masked texts

/-- The two hashes of a record under its deduplication key. -/
def dedupText (runtime : Runtime) (endpoint : String) (raw : List (String × Json)) : String :=
  computeIdentityHash runtime endpoint (.obj raw) ++ "|" ++
    computeSecretFingerprint runtime (firstSecret runtime.unicode raw)

/-- All that is hashed for a record. -/
def hashedTexts (runtime : Runtime) (endpoint : String) (raw : List (String × Json)) :
    List String :=
  [identityText runtime.unicode endpoint raw, firstSecret runtime.unicode raw,
    dedupText runtime endpoint raw]

section Hashes

variable {runtime : Runtime} {endpoint : String} {raw raw' : List (String × Json)}
  {texts : List String}

theorem computeIdentityHash_eq : computeIdentityHash runtime endpoint (.obj raw) =
    hexdigest (runtime.sha256 (identityText runtime.unicode endpoint raw)) := by
  rw [computeIdentityHash, identityText, written, identityEntries, List.map_map]
  rfl

theorem dedupHash_eq : (normalizeFinding runtime endpoint raw).dedupHash =
    hexdigest (runtime.sha256 (dedupText runtime endpoint raw)) := by
  rw [dedupText, ← firstPlain_maskPayload]
  rfl

/-- Records with one identity text and one first secret share their key. -/
theorem dedupHash_congr
    (identities : identityText runtime.unicode endpoint raw =
      identityText runtime.unicode endpoint raw')
    (secrets : firstSecret runtime.unicode raw = firstSecret runtime.unicode raw') :
    (normalizeFinding runtime endpoint raw).dedupHash =
      (normalizeFinding runtime endpoint raw').dedupHash := by
  rw [dedupHash_eq, dedupHash_eq, dedupText, dedupText, computeIdentityHash_eq,
    computeIdentityHash_eq, identities, secrets]

theorem length_computeIdentityHash (payload : Json) :
    (computeIdentityHash runtime endpoint payload).length = 64 := length_hexdigest _

/-- The fingerprint determines the secret. -/
theorem computeSecretFingerprint_inj (free : CollisionFree runtime texts) {first second : String}
    (listed : first ∈ texts) (listed' : second ∈ texts)
    (same : computeSecretFingerprint runtime first = computeSecretFingerprint runtime second) :
    first = second := by
  have written (text : String) : hexdigest (runtime.sha256 text) ≠ "" := by
    intro blank
    have length := length_hexdigest (runtime.sha256 text)
    rw [blank] at length
    cases length
  rw [computeSecretFingerprint, computeSecretFingerprint] at same
  split_ifs at same with none none' none'
  · rw [none, none']
  · exact absurd same.symm (written second)
  · exact absurd same (written first)
  · exact free first listed second listed' (hexdigest_injective same)

/-- Both hashes can be read off the text they are joined into. -/
theorem dedupText_inj (same : dedupText runtime endpoint raw = dedupText runtime endpoint raw') :
    computeIdentityHash runtime endpoint (.obj raw) =
        computeIdentityHash runtime endpoint (.obj raw') ∧
      computeSecretFingerprint runtime (firstSecret runtime.unicode raw) =
        computeSecretFingerprint runtime (firstSecret runtime.unicode raw') := by
  have lists := congrArg String.toList same
  simp only [dedupText, String.toList_append, List.append_assoc] at lists
  have lengths : (computeIdentityHash runtime endpoint (.obj raw)).toList.length =
      (computeIdentityHash runtime endpoint (.obj raw')).toList.length := by
    rw [String.length_toList, String.length_toList, length_computeIdentityHash,
      length_computeIdentityHash]
  obtain ⟨identities, rest⟩ := List.append_inj lists lengths
  exact ⟨String.toList_inj.mp identities,
    String.toList_inj.mp (List.append_cancel_left rest)⟩

theorem dedupHash_eq_iff
    (free : CollisionFree runtime (hashedTexts runtime endpoint raw ++
      hashedTexts runtime endpoint raw')) :
    (normalizeFinding runtime endpoint raw).dedupHash =
        (normalizeFinding runtime endpoint raw').dedupHash ↔
      identityText runtime.unicode endpoint raw = identityText runtime.unicode endpoint raw' ∧
        firstSecret runtime.unicode raw = firstSecret runtime.unicode raw' := by
  constructor
  · intro same
    rw [dedupHash_eq, dedupHash_eq] at same
    have joined := free _ (by simp [hashedTexts]) _ (by simp [hashedTexts])
      (hexdigest_injective same)
    obtain ⟨identities, fingerprints⟩ := dedupText_inj joined
    rw [computeIdentityHash_eq, computeIdentityHash_eq] at identities
    refine ⟨free _ (by simp [hashedTexts]) _ (by simp [hashedTexts])
      (hexdigest_injective identities), ?_⟩
    exact computeSecretFingerprint_inj free (by simp [hashedTexts]) (by simp [hashedTexts])
      fingerprints
  · rintro ⟨identities, secrets⟩
    exact dedupHash_congr identities secrets

/-- The identity texts are told apart by their pieces. -/
theorem identityText_eq_iff {unicode : Unicode} :
    identityText unicode endpoint raw = identityText unicode endpoint raw' ↔
      identityPieces unicode endpoint raw = identityPieces unicode endpoint raw' := by
  have full (entries : List (String × String)) : [] ∉ (written entries).map String.toList := by
    intro blank
    rw [written, List.map_map] at blank
    obtain ⟨entry, _, empty⟩ := List.mem_map.mp blank
    simp at empty
  rw [identityText, identityText, String.append_right_inj, ← String.toList_inj,
    String.toList_intercalate, String.toList_intercalate]
  exact Joining.intercalate_eq_iff (full _) (full _)

end Hashes

end RssiService.ThreatIntelligence
