import RssiService.Python.Date
import RssiService.ThreatIntelligence.Masking

/-!
# Normalization of a provider record

Each record becomes the fields of a finding.  The identity of a leak and the
fingerprint of its secret are hashed apart and then together: the hash of both
is the deduplication key.
-/

namespace RssiService.ThreatIntelligence

open Python

/-- What the platform supplies: the character tables and the digest of a text. -/
structure Runtime where
  unicode : Unicode
  sha256 : String → BitVec 256

/-! ## Endpoints -/

inductive Severity where
  | attention
  | high
  | critical
  deriving DecidableEq, Repr

def Severity.value : Severity → String
  | .attention => "attention"
  | .high => "high"
  | .critical => "critical"

inductive SourceEndpoint where
  | stealer
  | combo
  | creds
  | sessions
  | nhi
  | darkweb
  | docs
  | asm
  | radar
  | webhook
  deriving DecidableEq, Repr

def SourceEndpoint.value : SourceEndpoint → String
  | .stealer => "stealer"
  | .combo => "combo"
  | .creds => "creds"
  | .sessions => "sessions"
  | .nhi => "nhi"
  | .darkweb => "darkweb"
  | .docs => "docs"
  | .asm => "asm"
  | .radar => "radar"
  | .webhook => "webhook"

/-- The endpoints the provider answers on. -/
def queryEndpoints : List SourceEndpoint :=
  [.stealer, .combo, .creds, .sessions, .nhi, .darkweb, .docs, .asm, .radar]

/-- The query endpoint of a name; any other name is unknown. -/
def queryEndpoint? (endpoint : String) : Option SourceEndpoint :=
  queryEndpoints.find? fun known => known.value = endpoint

def severityByEndpoint : SourceEndpoint → Severity
  | .stealer | .sessions | .nhi | .darkweb => .critical
  | .creds | .combo | .docs => .high
  | .radar | .asm | .webhook => .attention

/-- The field vocabulary of an endpoint. -/
structure EndpointSchema where
  identifierFields : List String
  dateFields : List String
  typeField : Option String
  identityFields : List String

def endpointSchemas : SourceEndpoint → EndpointSchema
  | .stealer => ⟨["usr"], ["inf", "fnd"], some "mal", ["usr", "src"]⟩
  | .combo => ⟨["usr"], ["fnd"], none, ["usr", "src"]⟩
  | .creds => ⟨["eml"], ["fnd"], none, ["eml", "src"]⟩
  | .sessions => ⟨["user_name"], ["fnd"], none, ["user_name", "dom", "cookie_name"]⟩
  | .nhi => ⟨["usr"], ["fnd"], some "category", ["usr", "platform", "src"]⟩
  | .darkweb => ⟨[], ["found"], none, ["data", "site"]⟩
  | .radar => ⟨[], ["found"], none, ["data", "src"]⟩
  | .docs => ⟨[], ["leak_date"], some "content_type", ["doc_id", "file_hash"]⟩
  | .asm => ⟨[], ["found"], some "type", ["dom", "type", "cname", "ip"]⟩
  | .webhook => ⟨[], [], none, []⟩

/-- The schema of an endpoint name; an unknown one has no field. -/
def schemaOf (endpoint : String) : EndpointSchema :=
  endpointSchemas ((queryEndpoint? endpoint).getD .webhook)

def fallbackIdentifierKeys : List String :=
  ["email", "eml", "usr", "user_name", "login", "username", "user", "identifier"]

def fallbackDateKeys : List String :=
  ["breach_date", "date", "leaked_at", "discovered_at", "found_at", "found", "fnd", "inf",
    "leak_date"]

def fallbackTypeKeys : List String := ["type", "category", "mal"]

/-! ## Fields of a payload -/

/-- The text of the first field that is neither absent nor blank. -/
def firstPresent (unicode : Unicode) (payload : Json) (fields : List String) : Option String :=
  (fields.find? fun field => !(payload.get field).isBlank).map fun field =>
    (payload.get field).toStr unicode

/-- `value or default`: a missing text and an empty one are false. -/
def orElse (value : Option String) (default : Option String) : Option String :=
  match value with
  | some text => if text = "" then default else some text
  | none => default

def extractIdentifier (unicode : Unicode) (endpoint : String) (payload : Json) : Option String :=
  orElse (firstPresent unicode payload (schemaOf endpoint).identifierFields)
    (firstPresent unicode payload fallbackIdentifierKeys)

def masking : List Char := List.replicate 4 bullet

/-- The first two characters of a part longer than two, then the mask. -/
def maskPart (part : List Char) : List Char :=
  if 2 < part.length then part.take 2 ++ masking else masking

/-- The shape of an identifier without its value. -/
def maskIdentifier (identifier : String) : String :=
  match partition '@' identifier.toList with
  | (_, false, _) => String.ofList (maskPart identifier.toList)
  | (part, true, domain) =>
      let domainParts := splitChar '.' domain
      let tld :=
        if 1 < domainParts.length then '.' :: List.intercalate ['.'] (domainParts.drop 1) else []
      String.ofList (maskPart part ++ ['@'] ++ maskPart (domainParts.headD []) ++ tld)

def extractBreachDate (unicode : Unicode) (endpoint : String) (payload : Json) : Option Date :=
  let rawValue := orElse (firstPresent unicode payload (schemaOf endpoint).dateFields)
    (firstPresent unicode payload fallbackDateKeys)
  rawValue.bind fun text => Date.fromIsoFormat? (text.toList.take 10)

def maxFindingType : Nat := 60

def maxIdentifier : Nat := 255

def maxSecretMasked : Nat := 32

/-- Cut a text of the provider to what its column holds. -/
def borner (value : String) (maximum : Nat) : String :=
  takeChars value maximum

def extractFindingType (unicode : Unicode) (endpoint : String) (payload : Json) : String :=
  (orElse (firstPresent unicode payload (schemaOf endpoint).typeField.toList)
    (orElse (firstPresent unicode payload fallbackTypeKeys) (some endpoint))).getD endpoint

def asmPhishingType : String := "pphish"

/-- `payload.get("type") == "pphish"`. -/
def isPhishing (payload : Json) : Bool :=
  match payload.get "type" with
  | .str text => text = asmPhishingType
  | _ => false

def computeSeverity (endpoint : String) (payload : Json) : Severity :=
  if endpoint = "asm" && isPhishing payload then .high
  else severityByEndpoint ((queryEndpoint? endpoint).getD .webhook)

/-! ## Hashes -/

def hexDigit (value : Nat) : Char :=
  "0123456789abcdef".toList.getD value '0'

/-- The 64 hexadecimal digits of a digest. -/
def hexdigest (digest : BitVec 256) : String :=
  String.ofList ((List.range 64).map fun place => hexDigit (digest.toNat / 16 ^ (63 - place) % 16))

/-- Who leaked and from where: the endpoint and its present identity fields, by name. -/
def computeIdentityHash (runtime : Runtime) (endpoint : String) (payload : Json) : String :=
  let present := (schemaOf endpoint).identityFields.filter fun field =>
    !(payload.get field).isBlank
  let named := present.map fun field =>
    field ++ "=" ++ (payload.get field).toStr runtime.unicode
  hexdigest (runtime.sha256 (endpoint ++ "|" ++ String.intercalate "|" named))

/-- Which secret leaked; empty when the record holds none. -/
def computeSecretFingerprint (runtime : Runtime) (secretPlain : String) : String :=
  if secretPlain = "" then "" else hexdigest (runtime.sha256 secretPlain)

def computeDedupHash (runtime : Runtime) (identityHash secretFingerprint : String) : String :=
  hexdigest (runtime.sha256 (identityHash ++ "|" ++ secretFingerprint))

/-! ## The normalized finding -/

/-- One record as the provider returned it. -/
structure RawFinding where
  endpoint : String
  payload : List (String × Json)
  isTest : Bool

/-- The fields of a finding, with the secret its caller encrypts. -/
structure NormalizedFinding where
  sourceEndpoint : SourceEndpoint
  findingType : String
  severity : Severity
  identifierPlain : String
  identifierMasked : String
  secretMasked : String
  hasSecret : Bool
  secretPlain : String
  breachDate : Option Date
  rawData : Json
  identityHash : String
  secretFingerprint : String
  dedupHash : String

def normalizeFinding (runtime : Runtime) (endpoint : String) (raw : List (String × Json)) :
    NormalizedFinding :=
  let payload := Json.obj raw
  let (rawData, state) := maskPayload runtime.unicode payload
  let identifier := strip ((extractIdentifier runtime.unicode endpoint payload).getD "")
  let identifierMasked := if identifier = "" then "" else maskIdentifier identifier
  let identityHash := computeIdentityHash runtime endpoint payload
  let secretFingerprint := computeSecretFingerprint runtime state.firstPlain
  { sourceEndpoint := (queryEndpoint? endpoint).getD .webhook
    findingType := borner (extractFindingType runtime.unicode endpoint payload) maxFindingType
    severity := computeSeverity endpoint payload
    identifierPlain := borner identifier maxIdentifier
    identifierMasked := borner identifierMasked maxIdentifier
    secretMasked := borner state.firstMasked maxSecretMasked
    hasSecret := state.secretSeen
    secretPlain := state.firstPlain
    breachDate := extractBreachDate runtime.unicode endpoint payload
    rawData
    identityHash
    secretFingerprint
    dedupHash := computeDedupHash runtime identityHash secretFingerprint }

/-! ## What normalization guarantees -/

def legacyFingerprintPrefix : String := "legacy:"

/-- `fingerprint__startswith="legacy:"`. -/
def isLegacy (fingerprint : String) : Bool :=
  legacyFingerprintPrefix.toList.isPrefixOf fingerprint.toList

theorem hexDigit_ne_l (value : Nat) : hexDigit value ≠ 'l' := by
  have member : hexDigit value ∈ "0123456789abcdef".toList ++ ['0'] := by
    rw [hexDigit, List.getD_eq_getElem?_getD]
    rcases Nat.lt_or_ge value "0123456789abcdef".toList.length with inside | outside
    · rw [List.getElem?_eq_getElem inside]
      exact List.mem_append_left _ (List.getElem_mem inside)
    · rw [List.getElem?_eq_none outside]
      exact List.mem_append_right _ List.mem_cons_self
  intro same
  rw [same] at member
  revert member
  decide

/-- A digest never reads as the mark of an old row. -/
theorem isLegacy_hexdigest (digest : BitVec 256) : isLegacy (hexdigest digest) = false := by
  apply Bool.eq_false_iff.mpr
  intro legacy
  obtain ⟨rest, cut⟩ := List.isPrefixOf_iff_prefix.mp legacy
  have heads := congrArg List.head? cut
  rw [hexdigest, String.toList_ofList, List.head?_map] at heads
  exact hexDigit_ne_l _ (Option.some.inj heads).symm

/-- A normalized record always carries a current fingerprint. -/
theorem isLegacy_normalizeFinding (runtime : Runtime) (endpoint : String)
    (raw : List (String × Json)) :
    isLegacy (normalizeFinding runtime endpoint raw).secretFingerprint = false := by
  simp only [normalizeFinding, computeSecretFingerprint]
  split
  · decide
  · exact isLegacy_hexdigest _

end RssiService.ThreatIntelligence
