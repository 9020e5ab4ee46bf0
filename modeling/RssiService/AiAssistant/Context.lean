import RssiService.AiAssistant.Pseudonymization
import RssiService.Python.Url

/-!
# What the assistant knows of a tenant

The tenant data the assistant reads, the context built from it for the model,
and the identifying values collected from the same data.
-/

namespace RssiService.AiAssistant

open Python

inductive AssetType where
  | website
  | emailDomain
  deriving DecidableEq, Repr

structure Asset where
  type : AssetType
  value : String
  deriving DecidableEq, Repr

structure Member where
  firstName : String
  lastName : String
  email : String
  deriving DecidableEq, Repr

def Member.getFullName (member : Member) : String :=
  let full := strip (member.firstName ++ " " ++ member.lastName)
  if full = "" then member.email else full

structure OpenAlert where
  assetValue : String
  typeLabel : String
  severityLabel : String
  deriving DecidableEq, Repr

/-- A breach finding, as far as the assistant reads it. -/
structure Finding where
  id : Nat
  isOpen : Bool
  detectedAt : Nat
  assetValue : String
  endpointLabel : String
  severityLabel : String
  identifierPlain : String
  identifierMasked : String
  hasSecret : Bool
  deriving DecidableEq, Repr

structure Scores where
  overall : Json
  byDomain : List Json

structure TenantData where
  name : String
  sector : String
  headcount : Option Nat
  scores : Option Scores
  members : List Member
  assets : List Asset
  alerts : List OpenAlert
  findings : List Finding

/-! ## The context -/

def aiContextFindingsLimit : Nat := 20

/-- The most recent open findings, ties broken by key; the collector and the
context read the same ones. -/
def contextFindings (tenant : TenantData) : List Finding :=
  ((tenant.findings.filter Finding.isOpen).insertionSort fun first second =>
    second.detectedAt < first.detectedAt ∨
      (first.detectedAt = second.detectedAt ∧ first.id ≤ second.id)).take aiContextFindingsLimit

def buildAssistantContext (tenant : TenantData) : Json :=
  .obj [
    ("raison_sociale", .str tenant.name),
    ("secteur", .str (textOr tenant.sector "non renseigné")),
    ("effectif", (tenant.headcount.map fun count => Json.int count).getD .null),
    ("score_global", (tenant.scores.map Scores.overall).getD .null),
    ("scores_par_domaine", .arr ((tenant.scores.map Scores.byDomain).getD [])),
    ("alertes_ouvertes", .arr (tenant.alerts.map fun alert => .obj [
      ("actif", .str alert.assetValue),
      ("type", .str alert.typeLabel),
      ("gravite", .str alert.severityLabel)])),
    ("compromissions_ouvertes", .arr ((contextFindings tenant).map fun finding => .obj [
      ("actif", .str finding.assetValue),
      ("type", .str finding.endpointLabel),
      ("gravite", .str finding.severityLabel),
      ("identifiant", .str (textOr finding.identifierPlain finding.identifierMasked)),
      ("secret_expose", .bool finding.hasSecret)]))]

/-! ## The identifying values -/

/-- The values of one asset: a website also gives its host.  `none` is the
`ValueError` of a malformed URL. -/
def Asset.sensitiveValues (unicode : Unicode) (asset : Asset) : Option (List (String × Kind)) :=
  match asset.type with
  | .website =>
      (Url.hostname unicode asset.value).map fun hostname =>
        (asset.value, .url) ::
          match hostname with
          | some host => if host = "" then [] else [(host, .domain)]
          | none => []
  | .emailDomain => some [(asset.value, .domain)]

/-- The values collected from a tenant, in the order they are added. -/
def sensitiveValues (unicode : Unicode) (tenant : TenantData) : Option (List (String × Kind)) := do
  let assetValues ← tenant.assets.mapM (Asset.sensitiveValues unicode)
  some ((tenant.name, .company) ::
    (tenant.members.flatMap fun member => [(member.getFullName, .member), (member.email, .email)]) ++
    assetValues.flatten ++
    ((contextFindings tenant).filter fun finding => finding.identifierPlain ≠ "").map
      fun finding => (finding.identifierPlain, .email))

/-- Extend a table with the identifying values of a tenant.  The placeholders
already assigned do not move. -/
def collectSensitiveValues (unicode : Unicode) (tenant : TenantData) (mapping : Mapping) :
    Option Mapping :=
  (sensitiveValues unicode tenant).map fun values =>
    (addValues (mapping, countersFromMapping mapping) values).1

end RssiService.AiAssistant
