import RssiService.Billing.Entitlements

/-!
# Watched accounts

A client may have accounts outside its domains watched.  The declaration it
makes for each is frozen in the row, and an account that is no longer watched
keeps its row.
-/

namespace RssiService.ThreatIntelligence

open Foundation Python

inductive AccountCategory where
  | executive
  | employee
  | client
  | service
  | other
  deriving DecidableEq, Repr

inductive LegalBasis where
  | own
  | company
  | consent
  | contract
  | other
  deriving DecidableEq, Repr

structure WatchedAccount where
  id : Nat
  tenant : Nat
  value : String
  label : String
  category : AccountCategory
  legalBasis : LegalBasis
  purpose : String
  declarationText : String
  declarationVersion : String
  declaredBy : Nat
  isActive : Bool
  deriving DecidableEq, Repr

instance : Identified WatchedAccount := ⟨WatchedAccount.id⟩

def declarationText : String :=
  "Je déclare avoir le droit de faire surveiller ce compte. Si ce compte n'est pas le " ++
    "mien, je reconnais que cette surveillance constitue un traitement de données " ++
    "personnelles dont mon entreprise est responsable : il m'appartient d'en informer la " ++
    "personne concernée et de pouvoir justifier du fondement de ce traitement. " ++
    "RSSI as a Service agit ici comme sous-traitant, sur mes seules instructions, et ne " ++
    "vérifie pas ce fondement à ma place."

def declarationVersion : String := "2026-09-1"

/-- What a client fills in. -/
structure Declaration where
  user : Nat
  value : String
  label : String
  category : AccountCategory
  legalBasis : LegalBasis
  purpose : String
  accepted : Bool
  deriving DecidableEq, Repr

inductive WatchedAccountError where
  | declarationRequired (message : String)
  | refused (message : String)
  deriving DecidableEq, Repr

def normalizeAccountValue (unicode : Unicode) (value : String) : String :=
  unicode.lower (strip value)

/-- What has to be declared, before any quota is looked at. -/
def Declaration.check (unicode : Unicode) (declaration : Declaration) :
    Except WatchedAccountError Unit :=
  if !declaration.accepted then
    .error (.declarationRequired
      "La déclaration est obligatoire pour ajouter un compte à surveiller.")
  else if strip declaration.purpose = "" then
    .error (.declarationRequired
      ("Indiquez pourquoi vous surveillez ce compte : cette finalité fait partie de " ++
        "la déclaration."))
  else if normalizeAccountValue unicode declaration.value = "" then
    .error (.refused "Indiquez le compte à surveiller.")
  else .ok ()

def Declaration.row (unicode : Unicode) (declaration : Declaration) (tenant key : Nat) :
    WatchedAccount where
  id := key
  tenant
  value := normalizeAccountValue unicode declaration.value
  label := strip declaration.label
  category := declaration.category
  legalBasis := declaration.legalBasis
  purpose := strip declaration.purpose
  declarationText
  declarationVersion
  declaredBy := declaration.user
  isActive := true

/-- The constraint of the table: an account is declared once among the active ones. -/
def isDeclarable (accounts : Table WatchedAccount) (tenant : Nat) (value : String) : Bool :=
  !accounts.rows.any fun row => row.isActive && row.tenant = tenant && row.value = value

def watchedCount (accounts : Table WatchedAccount) (tenant : Nat) : Nat :=
  accounts.rows.countP fun row => row.isActive && row.tenant = tenant

end RssiService.ThreatIntelligence
