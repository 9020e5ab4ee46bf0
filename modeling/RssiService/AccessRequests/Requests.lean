import RssiService.Assessments.Catalogue
import RssiService.Billing.Entitlements
import RssiService.Foundation.Interleaving

/-!
# Access requests

A client asks for a referential or a feature, follows its request and may withdraw it; the
operators advance it to its conclusion.  Accepting the request of a referential grants it.
Each of them loads the request first and overwrites its status later.
-/

namespace RssiService.AccessRequests

open Foundation Foundation.Run Foundation.Interleaving
open Assessments (Database Referential assignReferential)

/-! ## Requests -/

inductive Status where
  | pending
  | contacted
  | proposal
  | granted
  | declined
  | cancelled
  deriving DecidableEq, Repr

def openStatuses : List Status := [.pending, .contacted, .proposal]

/-- The steps to which the console may advance a request. -/
def advanceableStatuses : List Status := [.contacted, .proposal, .granted, .declined]

def terminalStatuses : List Status := [.granted, .declined, .cancelled]

/-- What may be asked for. -/
inductive Subject where
  | referential
  | feature
  deriving DecidableEq, Repr

def Subject.get : String → Option Subject
  | "referential" => some .referential
  | "feature" => some .feature
  | _ => none

/-- Accepting a feature is a matter for the offer of the client: nothing is granted. -/
def Subject.grants : Subject → Bool
  | .referential => true
  | .feature => false

/-- How often the grant of a request was executed, and how many of the operations that have
executed it did not fail afterwards.  Nothing reads it. -/
structure History where
  executions : Nat
  standing : Nat
  deriving DecidableEq, Repr

structure AccessRequest where
  id : Nat
  tenant : Nat
  subjectType : String
  subjectKey : String
  subjectLabel : String
  reason : String
  requestedBy : Option Nat
  createdAt : Nat
  status : Status
  response : String
  handledAt : Option Nat
  handledBy : Option Nat
  history : History
  deriving DecidableEq, Repr

instance : Identified AccessRequest := ⟨AccessRequest.id⟩

namespace AccessRequest

def isOpen (row : AccessRequest) : Bool := openStatuses.contains row.status

/-- Accepting the request grants what it asks for. -/
def grants (row : AccessRequest) : Bool := (Subject.get row.subjectType).any Subject.grants

/-- Two open requests of a client for one subject. -/
def collides (first second : AccessRequest) : Bool :=
  first.isOpen && second.isOpen && first.tenant = second.tenant &&
    first.subjectType = second.subjectType && first.subjectKey = second.subjectKey

end AccessRequest

/-- The partial unique constraint of the table. -/
def UniqueOpen (requests : Table AccessRequest) : Prop :=
  requests.rows.Pairwise fun first second => first.collides second = false

instance (requests : Table AccessRequest) : Decidable (UniqueOpen requests) :=
  inferInstanceAs (Decidable (requests.rows.Pairwise _))

/-- The requests, and what can be asked for. -/
structure Desk where
  requests : Table AccessRequest
  catalogue : Database
  billing : Billing.Store
  uniqueOpen : UniqueOpen requests

/-! ## Subjects -/

namespace Desk

def getReferential (desk : Desk) (slug : String) : Option Referential :=
  desk.catalogue.referentials.rows.find? fun row => row.slug = slug

/-- The displayed name of a subject. -/
def describe (desk : Desk) (key : String) : Subject → Option String
  | .referential => (desk.getReferential key).map fun referential => referential.sheet.name
  | .feature => (Billing.registry.find? fun feature => feature.key = key).map Billing.Feature.label

def isHeld (desk : Desk) (tenant : Nat) (key : String) : Subject → Bool
  | .referential => (desk.getReferential key).any (desk.catalogue.isGranted tenant)
  | .feature => desk.billing.hasFeature tenant key

end Desk

/-! ## Writes -/

inductive AccessRequestError where
  | unknownSubject (message : String)
  | alreadyHeld (message : String)
  | duplicateRequest (message : String)
  | alreadyHandled (message : String)
  | general (message : String)
  | notFound (message : String)
  | assessments (error : Assessments.AssessmentsError)
  deriving DecidableEq, Repr

/-- A request as it is sent. -/
structure Submission where
  tenant : Nat
  user : Option Nat
  subjectType : String
  subjectKey : String
  reason : String
  now : Nat
  deriving DecidableEq, Repr

def Submission.row (submission : Submission) (label : String) (key : Nat) : AccessRequest where
  id := key
  tenant := submission.tenant
  subjectType := submission.subjectType
  subjectKey := submission.subjectKey
  subjectLabel := label
  reason := submission.reason
  requestedBy := submission.user
  createdAt := submission.now
  status := .pending
  response := ""
  handledAt := none
  handledBy := none
  history := ⟨0, 0⟩

theorem Submission.ident_row (submission : Submission) (label : String) (key : Nat) :
    ident (submission.row label key) = key := rfl

/-- The fields that a save updates; those left out are `none`. -/
structure Suivi where
  status : Status
  response : Option String
  handled : Option (Nat × Option Nat)
  deriving DecidableEq, Repr

def AccessRequest.followed (suivi : Suivi) (row : AccessRequest) : AccessRequest :=
  { row with
    status := suivi.status
    response := suivi.response.getD row.response
    handledAt := (suivi.handled.map fun handled => some handled.1).getD row.handledAt
    handledBy := (suivi.handled.map Prod.snd).getD row.handledBy }

theorem AccessRequest.ident_followed (suivi : Suivi) (row : AccessRequest) :
    ident (row.followed suivi) = ident row := rfl

def AccessRequest.record (change : History → History) (row : AccessRequest) : AccessRequest :=
  { row with history := change row.history }

theorem AccessRequest.ident_record (change : History → History) (row : AccessRequest) :
    ident (row.record change) = ident row := rfl

def History.executed (history : History) : History :=
  { executions := history.executions + 1, standing := history.standing + 1 }

def History.failed (history : History) : History :=
  { history with standing := history.standing - 1 }

inductive DeskWrite where
  | creer (submission : Submission) (label : String)
  | accorder (request tenant : Nat) (referential : Referential) (actor : Option Nat)
  | enregistrer (request : Nat) (suivi : Suivi)
  | interrompre (request : Nat)
  | modifier (catalogue : Database) (billing : Billing.Store)

namespace Desk

/-- A save that the constraint refuses leaves the requests as they are. -/
def put (desk : Desk) (requests : Table AccessRequest) : Desk :=
  if unique : UniqueOpen requests then { desk with requests, uniqueOpen := unique } else desk

/-- What is recorded of a request leaves the constraint as it is. -/
theorem uniqueOpen_record (desk : Desk) (key : Nat) (change : History → History) :
    UniqueOpen (desk.requests.modify key (AccessRequest.record change)
      (AccessRequest.ident_record change)) := by
  refine List.pairwise_map.mpr (desk.uniqueOpen.imp fun apart => ?_)
  rw [← apart]
  split <;> split <;> rfl

def record (desk : Desk) (key : Nat) (change : History → History) : Desk :=
  { desk with
    requests := desk.requests.modify key (AccessRequest.record change)
      (AccessRequest.ident_record change)
    uniqueOpen := desk.uniqueOpen_record key change }

def granted (desk : Desk) (tenant : Nat) (referential : Referential) (actor : Option Nat) :
    Except Assessments.AssessmentsError Database :=
  assignReferential desk.catalogue tenant referential actor
    "Attribué en réponse à une demande du client."

def apply (desk : Desk) : DeskWrite → Desk
  | .creer submission label =>
      desk.put (desk.requests.create (submission.row label) (submission.ident_row label))
  | .accorder key tenant referential actor =>
      match desk.granted tenant referential actor with
      | .error _ => desk
      | .ok catalogue => { desk with catalogue }.record key History.executed
  | .enregistrer key suivi =>
      desk.put (desk.requests.modify key (AccessRequest.followed suivi)
        (AccessRequest.ident_followed suivi))
  | .interrompre key => desk.record key History.failed
  | .modifier catalogue billing => { desk with catalogue, billing }

/-! ## Requests to the desk -/

def describeSubject (desk : Desk) (submission : Submission) :
    Except AccessRequestError (Subject × String) :=
  match Subject.get submission.subjectType with
  | none => .error (.unknownSubject "Ce type de demande n'existe pas.")
  | some subject =>
      match desk.describe submission.subjectKey subject with
      | none => .error (.unknownSubject "L'élément demandé est introuvable.")
      | some label => .ok (subject, label)

def ensureNotHeld (desk : Desk) (submission : Submission) (subject : Subject) (label : String) :
    Except AccessRequestError Unit :=
  if desk.isHeld submission.tenant submission.subjectKey subject then
    .error (.alreadyHeld s!"« {label} » vous est déjà accessible.")
  else .ok ()

def ensureNotAsked (desk : Desk) (submission : Submission) (label : String) :
    Except AccessRequestError Unit :=
  if desk.requests.rows.any fun row =>
      row.tenant = submission.tenant && row.subjectType = submission.subjectType &&
        row.subjectKey = submission.subjectKey && row.isOpen then
    .error (.duplicateRequest s!"Une demande pour « {label} » est déjà en cours d'examen.")
  else .ok ()

/-- The request as it is loaded; a client sees its own only. -/
def getRequest (desk : Desk) (key : Nat) (tenant : Option Nat) :
    Except AccessRequestError AccessRequest :=
  match desk.requests.rows.find? fun row =>
      row.id = key && tenant.all fun tenant => row.tenant = tenant with
  | none => .error (.notFound "Demande introuvable.")
  | some row => .ok row

/-- What the grant of a request assigns: a referential that has left the catalogue is not
granted, and no error is raised. -/
def toAssign (desk : Desk) (demande : AccessRequest) (actor : Option Nat) :
    Except AccessRequestError (Option Referential) :=
  match desk.getReferential demande.subjectKey with
  | none => .ok none
  | some referential =>
      match desk.granted demande.tenant referential actor with
      | .error error => .error (.assessments error)
      | .ok _ => .ok (some referential)

end Desk

def ensureOpen (demande : AccessRequest) : Except AccessRequestError Unit :=
  if demande.isOpen then .ok ()
  else .error (.alreadyHandled "Cette demande a déjà été traitée.")

def cancelRequest (demande : AccessRequest) (user : Option Nat) (now : Nat) :
    Except AccessRequestError Suivi := do
  ensureOpen demande
  .ok { status := .cancelled, response := none, handled := some (now, user) }

/-- What advancing a request saves.  A new answer replaces the one that was loaded. -/
def advanceRequest (demande : AccessRequest) (status : Status) (response : String)
    (actor : Option Nat) (now : Nat) : Except AccessRequestError Suivi := do
  ensureOpen demande
  if advanceableStatuses.contains status then
    .ok
      { status
        response := some (if response = "" then demande.response else response)
        handled := if terminalStatuses.contains status then some (now, actor) else none }
  else .error (.general "Étape de suivi inconnue.")

/-- The step of an operator; where it fails, it fails between the grant and the save. -/
structure Advance where
  request : Nat
  status : Status
  response : String
  actor : Option Nat
  now : Nat
  fails : Bool
  deriving DecidableEq, Repr

inductive DeskRequest where
  | createRequest (submission : Submission)
  | cancelRequest (request tenant : Nat) (user : Option Nat) (now : Nat)
  | advanceRequest (advance : Advance)
  | modifier (catalogue : Database) (billing : Billing.Store)

/-- Grant what the request asks for, then save it. -/
def Advance.grant (advance : Advance) (demande : AccessRequest)
    (save : Program Desk DeskWrite) : Program Desk DeskWrite :=
  .attempt (fun desk : Desk => desk.toAssign demande advance.actor) fun found =>
    match found with
    | none => save
    | some referential =>
        .write (.accorder demande.id demande.tenant referential advance.actor)
          (if advance.fails then .write (.interrompre demande.id) .done else save)

def DeskRequest.program : DeskRequest → Program Desk DeskWrite
  | .createRequest submission =>
      .attempt (fun desk : Desk => desk.describeSubject submission) fun (subject, label) =>
        .attempt (fun desk : Desk => desk.ensureNotHeld submission subject label) fun _ =>
          .attempt (fun desk : Desk => desk.ensureNotAsked submission label) fun _ =>
            .write (.creer submission label) .done
  | .cancelRequest key tenant user now =>
      .attempt (fun desk : Desk => desk.getRequest key (some tenant)) fun demande =>
        match AccessRequests.cancelRequest demande user now with
        | .error _ => .done
        | .ok suivi => .write (.enregistrer demande.id suivi) .done
  | .advanceRequest advance =>
      .attempt (fun desk : Desk => desk.getRequest advance.request none) fun demande =>
        match AccessRequests.advanceRequest demande advance.status advance.response advance.actor
            advance.now with
        | .error _ => .done
        | .ok suivi =>
            if advance.status = .granted ∧ demande.grants = true then
              advance.grant demande (.write (.enregistrer demande.id suivi) .done)
            else .write (.enregistrer demande.id suivi) .done
  | .modifier catalogue billing => .write (.modifier catalogue billing) .done

end RssiService.AccessRequests
