import RssiService.ThreatIntelligence.ExposureFeed

/-!
# The audit of served identifiers

The identifiers of the findings leave through the list, the detail, the update
of a status and the exposure feed, and in the texts the assistant restored.  The
views that audit what they serve count it apart from what they serialize.
-/

namespace RssiService.ThreatIntelligence

open Foundation Python

/-! ## State -/

inductive AccessContext where
  | consultation
  | dataExport
  deriving DecidableEq, Repr

/-- One consultation that served identifiers in clear. -/
structure IdentifierAccessAudit where
  id : Nat
  tenant : Nat
  user : Option Nat
  context : AccessContext
  assetIds : List Nat
  identifierCount : Nat
  ipAddress : Option String
  userAgent : String
  createdAt : Nat
  deriving DecidableEq, Repr

instance : Identified IdentifierAccessAudit := ⟨IdentifierAccessAudit.id⟩

structure Conversation where
  id : Nat
  tenant : Nat
  deriving DecidableEq, Repr

instance : Identified Conversation := ⟨Conversation.id⟩

/-- A message of a conversation, stored with the real values put back. -/
structure StoredMessage where
  id : Nat
  tenant : Nat
  conversation : Nat
  content : String
  createdAt : Nat
  deriving DecidableEq, Repr

instance : Identified StoredMessage := ⟨StoredMessage.id⟩

structure GeneratedDocument where
  id : Nat
  tenant : Nat
  version : Nat
  contentMarkdown : String
  createdAt : Nat
  deriving DecidableEq, Repr

instance : Identified GeneratedDocument := ⟨GeneratedDocument.id⟩

/-- The data behind the requests, and the tenants that enabled the assistant. -/
structure Portal extends Workspace where
  aiEnabled : List Nat
  conversations : Table Conversation
  messages : Table StoredMessage
  documents : Table GeneratedDocument
  audits : Table IdentifierAccessAudit

/-! ## The trace -/

/-- Trace a consultation that served identifiers in clear: nothing for a reader,
nothing when no finding has one. -/
def recordIdentifierAccess (portal : Portal) (now tenant : Nat) (user : Option Nat)
    (context : AccessContext) (findings : List BreachFinding) (role : Option MembershipRole)
    (ipAddress userAgent : String) : Portal :=
  if role.isSome && !canViewIdentifiers role then portal
  else
    let concernees := findings.filter fun finding => finding.identifierPlain ≠ ""
    if concernees.isEmpty then portal
    else
      { portal with
        audits := portal.audits.create
          (fun key =>
            { id := key
              tenant
              user
              context
              assetIds := (concernees.map BreachFinding.asset).dedup.insertionSort (· ≤ ·)
              identifierCount := concernees.length
              ipAddress := if ipAddress = "" then none else some ipAddress
              userAgent := takeChars userAgent 255
              createdAt := now })
          (fun _ => rfl) }

/-- An authenticated user, the membership its header resolves to, and its address. -/
structure Caller where
  user : Nat
  membership : Option Membership
  ipAddress : String
  userAgent : String

def tracerAcces (portal : Portal) (now : Nat) (caller : Caller) (member : Membership)
    (findings : List BreachFinding) : Portal :=
  recordIdentifierAccess portal now member.tenant (some caller.user) .consultation findings
    (some member.role) caller.ipAddress caller.userAgent

/-! ## Pages -/

/-- The page parameter, once read. -/
inductive PageNumber where
  | number (value : Int)
  | last
  | malformed
  deriving DecidableEq, Repr

def pageSize : Nat := 20

/-- The number of pages; an empty list has one. -/
def numPages (count : Nat) : Nat :=
  (max 1 count + (pageSize - 1)) / pageSize

section Pages

variable {Row : Type*}

def pageAt (rows : List Row) (number : Nat) : List Row :=
  (rows.drop ((number - 1) * pageSize)).take pageSize

/-- One page of a list; `none` is the page that does not exist. -/
def paginate (rows : List Row) : PageNumber → Option (List Row)
  | .number value =>
      if 1 ≤ value ∧ value ≤ numPages rows.length then some (pageAt rows value.toNat) else none
  | .last => some (pageAt rows (numPages rows.length))
  | .malformed => none

theorem sublist_of_paginate {rows page : List Row} {number : PageNumber}
    (found : paginate rows number = some page) : page.Sublist rows := by
  have sublist (position : Nat) : (pageAt rows position).Sublist rows :=
    (List.take_sublist pageSize _).trans (List.drop_sublist _ rows)
  cases number with
  | number value =>
      rw [paginate] at found
      split at found
      · cases found
        exact sublist value.toNat
      · cases found
  | last =>
      cases found
      exact sublist (numPages rows.length)
  | malformed => cases found

end Pages

/-! ## Requests -/

structure ListQuery where
  status : Option String
  severity : Option String
  asset : Option Int
  search : String
  page : PageNumber

inductive Request where
  | listFindings (query : ListQuery)
  | getFinding (finding : Nat)
  | patchFinding (finding : Nat) (status : Option String)
  | exposureFeed
  | listAudits (page : PageNumber)
  | listMessages (conversation : Nat) (page : PageNumber)
  | listDocuments (page : PageNumber)
  | getDocument (document : Nat)

/-- A finding as the list, the detail and the update serve it. -/
structure SerializedFinding where
  id : Nat
  assetId : Nat
  sourceEndpoint : SourceEndpoint
  findingType : String
  severity : Severity
  status : FindingStatus
  identifier : String
  secretMasked : String
  hasSecret : Bool
  breachDate : Option Date
  detectedAt : Nat
  lastSeenAt : Option Nat
  treatedAt : Option Nat

def serializeFinding (role : Option MembershipRole) (finding : BreachFinding) : SerializedFinding :=
  { id := finding.id
    assetId := finding.asset
    sourceEndpoint := finding.sourceEndpoint
    findingType := finding.findingType
    severity := finding.severity
    status := finding.status
    identifier := identifierForViewer finding role
    secretMasked := finding.secretMasked
    hasSecret := finding.hasSecret
    breachDate := finding.breachDate
    detectedAt := finding.detectedAt
    lastSeenAt := finding.lastSeenAt
    treatedAt := finding.treatedAt }

inductive Body where
  | refused (status : Nat)
  | findings (count : Nat) (results : List SerializedFinding)
  | finding (result : SerializedFinding)
  | feed (feed : ExposureFeed) (synthesis : Option ExposureSynthesis)
  | audits (results : List IdentifierAccessAudit)
  | messages (results : List StoredMessage)
  | documents (results : List GeneratedDocument)

/-! ## Views -/

def severities : List Severity := [.attention, .high, .critical]

/-- The filter of a query: an unknown severity is ignored, the search is bounded. -/
def ListQuery.filter (query : ListQuery) : FindingFilter :=
  { status := query.status
    includePreIncident := false
    severity := query.severity.bind fun text => severities.find? fun known => known.value = text
    assetId := query.asset
    search := takeChars (strip query.search) 100 }

/-- The page is traced after it is serialized. -/
def findingListView (backend : Backend) (portal : Portal) (now : Nat) (caller : Caller)
    (member : Membership) (query : ListQuery) : Portal × Body :=
  let findings := listFindings backend portal.toWorkspace member.tenant query.filter
  match paginate findings query.page with
  | none => (portal, .refused 404)
  | some page =>
      (tracerAcces portal now caller member page,
        .findings findings.length (page.map (serializeFinding (some member.role))))

def findingDetailView (portal : Portal) (now : Nat) (caller : Caller) (member : Membership)
    (key : Nat) : Portal × Body :=
  match getFinding portal.store member.tenant key with
  | none => (portal, .refused 404)
  | some finding =>
      (tracerAcces portal now caller member [finding],
        .finding (serializeFinding (some member.role) finding))

/-- The status an update asks for: only a closed one is accepted. -/
def requestedStatus (status : Option String) : Option FindingStatus :=
  status.bind fun text => [.treated, .ignored].find? fun closed => closed.value = text

/-- The updated finding is served back, and nothing is traced. -/
def findingPatchView (portal : Portal) (now : Nat) (caller : Caller) (member : Membership)
    (key : Nat) (status : Option String) : Portal × Body :=
  if member.role = .reader then (portal, .refused 403)
  else
    match getFinding portal.store member.tenant key with
    | none => (portal, .refused 404)
    | some finding =>
        match requestedStatus status with
        | none => (portal, .refused 400)
        | some status =>
            ({ portal with
                store := setFindingStatus portal.store finding status (some caller.user) now },
              .finding (serializeFinding (some member.role)
                (finding.withStatus status (some caller.user) now)))

def getExposureSynthesis (store : Store) (tenant : Nat) : Option ExposureSynthesis :=
  store.syntheses.rows.find? fun row => row.tenant = tenant

/-- Every open finding is traced, whether it is shown or not. -/
def exposureFeedView (backend : Backend) (portal : Portal) (now : Nat) (caller : Caller)
    (member : Membership) : Portal × Body :=
  match buildExposureFeed backend portal.toWorkspace member.tenant (some member.role) with
  | none => (portal, .refused 500)
  | some feed =>
      (tracerAcces portal now caller member
          (openFindings backend portal.toWorkspace member.tenant),
        .feed feed (getExposureSynthesis portal.store member.tenant))

/-- The last audit rows of a tenant, for its administrator. -/
def listIdentifierAccessAudits (portal : Portal) (tenant : Nat) : List IdentifierAccessAudit :=
  ((portal.audits.rows.filter fun row => row.tenant = tenant).insertionSort
    fun first second => second.createdAt ≤ first.createdAt).take 100

def auditListView (portal : Portal) (member : Membership) (page : PageNumber) : Portal × Body :=
  if member.role = .admin then
    match paginate (listIdentifierAccessAudits portal member.tenant) page with
    | none => (portal, .refused 404)
    | some rows => (portal, .audits rows)
  else (portal, .refused 403)

def listMessages (portal : Portal) (tenant conversation : Nat) : List StoredMessage :=
  (portal.messages.rows.filter fun row =>
    row.tenant = tenant && row.conversation = conversation).insertionSort
      fun first second => first.createdAt ≤ second.createdAt

def getConversation (portal : Portal) (tenant key : Nat) : Option Conversation :=
  (portal.conversations.find? key).filter fun row => row.tenant = tenant

def messageListView (portal : Portal) (member : Membership) (conversation : Nat)
    (page : PageNumber) : Portal × Body :=
  if portal.aiEnabled.contains member.tenant then
    match getConversation portal member.tenant conversation with
    | none => (portal, .refused 404)
    | some found =>
        match paginate (listMessages portal member.tenant found.id) page with
        | none => (portal, .refused 404)
        | some rows => (portal, .messages rows)
  else (portal, .refused 403)

def listDocuments (portal : Portal) (tenant : Nat) : List GeneratedDocument :=
  (portal.documents.rows.filter fun row => row.tenant = tenant).insertionSort
    fun first second => second.version < first.version ∨
      (second.version = first.version ∧ second.createdAt ≤ first.createdAt)

def documentListView (portal : Portal) (member : Membership) (page : PageNumber) :
    Portal × Body :=
  match paginate (listDocuments portal member.tenant) page with
  | none => (portal, .refused 404)
  | some rows => (portal, .documents rows)

def getDocument (portal : Portal) (tenant key : Nat) : Option GeneratedDocument :=
  (portal.documents.find? key).filter fun row => row.tenant = tenant

def documentDetailView (portal : Portal) (member : Membership) (key : Nat) : Portal × Body :=
  match getDocument portal member.tenant key with
  | none => (portal, .refused 404)
  | some row => (portal, .documents [row])

/-- The state after a request, and its response. -/
def respond (backend : Backend) (portal : Portal) (now : Nat) (caller : Caller)
    (request : Request) : Portal × Body :=
  match caller.membership with
  | none => (portal, .refused 403)
  | some member =>
      match request with
      | .listFindings query => findingListView backend portal now caller member query
      | .getFinding key => findingDetailView portal now caller member key
      | .patchFinding key status => findingPatchView portal now caller member key status
      | .exposureFeed => exposureFeedView backend portal now caller member
      | .listAudits page => auditListView portal member page
      | .listMessages conversation page => messageListView portal member conversation page
      | .listDocuments page => documentListView portal member page
      | .getDocument key => documentDetailView portal member key

end RssiService.ThreatIntelligence
