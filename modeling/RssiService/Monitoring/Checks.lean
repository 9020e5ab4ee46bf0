import RssiService.Monitoring.Alerts
import RssiService.Python.Text

/-!
# The checks

Each check turns what the network answered into a status and a dictionary of
details.  A check that could not observe its target writes only the error.
-/

namespace RssiService.Monitoring

open Python

inductive CheckType where
  | httpUptime
  | sslCertificate
  | securityHeaders
  | emailDns
  deriving DecidableEq, Repr

inductive Status where
  | ok
  | warning
  | critical
  deriving DecidableEq, Repr

structure MissingHeader where
  header : String
  recommendation : String
  deriving DecidableEq, Repr

/-- The details of a result.  A key that the check does not write is `none`. -/
structure Details where
  error : Option String := none
  statusCode : Option Nat := none
  finalUrl : Option String := none
  expiresAt : Option String := none
  daysLeft : Option Int := none
  issuer : Option String := none
  present : Option (List String) := none
  missing : Option (List MissingHeader) := none
  issues : Option (List Issue) := none
  spf : Option String := none
  dmarc : Option String := none
  dmarcPolicy : Option (Option String) := none
  spfOrDmarcMissing : Option Bool := none
  deriving DecidableEq, Repr

structure CheckOutcome where
  status : Status
  details : Details
  /-- In tenths of a millisecond. -/
  latency : Option Nat := none
  deriving DecidableEq, Repr

/-- What a guarded request ends with: a refused target, a network failure, or an
answer. -/
inductive Fetch (Answer : Type) where
  | refused (message : String)
  | failed (message : String)
  | answered (answer : Answer)

/-- The details of a target that was refused or that failed. -/
def Fetch.error {Answer : Type} : Fetch Answer → Option String
  | .refused message => some ("Cible refusée : " ++ message)
  | .failed message => some message
  | .answered _ => none

def errorOutcome (message : String) : CheckOutcome :=
  { status := .critical, details := { error := some message } }

/-! ## Availability and certificate -/

structure HttpAnswer where
  statusCode : Nat
  finalUrl : String
  latency : Nat
  deriving DecidableEq, Repr

def checkHttpUptime : Fetch HttpAnswer → CheckOutcome
  | .refused message => errorOutcome ("Cible refusée : " ++ message)
  | .failed message => errorOutcome message
  | .answered answer =>
      { status := if 200 ≤ answer.statusCode ∧ answer.statusCode < 400 then .ok else .critical
        details := { statusCode := some answer.statusCode, finalUrl := some answer.finalUrl }
        latency := some answer.latency }

/-- A certificate, with the whole days left before it expires. -/
structure Certificate where
  notAfter : String
  daysLeft : Int
  issuer : String
  deriving DecidableEq, Repr

def warningThresholdDays : Int := 30

def checkSslCertificate : Fetch (Option Certificate) → CheckOutcome
  | .refused message => errorOutcome ("Cible refusée : " ++ message)
  | .failed message => errorOutcome message
  | .answered none => errorOutcome "Certificat sans date d'expiration exploitable."
  | .answered (some certificate) =>
      { status :=
          if certificate.daysLeft < 0 then .critical
          else if certificate.daysLeft ≤ warningThresholdDays then .warning
          else .ok
        details :=
          { expiresAt := some certificate.notAfter, daysLeft := some certificate.daysLeft
            issuer := some certificate.issuer } }

/-! ## Security headers -/

def requiredHeaders : List MissingHeader := [
  { header := "Strict-Transport-Security"
    recommendation := "Ajoutez l'en-tête HSTS pour forcer les connexions HTTPS sur ce domaine." },
  { header := "Content-Security-Policy"
    recommendation :=
      "Ajoutez une politique CSP pour limiter les sources de contenu autorisées." },
  { header := "X-Frame-Options"
    recommendation :=
      "Ajoutez X-Frame-Options pour empêcher le détournement de clic (clickjacking)." },
  { header := "X-Content-Type-Options"
    recommendation :=
      "Ajoutez X-Content-Type-Options: nosniff pour empêcher le détournement de type MIME." }]

/-- Header names compare without case. -/
def sameHeader (first second : String) : Bool :=
  first.toList.map Char.toLower = second.toList.map Char.toLower

def checkSecurityHeaders : Fetch (List String) → CheckOutcome
  | .refused message => errorOutcome ("Cible refusée : " ++ message)
  | .failed message => errorOutcome message
  | .answered headers =>
      let present := requiredHeaders.filter fun required => headers.any (sameHeader required.header)
      let missing := requiredHeaders.filter fun required => !headers.any (sameHeader required.header)
      { status := if missing = [] then .ok else .warning
        details := { present := some (present.map MissingHeader.header), missing := some missing } }

/-! ## Email configuration -/

/-- The TXT records of a name, or the message of a DNS failure.  An unknown name
and an empty answer give no record. -/
abbrev TxtStrings := String → Except String (List String)

def startsWith (text start : String) : Bool :=
  start.toList.isPrefixOf text.toList

/-- The value of the first `p=` tag of a DMARC record. -/
def dmarcPolicy (record : String) : Option String :=
  (splitChar ';' record.toList).findSome? fun part =>
    let part := strip (String.ofList part)
    if startsWith part "p=" then some (strip (String.ofList (part.toList.drop 2))) else none

def spfIssues (records : List String) : List Issue :=
  match records with
  | [] => [{ type := "spf_missing", message := "Aucun enregistrement SPF trouvé." }]
  | [_] => []
  | _ => [{ type := "spf_multiple"
            message := "Plusieurs enregistrements SPF trouvés (un seul est autorisé)." }]

def dmarcIssues (records : List String) : List Issue :=
  match records with
  | [] => [{ type := "dmarc_missing", message := "Aucun enregistrement DMARC trouvé." }]
  | record :: _ =>
      if dmarcPolicy record = some "none" then
        [{ type := "dmarc_policy_none"
           message := "La politique DMARC est « none » (surveillance uniquement, " ++
             "aucun email frauduleux n'est bloqué ou mis en quarantaine)." }]
      else []

def checkEmailDns (txtStrings : TxtStrings) (domain : String) : CheckOutcome :=
  match txtStrings domain with
  | .error message => errorOutcome message
  | .ok spfAnswers =>
      let spfRecords := spfAnswers.filter fun text => startsWith text "v=spf1"
      match txtStrings ("_dmarc." ++ domain) with
      | .error message => errorOutcome message
      | .ok dmarcAnswers =>
          let dmarcRecords := dmarcAnswers.filter fun text => startsWith text "v=DMARC1"
          let issues := spfIssues spfRecords ++ dmarcIssues dmarcRecords
          let reported (type : String) : Bool := issues.any fun issue => issue.type = type
          { status :=
              if reported "spf_missing" && reported "dmarc_missing" then .critical
              else if issues = [] then .ok
              else .warning
            details :=
              { issues := some issues
                spf := spfRecords.head?
                dmarc := dmarcRecords.head?
                dmarcPolicy := dmarcRecords.head?.map dmarcPolicy
                spfOrDmarcMissing :=
                  some (reported "spf_missing" || reported "dmarc_missing") } }

/-! ## What a result observed -/

/-- The two look-ups of the email check both answered. -/
def emailAnswered (txtStrings : TxtStrings) (domain : String) : Bool :=
  (txtStrings domain).isOk && (txtStrings ("_dmarc." ++ domain)).isOk

theorem error_checkEmailDns (txtStrings : TxtStrings) (domain : String) :
    ((checkEmailDns txtStrings domain).details.error = none ↔ emailAnswered txtStrings domain) ∧
      ((checkEmailDns txtStrings domain).details.issues.isSome ↔ emailAnswered txtStrings domain) := by
  cases spf : txtStrings domain with
  | error message => simp [checkEmailDns, emailAnswered, spf, errorOutcome, Except.isOk, Except.toBool]
  | ok spfAnswers =>
      cases dmarc : txtStrings ("_dmarc." ++ domain) with
      | error message =>
          simp [checkEmailDns, emailAnswered, spf, dmarc, errorOutcome, Except.isOk, Except.toBool]
      | ok dmarcAnswers =>
          simp [checkEmailDns, emailAnswered, spf, dmarc, Except.isOk, Except.toBool]

end RssiService.Monitoring
