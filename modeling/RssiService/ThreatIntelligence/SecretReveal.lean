import RssiService.ThreatIntelligence.IdentifierDisclosure
import RssiService.ThreatIntelligence.RegistryAgreement

/-!
# The reveal of a secret

The one request that gives a stored password back in clear.  It is refused by a
ladder of conditions, and each refusal writes its own row; what stops a request
with an exception writes none.
-/

namespace RssiService.ThreatIntelligence

open Foundation Foundation.Run Python

/-! ## State -/

inductive DenialReason where
  | role
  | stepUp
  | noSecret
  | notFound
  deriving DecidableEq, Repr

/-- One attempt to reveal a secret, granted or denied, never the secret itself. -/
structure SecretRevealAudit where
  id : Nat
  tenant : Nat
  finding : Option Nat
  user : Nat
  success : Bool
  denialReason : Option DenialReason
  ipAddress : Option String
  userAgent : String
  createdAt : Nat
  deriving DecidableEq, Repr

instance : Identified SecretRevealAudit := ⟨SecretRevealAudit.id⟩

/-- The second factor of a user, its secret encrypted at rest. -/
structure TwoFactorCredential where
  id : Nat
  user : Nat
  encryptedSecret : String
  confirmed : Bool
  deriving DecidableEq, Repr

instance : Identified TwoFactorCredential := ⟨TwoFactorCredential.id⟩

structure RevealSite extends Workspace where
  credentials : Table TwoFactorCredential
  revealAudits : Table SecretRevealAudit

/-- The decryption with the configured keys; no bytes for an invalid token. -/
abbrev Fernet := String → Option ByteArray

/-- What a reveal rests on outside the application.  A missing or malformed key
leaves no decryption, and the one-time codes are those of the instant. -/
structure RevealBackend where
  fernet : Option Fernet
  totpFernet : Option Fernet
  checkPassword : Nat → String → Bool
  verifyTotp : String → String → Option Bool
  storesAddress : String → Bool

/-! ## Decryption -/

inductive DecryptError where
  | unreadable
  | undecodable
  deriving DecidableEq, Repr

/-- `fernet.decrypt(encrypted).decode()`: only the first failure becomes an error
of the application. -/
def decryptText (fernet : Option Fernet) (encrypted : String) : Except DecryptError String :=
  match fernet.bind fun decrypt => decrypt encrypted with
  | none => .error .unreadable
  | some bytes =>
      match String.fromUTF8? bytes with
      | none => .error .undecodable
      | some text => .ok text

def decryptSecret (backend : RevealBackend) (encrypted : String) : Except DecryptError String :=
  decryptText backend.fernet encrypted

def decryptTotpSecret (backend : RevealBackend) (encrypted : String) :
    Except DecryptError String :=
  decryptText backend.totpFernet encrypted

/-! ## The body of a request -/

/-- The body once parsed, or the status of the exception that parsing raised. -/
inductive RequestBody where
  | unreadable (status : Nat)
  | data (value : Json)

/-- The proofs of identity a request carries. -/
structure StepUp where
  password : String
  totpCode : String
  deriving DecidableEq, Repr

def cleanText (text : String) : Option String :=
  if (strip text).toList.contains (Char.ofNat 0) then none else some (strip text)

/-- A text field that may be missing or blank: texts and numbers are stripped,
anything else is invalid. -/
def charField : Option Json → Option String
  | none => some ""
  | some (.str text) => cleanText text
  | some (.int value) => cleanText (toString value)
  | some (.float text) => cleanText text
  | some _ => none

/-- At least one proof is required; `none` is a validation error. -/
def secretRevealRequest : Json → Option StepUp
  | .obj fields => do
      let password ← charField (fields.lookup "password")
      let totpCode ← charField (fields.lookup "totp_code")
      if password = "" ∧ totpCode = "" then none else some ⟨password, totpCode⟩
  | _ => none

def RequestBody.validated : RequestBody → Except Nat StepUp
  | .unreadable status => .error status
  | .data value =>
      match secretRevealRequest value with
      | none => .error 400
      | some stepUp => .ok stepUp

/-! ## The step-up -/

def RevealSite.getConfirmedCredential (site : RevealSite) (user : Nat) :
    Option TwoFactorCredential :=
  site.credentials.rows.find? fun credential => credential.user = user && credential.confirmed

/-- `none` is an exception. -/
def verifyTotpCode (backend : RevealBackend) (credential : TwoFactorCredential) (code : String) :
    Option Bool :=
  if code = "" then some false
  else
    match decryptTotpSecret backend credential.encryptedSecret with
    | .error _ => none
    | .ok secret => backend.verifyTotp secret code

/-- The password is checked when there is one, and the code only without it. -/
def verifyStepUp (backend : RevealBackend) (site : RevealSite) (user : Nat) (stepUp : StepUp) :
    Option Bool :=
  if stepUp.password ≠ "" then some (backend.checkPassword user stepUp.password)
  else if stepUp.totpCode ≠ "" then
    match site.getConfirmedCredential user with
    | none => some false
    | some credential => verifyTotpCode backend credential stepUp.totpCode
  else some false

/-! ## Requests -/

/-- A request of a member.  The framework may turn it away before the view, when
a throttle refuses it or no content can be negotiated. -/
structure RevealRequest where
  member : Membership
  isStaff : Bool
  forwardedFor : Option String
  remoteAddr : String
  userAgent : String
  turnedAway : Option Nat
  finding : Nat
  body : RequestBody

/-- The address the proxy forwards, or the one of the connection. -/
def RevealRequest.clientIp (request : RevealRequest) : String :=
  match request.forwardedFor.filter fun forwarded => forwarded ≠ "" with
  | some forwarded => strip (String.ofList ((splitChar ',' forwarded.toList).headD []))
  | none => request.remoteAddr

inductive RevealAnswer where
  | revealed (finding : Nat) (secret : String)
  | refused (status : Nat) (detail : String)
  | raised (status : Nat)
  deriving DecidableEq, Repr

/-- Trace an attempt; `none` is an address the database refuses. -/
def recordRevealAttempt (backend : RevealBackend) (site : RevealSite) (now : Nat)
    (request : RevealRequest) (finding : Option Nat) (success : Bool)
    (denialReason : Option DenialReason) : Option RevealSite :=
  let ipAddress := if request.clientIp = "" then none else some request.clientIp
  if ipAddress.all backend.storesAddress then
    some
      { site with
        revealAudits := site.revealAudits.create
          (fun key =>
            { id := key
              tenant := request.member.tenant
              finding
              user := request.member.user
              success
              denialReason
              ipAddress
              userAgent := takeChars request.userAgent 255
              createdAt := now })
          (fun _ => rfl) }
  else none

def deny (backend : RevealBackend) (site : RevealSite) (now : Nat) (request : RevealRequest)
    (denialReason : DenialReason) (finding : Option Nat) (status : Nat) (detail : String) :
    RevealSite × RevealAnswer :=
  match recordRevealAttempt backend site now request finding false (some denialReason) with
  | none => (site, .raised 500)
  | some after => (after, .refused status detail)

/-! ## The view -/

def RevealRequest.isAdminOrPlatformStaff (request : RevealRequest) : Bool :=
  request.member.role = .admin || request.isStaff

/-- The encrypted secret, empty when the finding has none. -/
def BreachFinding.encrypted (finding : BreachFinding) : String :=
  finding.secretEncrypted.getD ""

/-- Serve the secret of a finding, once the step-up has passed. -/
def revealSecret (backend : RevealBackend) (site : RevealSite) (now : Nat)
    (request : RevealRequest) (finding : BreachFinding) : RevealSite × RevealAnswer :=
  if !finding.hasSecret || finding.encrypted = "" then
    deny backend site now request .noSecret (some finding.id) 404
      "Aucun secret chiffré n'est disponible pour cette fuite."
  else
    match decryptSecret backend finding.encrypted with
    | .error .unreadable =>
        deny backend site now request .noSecret (some finding.id) 503
          ("Ce mot de passe est temporairement illisible. L'incident a été " ++
            "signalé à l'administrateur de la plateforme.")
    | .error .undecodable => (site, .raised 500)
    | .ok secret =>
        match recordRevealAttempt backend site now request (some finding.id) true none with
        | none => (site, .raised 500)
        | some after => (after, .revealed finding.id secret)

/-- Ask for a fresh proof of identity, whatever the session. -/
def confirmReveal (backend : RevealBackend) (site : RevealSite) (now : Nat)
    (request : RevealRequest) (finding : BreachFinding) : RevealSite × RevealAnswer :=
  match request.body.validated with
  | .error status => (site, .raised status)
  | .ok stepUp =>
      match verifyStepUp backend site request.member.user stepUp with
      | none => (site, .raised 500)
      | some false =>
          deny backend site now request .stepUp (some finding.id) 401
            "Ré-authentification invalide (mot de passe ou code incorrect)."
      | some true => revealSecret backend site now request finding

def post (backend : RevealBackend) (site : RevealSite) (now : Nat) (request : RevealRequest) :
    RevealSite × RevealAnswer :=
  if !request.isAdminOrPlatformStaff then
    deny backend site now request .role none 403
      ("Cette action nécessite le rôle administrateur sur l'entreprise " ++
        "(ou un accès administrateur plateforme).")
  else if !site.billing.hasFeature request.member.tenant Billing.secretReveal then
    deny backend site now request .role none 402
      ("La révélation de mot de passe n'est pas comprise dans votre offre" ++
        match site.billing.cheapestPlanWith Billing.secretReveal with
        | some plan => s!" ; elle est incluse à partir de l'offre {plan.name}."
        | none => ".")
  else
    match getFinding site.store request.member.tenant request.finding with
    | none => deny backend site now request .notFound none 404 "Fuite introuvable."
    | some finding => confirmReveal backend site now request finding

/-- The answer to a request of a member. -/
def breachFindingRevealView (backend : RevealBackend) (site : RevealSite) (now : Nat)
    (request : RevealRequest) : RevealSite × RevealAnswer :=
  match request.turnedAway with
  | some status => (site, .raised status)
  | none => post backend site now request

/-! ## The claimed accounting -/

def RevealAnswer.isRevealed : RevealAnswer → Bool
  | .revealed _ _ => true
  | .refused _ _ | .raised _ => false

def RevealAnswer.isRaised : RevealAnswer → Bool
  | .raised _ => true
  | .revealed _ _ | .refused _ _ => false

/-- One row was written for the request, successful exactly when the secret is
returned. -/
def Traced (site : RevealSite) (request : RevealRequest) (reply : RevealSite × RevealAnswer) :
    Prop :=
  ∃ row, reply.1.revealAudits.rows = site.revealAudits.rows ++ [row] ∧
    row.tenant = request.member.tenant ∧ row.user = request.member.user ∧
    row.success = reply.2.isRevealed

/-- A fresh proof of identity: the password of the user, or a code of its
confirmed second factor. -/
def ProvesIdentity (backend : RevealBackend) (site : RevealSite) (user : Nat) (stepUp : StepUp) :
    Prop :=
  (stepUp.password ≠ "" ∧ backend.checkPassword user stepUp.password = true) ∨
    (stepUp.totpCode ≠ "" ∧ ∃ credential ∈ site.credentials, credential.user = user ∧
      credential.confirmed = true ∧ ∃ secret,
        decryptTotpSecret backend credential.encryptedSecret = .ok secret ∧
          backend.verifyTotp secret stepUp.totpCode = some true)

/-- The cumulative conditions of a reveal. -/
structure MayReveal (backend : RevealBackend) (site : RevealSite) (request : RevealRequest)
    (finding : BreachFinding) (secret : String) : Prop where
  privileged : request.member.role = .admin ∨ request.isStaff = true
  offered : site.billing.hasFeature request.member.tenant Billing.secretReveal = true
  stored : finding ∈ site.store.findings
  asked : finding.id = request.finding
  owned : finding.tenant = request.member.tenant
  proven : ∃ stepUp, request.body.validated = .ok stepUp ∧
    ProvesIdentity backend site request.member.user stepUp
  available : finding.hasSecret = true
  decrypted : decryptSecret backend finding.encrypted = .ok secret

/-- A reply is accounted for: one row says what it was, and a returned secret met
every condition. -/
def RevealAccounted (backend : RevealBackend) (site : RevealSite) (request : RevealRequest)
    (reply : RevealSite × RevealAnswer) : Prop :=
  Traced site request reply ∧
    ∀ key secret, reply.2 = .revealed key secret →
      ∃ finding, finding.id = key ∧ MayReveal backend site request finding secret

/-! ## The condition -/

/-- The address of the request fits in a row. -/
def Recordable (backend : RevealBackend) (request : RevealRequest) : Prop :=
  request.clientIp = "" ∨ backend.storesAddress request.clientIp = true

/-- The finding a request gets to, past its role, the offer and its tenant. -/
def RevealSite.reached (site : RevealSite) (request : RevealRequest) : Option BreachFinding :=
  if request.isAdminOrPlatformStaff &&
      site.billing.hasFeature request.member.tenant Billing.secretReveal then
    getFinding site.store request.member.tenant request.finding
  else none

/-- The stored secret is a text, if it can be decrypted at all. -/
def Decodable (backend : RevealBackend) (finding : BreachFinding) : Prop :=
  finding.hasSecret = true → finding.encrypted ≠ "" →
    decryptSecret backend finding.encrypted ≠ .error .undecodable

/-- The body is valid, its proof can be checked, and a proof that passes meets a
decodable secret. -/
def Answerable (backend : RevealBackend) (site : RevealSite) (request : RevealRequest)
    (finding : BreachFinding) : Prop :=
  ∃ stepUp, request.body.validated = .ok stepUp ∧
    ∃ passes, verifyStepUp backend site request.member.user stepUp = some passes ∧
      (passes = true → Decodable backend finding)

/-- What a request needs to leave its row. -/
structure Handled (backend : RevealBackend) (site : RevealSite) (request : RevealRequest) :
    Prop where
  admitted : request.turnedAway = none
  recordable : Recordable backend request
  answerable : ∀ finding, site.reached request = some finding →
    Answerable backend site request finding

/-! ## Rows -/

section Rows

variable {backend : RevealBackend} {site after : RevealSite} {now : Nat}
  {request : RevealRequest} {finding : BreachFinding} {key : Option Nat} {success : Bool}
  {denialReason : Option DenialReason} {answer : RevealAnswer}

theorem recordRevealAttempt_eq_none_iff :
    recordRevealAttempt backend site now request key success denialReason = none ↔
      ¬ Recordable backend request := by
  rw [recordRevealAttempt, Recordable]
  by_cases unknown : request.clientIp = "" <;> simp [unknown]

theorem recordable_of_recorded
    (recorded :
      recordRevealAttempt backend site now request key success denialReason = some after) :
    Recordable backend request := by
  by_contra refused
  rw [recordRevealAttempt_eq_none_iff.mpr refused] at recorded
  cases recorded

theorem traced_of_recorded
    (recorded : recordRevealAttempt backend site now request key success denialReason = some after)
    (same : success = answer.isRevealed) : Traced site request (after, answer) := by
  simp only [recordRevealAttempt, Option.ite_none_right_eq_some, Option.some.injEq] at recorded
  obtain ⟨_, rfl⟩ := recorded
  exact ⟨_, rfl, rfl, rfl, same⟩

theorem not_traced_untouched : ¬ Traced site request (site, answer) := by
  rintro ⟨row, written, _⟩
  simp at written

/-- An exception leaves everything as it was, any other answer is traced. -/
def Settled (site : RevealSite) (request : RevealRequest) (reply : RevealSite × RevealAnswer) :
    Prop :=
  if reply.2.isRaised then reply.1 = site else Traced site request reply

theorem settled_raised {status : Nat} : Settled site request (site, .raised status) := rfl

theorem settled_deny {reason : DenialReason} {status : Nat} {detail : String} :
    Settled site request (deny backend site now request reason key status detail) := by
  rw [deny]
  split
  · exact settled_raised
  · rename_i recorded
    exact traced_of_recorded recorded rfl

theorem settled_revealSecret :
    Settled site request (revealSecret backend site now request finding) := by
  rw [revealSecret]
  split
  · exact settled_deny
  · split
    · exact settled_deny
    · exact settled_raised
    · split
      · exact settled_raised
      · rename_i recorded
        exact traced_of_recorded recorded rfl

theorem settled_confirmReveal :
    Settled site request (confirmReveal backend site now request finding) := by
  rw [confirmReveal]
  split
  · exact settled_raised
  · split
    · exact settled_raised
    · exact settled_deny
    · exact settled_revealSecret

theorem traced_iff_of_settled {reply : RevealSite × RevealAnswer}
    (settled : Settled site request reply) :
    Traced site request reply ↔ reply.2.isRaised = false := by
  rw [Settled] at settled
  split at settled
  · rename_i raised
    rw [raised]
    obtain ⟨reached, answer⟩ := reply
    cases settled
    exact iff_of_false not_traced_untouched Bool.true_eq_false.mp
  · rename_i answered
    exact iff_of_true settled (Bool.not_eq_true _ ▸ answered)

end Rows

/-! ## Exits -/

section Exits

variable {backend : RevealBackend} {site : RevealSite} {now : Nat}
  {request : RevealRequest} {finding : BreachFinding}

theorem deny_answers_iff {reason : DenialReason} {key : Option Nat} {status : Nat}
    {detail : String} :
    (deny backend site now request reason key status detail).2.isRaised = false ↔
      Recordable backend request := by
  rw [deny]
  split
  · rename_i refused
    exact iff_of_false (by rintro ⟨⟩) (recordRevealAttempt_eq_none_iff.mp refused)
  · rename_i recorded
    exact iff_of_true rfl (recordable_of_recorded recorded)

theorem revealSecret_answers_iff :
    (revealSecret backend site now request finding).2.isRaised = false ↔
      Recordable backend request ∧ Decodable backend finding := by
  rw [revealSecret, Decodable]
  split
  · rename_i absent
    rw [deny_answers_iff]
    refine (and_iff_left fun present stored => ?_).symm
    simp [present, stored] at absent
  · rename_i present
    obtain ⟨has, stored⟩ : finding.hasSecret = true ∧ finding.encrypted ≠ "" := by
      simpa using present
    split
    · rename_i unreadable
      rw [deny_answers_iff, unreadable]
      exact (and_iff_left fun _ _ => (by rintro ⟨⟩)).symm
    · rename_i undecodable
      exact iff_of_false (by rintro ⟨⟩) fun both => both.2 has stored undecodable
    · rename_i secret decrypted
      rw [decrypted]
      split
      · rename_i refused
        exact iff_of_false (by rintro ⟨⟩) fun both => recordRevealAttempt_eq_none_iff.mp refused both.1
      · rename_i recorded
        exact iff_of_true rfl ⟨recordable_of_recorded recorded, fun _ _ => (by rintro ⟨⟩)⟩

theorem confirmReveal_answers_iff :
    (confirmReveal backend site now request finding).2.isRaised = false ↔
      Recordable backend request ∧ Answerable backend site request finding := by
  rw [confirmReveal, Answerable]
  split
  · rename_i invalid
    rw [invalid]
    refine iff_of_false (by rintro ⟨⟩) ?_
    rintro ⟨_, stepUp, valid, _⟩
    cases valid
  · rename_i stepUp valid
    simp only [valid, Except.ok.injEq, exists_eq_left']
    split
    · rename_i unchecked
      refine iff_of_false (by rintro ⟨⟩) ?_
      rintro ⟨_, passes, checked, _⟩
      rw [unchecked] at checked
      cases checked
    · rename_i failed
      rw [deny_answers_iff, failed]
      exact (and_iff_left ⟨false, rfl, (by rintro ⟨⟩)⟩).symm
    · rename_i passed
      rw [revealSecret_answers_iff, passed]
      simp

/-! ### The view -/

theorem reached_eq_some_iff :
    site.reached request = some finding ↔
      (request.member.role = .admin ∨ request.isStaff = true) ∧
        site.billing.hasFeature request.member.tenant Billing.secretReveal = true ∧
        getFinding site.store request.member.tenant request.finding = some finding := by
  simp [RevealSite.reached, RevealRequest.isAdminOrPlatformStaff, and_assoc]

theorem post_of_reached (reached : site.reached request = some finding) :
    post backend site now request = confirmReveal backend site now request finding := by
  obtain ⟨privileged, offered, found⟩ := reached_eq_some_iff.mp reached
  have entered : request.isAdminOrPlatformStaff = true := by
    simpa [RevealRequest.isAdminOrPlatformStaff] using privileged
  rw [post, entered, offered, found]
  rfl

/-- What does not get to a finding is denied. -/
theorem post_of_unreached (unreached : site.reached request = none) :
    ∃ reason status detail,
      post backend site now request = deny backend site now request reason none status detail := by
  rw [RevealSite.reached] at unreached
  rw [post]
  split
  · exact ⟨_, _, _, rfl⟩
  · rename_i privileged
    split
    · exact ⟨_, _, _, rfl⟩
    · rename_i offered
      rw [if_pos (by simpa using And.intro privileged offered)] at unreached
      rw [unreached]
      exact ⟨_, _, _, rfl⟩

/-- Every exit of the view writes its row or is an exception. -/
theorem settled_view :
    Settled site request (breachFindingRevealView backend site now request) := by
  rw [breachFindingRevealView]
  split
  · exact settled_raised
  · cases reached : site.reached request with
    | none =>
        obtain ⟨reason, status, detail, denied⟩ := post_of_unreached reached
        rw [denied]
        exact settled_deny
    | some finding =>
        rw [post_of_reached reached]
        exact settled_confirmReveal

/-- The exceptions of the view are the requests its condition leaves out. -/
theorem view_answers_iff :
    (breachFindingRevealView backend site now request).2.isRaised = false ↔
      Handled backend site request := by
  rw [breachFindingRevealView]
  split
  · rename_i status turned
    refine iff_of_false (by rintro ⟨⟩) fun handled => ?_
    rw [handled.admitted] at turned
    cases turned
  · rename_i entered
    cases reached : site.reached request with
    | none =>
        obtain ⟨reason, status, detail, denied⟩ := post_of_unreached reached
        rw [denied, deny_answers_iff]
        constructor
        · intro recordable
          refine ⟨entered, recordable, fun finding found => ?_⟩
          rw [reached] at found
          cases found
        · exact Handled.recordable
    | some finding =>
        rw [post_of_reached reached, confirmReveal_answers_iff]
        constructor
        · rintro ⟨recordable, answerable⟩
          refine ⟨entered, recordable, fun other found => ?_⟩
          rw [reached] at found
          cases found
          exact answerable
        · intro handled
          exact ⟨handled.recordable, handled.answerable finding reached⟩

end Exits

/-! ## The cumulative conditions -/

section Conditions

variable {backend : RevealBackend} {site : RevealSite} {now key : Nat}
  {request : RevealRequest} {finding : BreachFinding} {secret : String}

theorem deny_ne_revealed {reason : DenialReason} {found : Option Nat} {status : Nat}
    {detail : String} :
    (deny backend site now request reason found status detail).2 ≠ .revealed key secret := by
  rw [deny]
  split <;> rintro ⟨⟩

theorem provesIdentity_of_verifyStepUp {user : Nat} {stepUp : StepUp}
    (passed : verifyStepUp backend site user stepUp = some true) :
    ProvesIdentity backend site user stepUp := by
  rw [verifyStepUp] at passed
  split at passed
  · rename_i given
    exact Or.inl ⟨given, Option.some.inj passed⟩
  · split at passed
    · rename_i given
      split at passed
      · cases passed
      · rename_i credential found
        rw [verifyTotpCode, if_neg given] at passed
        split at passed
        · cases passed
        · rename_i secret decrypted
          have selected := List.find?_some found
          rw [Bool.and_eq_true, decide_eq_true_eq] at selected
          exact Or.inr ⟨given, credential, List.mem_of_find?_eq_some found, selected.1,
            selected.2, secret, decrypted, passed⟩
    · cases passed

theorem revealSecret_eq_revealed
    (revealed : (revealSecret backend site now request finding).2 = .revealed key secret) :
    finding.id = key ∧ finding.hasSecret = true ∧
      decryptSecret backend finding.encrypted = .ok secret := by
  rw [revealSecret] at revealed
  split at revealed
  · exact absurd revealed deny_ne_revealed
  · rename_i present
    split at revealed
    · exact absurd revealed deny_ne_revealed
    · cases revealed
    · rename_i decrypted
      split at revealed
      · cases revealed
      · cases revealed
        exact ⟨rfl, by simp_all, decrypted⟩

theorem confirmReveal_eq_revealed
    (revealed : (confirmReveal backend site now request finding).2 = .revealed key secret) :
    (revealSecret backend site now request finding).2 = .revealed key secret ∧
      ∃ stepUp, request.body.validated = .ok stepUp ∧
        ProvesIdentity backend site request.member.user stepUp := by
  rw [confirmReveal] at revealed
  split at revealed
  · cases revealed
  · rename_i stepUp valid
    split at revealed
    · cases revealed
    · exact absurd revealed deny_ne_revealed
    · rename_i passed
      exact ⟨revealed, stepUp, valid, provesIdentity_of_verifyStepUp passed⟩

/-- A secret leaves only when every condition of its reveal is met. -/
theorem mayReveal_of_revealed
    (revealed : (breachFindingRevealView backend site now request).2 = .revealed key secret) :
    ∃ finding, finding.id = key ∧ MayReveal backend site request finding secret := by
  rw [breachFindingRevealView] at revealed
  split at revealed
  · cases revealed
  · cases reached : site.reached request with
    | none =>
        obtain ⟨reason, status, detail, denied⟩ := post_of_unreached reached
        rw [denied] at revealed
        exact absurd revealed deny_ne_revealed
    | some finding =>
        rw [post_of_reached reached] at revealed
        obtain ⟨served, proven⟩ := confirmReveal_eq_revealed revealed
        obtain ⟨same, available, decrypted⟩ := revealSecret_eq_revealed served
        obtain ⟨privileged, offered, found⟩ := reached_eq_some_iff.mp reached
        obtain ⟨known, owned⟩ := Option.filter_eq_some_iff.mp found
        obtain ⟨stored, asked⟩ := Table.find?_eq_some_iff.mp known
        exact ⟨finding, same,
          { privileged, offered, stored, asked
            owned := of_decide_eq_true owned
            proven, available, decrypted }⟩

end Conditions

/-! ## Every request -/

/-- A request is accounted for if and only if no exception meets it. -/
theorem reveal_accounted_iff (backend : RevealBackend) (site : RevealSite) (now : Nat)
    (request : RevealRequest) :
    RevealAccounted backend site request (breachFindingRevealView backend site now request) ↔
      Handled backend site request := by
  rw [RevealAccounted, traced_iff_of_settled settled_view, view_answers_iff]
  exact and_iff_left fun key secret revealed => mayReveal_of_revealed revealed

/-! ## Runs -/

/-- A reveal request, or anything else the application does: it leaves the
journal of the reveals alone. -/
inductive RevealEvent where
  | request (backend : RevealBackend) (now : Nat) (request : RevealRequest)
  | elsewhere (workspace : Workspace) (credentials : Table TwoFactorCredential)

def revealStep (site : RevealSite) : RevealEvent → RevealSite
  | .request backend now request => (breachFindingRevealView backend site now request).1
  | .elsewhere workspace credentials => { site with toWorkspace := workspace, credentials }

/-- The answers to the requests of a run, in order. -/
def revealAnswers : RevealSite → List RevealEvent → List RevealAnswer
  | _, [] => []
  | site, .request backend now request :: rest =>
      (breachFindingRevealView backend site now request).2 ::
        revealAnswers (revealStep site (.request backend now request)) rest
  | site, .elsewhere workspace credentials :: rest =>
      revealAnswers (revealStep site (.elsewhere workspace credentials)) rest

def HandledStep (site : RevealSite) : RevealEvent → Prop
  | .request backend _ request => Handled backend site request
  | .elsewhere _ _ => True

/-- What the journal says of each attempt. -/
def RevealSite.journal (site : RevealSite) : List Bool :=
  site.revealAudits.rows.map SecretRevealAudit.success

section Runs

variable {site : RevealSite} {events : List RevealEvent}

theorem journal_view {backend : RevealBackend} {now : Nat} {request : RevealRequest} :
    (revealStep site (.request backend now request)).journal =
      site.journal ++
        ([(breachFindingRevealView backend site now request).2].filter
          fun answer => !answer.isRaised).map RevealAnswer.isRevealed := by
  have settled : Settled site request (breachFindingRevealView backend site now request) :=
    settled_view
  rw [Settled] at settled
  rw [RevealSite.journal, revealStep]
  split at settled
  · rename_i raised
    simp [raised, settled, RevealSite.journal]
  · rename_i answered
    obtain ⟨row, written, _, _, success⟩ := settled
    simp [written, success, answered, RevealSite.journal]

/-- The journal of a run: the answers that are no exception, in order. -/
theorem journal_after :
    (after revealStep site events).journal =
      site.journal ++ ((revealAnswers site events).filter
        fun answer => !answer.isRaised).map RevealAnswer.isRevealed := by
  induction events generalizing site with
  | nil => simp [revealAnswers]
  | cons event rest ih =>
      rw [after_cons, ih]
      cases event with
      | request backend now request =>
          rw [journal_view, revealAnswers, ← List.singleton_append (l := revealAnswers _ rest),
            List.filter_append, List.map_append, List.append_assoc]
      | elsewhere workspace credentials => rfl

theorem answered_iff_eachStep :
    (∀ answer ∈ revealAnswers site events, answer.isRaised = false) ↔
      EachStep revealStep HandledStep site events := by
  induction events generalizing site with
  | nil => simp [revealAnswers, EachStep]
  | cons event rest ih =>
      cases event with
      | request backend now request =>
          rw [revealAnswers, List.forall_mem_cons, view_answers_iff, ih]
          rfl
      | elsewhere workspace credentials =>
          rw [revealAnswers, ih, EachStep]
          exact (and_iff_right trivial).symm

end Runs

/-! ## A request without a proof -/

section Untraced

/-- An administrator of a tenant whose offer has the reveal, and one finding. -/
def revealingSite : RevealSite :=
  { acmePortal.toWorkspace with
    billing :=
      { acmeBilling with
        plans := acmeBilling.plans.modify 0
          (fun plan => { plan with features := [Billing.secretReveal] }) (fun _ => rfl) }
    credentials := Table.empty
    revealAudits := Table.empty }

def revealingBackend : RevealBackend :=
  { fernet := none
    totpFernet := none
    checkPassword := fun _ password => password = "Str0ng!Passw0rd123"
    verifyTotp := fun _ _ => some false
    storesAddress := fun _ => true }

/-- A request of an administrator with an empty body. -/
def emptyReveal : RevealRequest :=
  { member := { contributor with role := .admin }
    isStaff := false
    forwardedFor := none
    remoteAddr := "192.0.2.1"
    userAgent := ""
    turnedAway := none
    finding := 0
    body := .data (.obj []) }

/-- A request without any proof of identity is refused and leaves no row. -/
theorem empty_reveal_untraced :
    ¬ ∀ backend site now request,
      RevealAccounted backend site request (breachFindingRevealView backend site now request) := by
  intro all
  obtain ⟨⟨row, written, _⟩, _⟩ := all revealingBackend revealingSite 20 emptyReveal
  have unwritten : (breachFindingRevealView revealingBackend revealingSite 20
      emptyReveal).1.revealAudits.rows = [] := by
    decide +kernel
  rw [unwritten] at written
  cases written

end Untraced

end RssiService.ThreatIntelligence
