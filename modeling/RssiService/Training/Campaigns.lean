import RssiService.Training.Quiz
import RssiService.Training.Studio

/-!
# Campaigns

A company enrols its employees, who receive a personal link, and reminds them of the
courses they have not finished.  A link is replaced by each reminder, since only the
hash of its token is kept.
-/

namespace RssiService.Training

open Foundation Python

/-! ## Rows -/

structure Learner where
  id : Nat
  tenant : Nat
  fullName : String
  email : String
  isActive : Bool
  createdBy : Option Nat
  deriving DecidableEq, Repr

structure CourseAssignment where
  id : Nat
  tenant : Nat
  course : Nat
  deriving DecidableEq, Repr

/-- An enrolment, its link, and what the employee has done of the course. -/
structure Inscription where
  id : Nat
  tenant : Nat
  learner : Nat
  version : Nat
  dueDate : Nat
  tokenHash : String
  tokenIssuedAt : Nat
  firstOpenedAt : Option Nat
  revokedAt : Option Nat
  revokedBy : Option Nat
  createdBy : Option Nat
  createdAt : Nat
  parcours : Enrollment

structure ReminderPolicy where
  id : Nat
  tenant : Nat
  enabled : Bool
  midCourse : Bool
  beforeDueDays : Nat
  afterDueDays : Nat
  updatedBy : Option Nat
  deriving DecidableEq, Repr

namespace ReminderLog

inductive Kind where
  | mid
  | before
  | after
  deriving DecidableEq, Repr

instance (P : Kind → Prop) [DecidablePred P] : Decidable (∀ kind, P kind) :=
  decidable_of_iff (P .mid ∧ P .before ∧ P .after)
    ⟨fun each kind => match kind with
      | .mid => each.1
      | .before => each.2.1
      | .after => each.2.2, fun each => ⟨each .mid, each .before, each .after⟩⟩

end ReminderLog

structure ReminderLog where
  id : Nat
  tenant : Nat
  enrollment : Nat
  kind : ReminderLog.Kind
  sentAt : Nat
  deriving DecidableEq, Repr

instance : Identified Learner := ⟨Learner.id⟩
instance : Identified CourseAssignment := ⟨CourseAssignment.id⟩
instance : Identified Inscription := ⟨Inscription.id⟩
instance : Identified ReminderPolicy := ⟨ReminderPolicy.id⟩
instance : Identified ReminderLog := ⟨ReminderLog.id⟩

inductive Message where
  | invitation
  | relance (kind : ReminderLog.Kind)
  deriving DecidableEq, Repr

/-- A mail with a link, as it was delivered. -/
structure Mail where
  inscription : Nat
  learner : Nat
  message : Message
  jeton : String
  sentAt : Nat
  deriving DecidableEq, Repr

/-- A token that was issued for an enrolment. -/
structure Issue where
  inscription : Nat
  tenant : Nat
  jeton : String
  deriving DecidableEq, Repr

/-- The tables, and what has left the server: the tokens, the last one first, and the
mails. -/
structure TrainingSite where
  library : Library
  learners : Table Learner
  assignments : Table CourseAssignment
  inscriptions : Table Inscription
  policies : Table ReminderPolicy
  reminders : Table ReminderLog
  issued : List Issue
  mails : List Mail

/-- What the application takes from its libraries and its settings. -/
structure TrainingRuntime where
  hacher : String → String
  /-- The last second of a day, in the time zone of the application. -/
  endOfDay : Nat → Nat
  formatDate : Nat → String
  tenantName : Nat → String

inductive TrainingFailure where
  | sessionIntrouvable (message : String)
  | inscriptionRefusee (message : String)
  | database
  | mail
  deriving DecidableEq, Repr

/-! ## Days and links -/

/-- The day of an instant, as `datetime.date` reads it. -/
def dateOf (now : Nat) : Nat := now / 86400

def margeApresEcheanceJours : Nat := 7

namespace Inscription

def isRevoked (inscription : Inscription) : Bool := inscription.revokedAt.isSome

def expiresAt (runtime : TrainingRuntime) (inscription : Inscription) : Nat :=
  runtime.endOfDay (inscription.dueDate + margeApresEcheanceJours)

def isExpired (runtime : TrainingRuntime) (now : Nat) (inscription : Inscription) : Bool :=
  inscription.expiresAt runtime < now

/-- The employee has a certificate. -/
def aTermine (inscription : Inscription) : Bool := !inscription.parcours.certificates.rows.isEmpty

def withLink (hash : String) (now : Nat) (inscription : Inscription) : Inscription :=
  { inscription with tokenHash := hash, tokenIssuedAt := now }

theorem ident_withLink (hash : String) (now : Nat) (inscription : Inscription) :
    ident (inscription.withLink hash now) = ident inscription := rfl

end Inscription

namespace TrainingSite

def learnerActive (site : TrainingSite) (learner : Nat) : Bool :=
  (site.learners.find? learner).any Learner.isActive

def isUsable (runtime : TrainingRuntime) (site : TrainingSite) (now : Nat)
    (inscription : Inscription) : Bool :=
  !inscription.isRevoked && !inscription.isExpired runtime now &&
    site.learnerActive inscription.learner

/-- The enrolment that a token designates, as it is found. -/
def designated (runtime : TrainingRuntime) (site : TrainingSite) (jeton : String) :
    Option Inscription :=
  site.inscriptions.rows.find? fun row => row.tokenHash = runtime.hacher jeton

/-- The enrolment of a token, which is opened. -/
def resoudreSession (runtime : TrainingRuntime) (site : TrainingSite) (jeton : String)
    (now : Nat) : Except TrainingFailure (TrainingSite × Inscription) :=
  if jeton = "" then .error (.sessionIntrouvable "Ce lien n'est pas valable.")
  else
    match site.designated runtime jeton with
    | none => .error (.sessionIntrouvable "Ce lien n'est plus valable.")
    | some inscription =>
        if site.isUsable runtime now inscription then
          .ok ({ site with
            inscriptions := site.inscriptions.modify inscription.id
              (fun row => { row with firstOpenedAt := row.firstOpenedAt <|> some now })
              fun _ => rfl },
            { inscription with firstOpenedAt := inscription.firstOpenedAt <|> some now })
        else .error (.sessionIntrouvable "Ce lien n'est plus valable.")

/-! ## Enrolments -/

/-- The hash of a token is that of an enrolment other than this one. -/
def hashTaken (site : TrainingSite) (hash : String) (except : Option Nat) : Bool :=
  site.inscriptions.rows.any fun row => row.tokenHash = hash && some row.id != except

/-- Enrol an employee in the version of a course that is published, unless there is an
enrolment that lives. -/
def inscrire (runtime : TrainingRuntime) (site : TrainingSite) (tenant : Nat) (learner : Learner)
    (course : Course) (dueDate : Nat) (actor : Option Nat) (jeton : String) (now : Nat) :
    Except TrainingFailure (TrainingSite × Nat) :=
  if !learner.isActive then
    .error (.inscriptionRefusee
      (learner.fullName ++ " n'est plus actif : réactivez-le avant de l'inscrire."))
  else if !site.assignments.rows.any fun row => row.tenant = tenant && row.course = course.id then
    .error (.inscriptionRefusee "Ce cours n'est pas proposé à votre entreprise.")
  else
    match site.library.publishedVersion course.id with
    | none => .error (.inscriptionRefusee "Ce cours n'a pas encore de version publiée.")
    | some version =>
        match site.inscriptions.rows.find? fun row => row.tenant = tenant &&
            row.learner = learner.id && row.version = version.id && !row.isRevoked with
        | some deja =>
            .error (.inscriptionRefusee (learner.fullName ++ " est déjà inscrit à « " ++
              course.title ++ " » jusqu'au " ++ runtime.formatDate deja.dueDate ++ "."))
        | none =>
            if site.hashTaken (runtime.hacher jeton) none then .error .database
            else
              .ok ({ site with
                inscriptions := site.inscriptions.create (fun key =>
                  { id := key, tenant, learner := learner.id, version := version.id, dueDate
                    tokenHash := runtime.hacher jeton, tokenIssuedAt := now, firstOpenedAt := none
                    revokedAt := none, revokedBy := none, createdBy := actor, createdAt := now
                    parcours :=
                      { version, courseTitle := course.title, learnerName := learner.fullName
                        companyName := runtime.tenantName tenant, extraAttempts := 0
                        attemptsGrantedBy := none, attemptsGrantedAt := none, seen := []
                        attempts := .empty, certificates := .empty } }) fun _ => rfl
                issued := ⟨site.inscriptions.next, tenant, jeton⟩ :: site.issued },
                site.inscriptions.next)

/-- The new link of an enrolment; the former one stops working at once. -/
def renouvelerLeLien (runtime : TrainingRuntime) (site : TrainingSite) (inscription : Inscription)
    (jeton : String) (now : Nat) : Except TrainingFailure TrainingSite :=
  if inscription.isRevoked then
    .error (.inscriptionRefusee "Cet accès a été retiré ; il ne peut pas être renouvelé.")
  else if site.hashTaken (runtime.hacher jeton) (some inscription.id) ||
      (site.inscriptions.find? inscription.id).isNone then .error .database
  else
    .ok { site with
      inscriptions := site.inscriptions.modify inscription.id
        (Inscription.withLink (runtime.hacher jeton) now) (Inscription.ident_withLink _ now)
      issued := ⟨inscription.id, inscription.tenant, jeton⟩ :: site.issued }

def revoquer (site : TrainingSite) (inscription : Inscription) (actor : Option Nat) (now : Nat) :
    TrainingSite :=
  if inscription.isRevoked then site
  else
    { site with
      inscriptions := site.inscriptions.modify inscription.id
        (fun row => { row with revokedAt := some now, revokedBy := actor }) fun _ => rfl }

def envoyer (site : TrainingSite) (inscription learner : Nat) (message : Message) (jeton : String)
    (now : Nat) : TrainingSite :=
  { site with mails := site.mails ++ [⟨inscription, learner, message, jeton, now⟩] }

/-- Enrol and invite; where the invitation is not sent, there is no enrolment. -/
def inscrireEtInviter (runtime : TrainingRuntime) (site : TrainingSite) (tenant : Nat)
    (learner : Learner) (course : Course) (dueDate : Nat) (actor : Option Nat) (jeton : String)
    (mailed : Bool) (now : Nat) : Except TrainingFailure TrainingSite := do
  let (enrolled, inscription) ←
    site.inscrire runtime tenant learner course dueDate actor jeton now
  if mailed then return enrolled.envoyer inscription learner.id .invitation jeton now
  else throw .mail

/-! ## Reminders -/

def politiqueDe (site : TrainingSite) (tenant : Nat) : Option ReminderPolicy :=
  site.policies.rows.find? fun row => row.tenant = tenant

/-- The policy of a company, which is created with the values by default. -/
def politique (site : TrainingSite) (tenant : Nat) : Table ReminderPolicy × ReminderPolicy :=
  match site.politiqueDe tenant with
  | some existante => (site.policies, existante)
  | none =>
      (site.policies.create (fun key => ⟨key, tenant, true, true, 3, 2, none⟩) fun _ => rfl,
        ⟨site.policies.next, tenant, true, true, 3, 2, none⟩)

def reglerLaPolitique (site : TrainingSite) (tenant : Nat) (enabled midCourse : Option Bool)
    (beforeDueDays afterDueDays : Option Nat) (actor : Option Nat) : TrainingSite :=
  let (policies, reglage) := site.politique tenant
  { site with
    policies := policies.modify reglage.id (fun row =>
      { row with
        enabled := enabled.getD reglage.enabled
        midCourse := midCourse.getD reglage.midCourse
        beforeDueDays := beforeDueDays.getD reglage.beforeDueDays
        afterDueDays := afterDueDays.getD reglage.afterDueDays
        updatedBy := actor }) fun _ => rfl }

/-- The day from which a reminder is due has come.  Without a policy, the values by
default of the model hold. -/
def jourVenu (reglage : Option ReminderPolicy) (inscription : Inscription) (today : Nat) :
    ReminderLog.Kind → Bool
  | .mid =>
      let debut := dateOf inscription.createdAt
      debut + max 1 ((inscription.dueDate - debut) / 2) ≤ today
  | .before => inscription.dueDate ≤ today + (reglage.map ReminderPolicy.beforeDueDays).getD 3
  | .after => inscription.dueDate + (reglage.map ReminderPolicy.afterDueDays).getD 2 ≤ today

/-- The company wants reminders of this kind. -/
def actif (reglage : Option ReminderPolicy) : ReminderLog.Kind → Bool
  | .mid => (reglage.map ReminderPolicy.midCourse).getD true
  | .before => 0 < (reglage.map ReminderPolicy.beforeDueDays).getD 3
  | .after => 0 < (reglage.map ReminderPolicy.afterDueDays).getD 2

def dejaEnvoyee (site : TrainingSite) (inscription : Nat) (kind : ReminderLog.Kind) : Bool :=
  site.reminders.rows.any fun row => row.enrollment = inscription && row.kind = kind

/-- The enrolment may be reminded: its link works and the course is not finished. -/
def relancable (runtime : TrainingRuntime) (site : TrainingSite) (now : Nat)
    (inscription : Inscription) : Bool :=
  (site.politiqueDe inscription.tenant).all ReminderPolicy.enabled &&
    site.isUsable runtime now inscription && !inscription.aTermine

/-- A reminder of this kind has come due and has not been sent. -/
def aEnvoyer (site : TrainingSite) (now : Nat) (inscription : Inscription)
    (kind : ReminderLog.Kind) : Bool :=
  let reglage := site.politiqueDe inscription.tenant
  !site.dejaEnvoyee inscription.id kind && actif reglage kind &&
    jourVenu reglage inscription (dateOf now) kind

/-- The first kind to send, the last moment first. -/
def natureDuJour (runtime : TrainingRuntime) (site : TrainingSite) (now : Nat)
    (inscription : Inscription) : Option ReminderLog.Kind :=
  if site.relancable runtime now inscription then
    [.after, .before, .mid].find? (site.aEnvoyer now inscription)
  else none

/-- What there is to send, the last enrolments first. -/
def relancesDuJour (runtime : TrainingRuntime) (site : TrainingSite) (now : Nat) :
    List (Inscription × ReminderLog.Kind) :=
  (site.inscriptions.rows.insertionSort fun first second =>
    second.createdAt ≤ first.createdAt).filterMap fun inscription =>
      (site.natureDuJour runtime now inscription).map fun kind => (inscription, kind)

/-- Where the sending of a reminder fails. -/
inductive FailurePoint where
  | renewal
  | mail
  | log
  deriving DecidableEq, Repr

def journaliser (site : TrainingSite) (inscription : Inscription) (kind : ReminderLog.Kind)
    (now : Nat) : TrainingSite :=
  { site with
    reminders := site.reminders.create (fun key =>
      ⟨key, inscription.tenant, inscription.id, kind, now⟩) fun _ => rfl }

/-- One reminder: a new link, the mail, then the log.  The second part says whether the
loop goes on. -/
def envoyerUneRelance (runtime : TrainingRuntime) (site : TrainingSite) (now : Nat)
    (jeton : String) (failure : Option FailurePoint) (inscription : Inscription)
    (kind : ReminderLog.Kind) : TrainingSite × Bool :=
  match site.renouvelerLeLien runtime inscription jeton now with
  | .error _ => (site, false)
  | .ok renewed =>
      let mailed := renewed.envoyer inscription.id inscription.learner (.relance kind) jeton now
      match failure with
      | some .renewal => (site, false)
      | some .mail => (renewed, false)
      | some .log => (mailed, false)
      | none =>
          if mailed.dejaEnvoyee inscription.id kind then (mailed, false)
          else (mailed.journaliser inscription kind now, true)

/-- The loop over the reminders, up to the first failure. -/
def envoyerToutes (runtime : TrainingRuntime) (now : Nat) (jetons : Nat → String)
    (failures : Nat → Option FailurePoint) :
    Nat → List (Inscription × ReminderLog.Kind) → TrainingSite → TrainingSite
  | _, [], site => site
  | rank, (inscription, kind) :: rest, site =>
      match site.envoyerUneRelance runtime now (jetons rank) (failures rank) inscription kind with
      | (sent, true) => envoyerToutes runtime now jetons failures (rank + 1) rest sent
      | (failed, false) => failed

/-- One run of the task. -/
def envoyerLesRelances (runtime : TrainingRuntime) (site : TrainingSite) (now : Nat)
    (jetons : Nat → String) (failures : Nat → Option FailurePoint) : TrainingSite :=
  envoyerToutes runtime now jetons failures 0 (site.relancesDuJour runtime now) site

/-! ## Courses followed -/

/-- An enrolment as the course is followed: with the present version and labels. -/
def parcoursDe (runtime : TrainingRuntime) (site : TrainingSite) (inscription : Inscription) :
    Enrollment :=
  { inscription.parcours with
    version := (site.library.versions.find? inscription.version).getD inscription.parcours.version
    courseTitle := ((site.library.versions.find? inscription.version).bind fun version =>
      (site.library.courses.find? version.course).map Course.title).getD
        inscription.parcours.courseTitle
    learnerName := ((site.learners.find? inscription.learner).map Learner.fullName).getD
      inscription.parcours.learnerName
    companyName := runtime.tenantName inscription.tenant }

/-- The employee, or the company, does something about the course of an enrolment. -/
def suivre (runtime : TrainingRuntime) (site : TrainingSite) (inscription : Inscription)
    (event : QuizEvent) : TrainingSite :=
  let career := quizStep site.library ⟨site.parcoursDe runtime inscription, 0⟩ event
  { site with
    inscriptions := site.inscriptions.modify inscription.id
      (fun row => { row with parcours := career.enrollment }) fun _ => rfl }

end TrainingSite

/-! ## Runs -/

/-- What happens in the campaigns.  The studio and the assignments may change the
catalogue in any way. -/
inductive CampaignEvent where
  | inscrire (tenant learner course dueDate : Nat) (actor : Option Nat) (jeton : String)
      (mailed : Bool) (now : Nat)
  | renouveler (tenant inscription : Nat) (jeton : String) (now : Nat)
  | revoquer (tenant inscription : Nat) (actor : Option Nat) (now : Nat)
  | activer (learner : Nat) (active : Bool)
  | regler (tenant : Nat) (enabled midCourse : Option Bool)
      (beforeDueDays afterDueDays : Option Nat) (actor : Option Nat)
  | relancer (now : Nat) (jetons : Nat → String) (failures : Nat → Option TrainingSite.FailurePoint)
  | ouvrir (jeton : String) (now : Nat)
  | suivre (tenant inscription : Nat) (event : QuizEvent)
  | cataloguer (library : Library) (assignments : Table CourseAssignment)

def CampaignEvent.isReminders : CampaignEvent → Bool
  | .relancer .. => true
  | _ => false

def CampaignEvent.isRenewal : CampaignEvent → Bool
  | .renouveler .. => true
  | _ => false

def CampaignEvent.isCatalogue : CampaignEvent → Bool
  | .cataloguer .. => true
  | _ => false

/-- The event may issue tokens. -/
def CampaignEvent.issues : CampaignEvent → Bool
  | .inscrire .. | .renouveler .. | .relancer .. => true
  | _ => false

namespace TrainingSite

/-- The enrolment of a company, by its key. -/
def inscriptionDe (site : TrainingSite) (tenant inscription : Nat) : Option Inscription :=
  (site.inscriptions.find? inscription).filter fun row => row.tenant = tenant

/-- What is refused changes nothing. -/
def step (runtime : TrainingRuntime) (site : TrainingSite) : CampaignEvent → TrainingSite
  | .inscrire tenant learner course dueDate actor jeton mailed now =>
      match (site.learners.find? learner).filter fun row => row.tenant = tenant,
          site.library.courses.find? course with
      | some salarie, some cours =>
          match site.inscrireEtInviter runtime tenant salarie cours dueDate actor jeton mailed
              now with
          | .ok enrolled => enrolled
          | .error _ => site
      | _, _ => site
  | .renouveler tenant inscription jeton now =>
      match site.inscriptionDe tenant inscription with
      | none => site
      | some row =>
          match site.renouvelerLeLien runtime row jeton now with
          | .ok renewed => renewed
          | .error _ => site
  | .revoquer tenant inscription actor now =>
      match site.inscriptionDe tenant inscription with
      | none => site
      | some row => site.revoquer row actor now
  | .activer learner active =>
      { site with
        learners := site.learners.modify learner (fun row => { row with isActive := active })
          fun _ => rfl }
  | .regler tenant enabled midCourse beforeDueDays afterDueDays actor =>
      site.reglerLaPolitique tenant enabled midCourse beforeDueDays afterDueDays actor
  | .relancer now jetons failures => site.envoyerLesRelances runtime now jetons failures
  | .ouvrir jeton now =>
      match site.resoudreSession runtime jeton now with
      | .ok (opened, _) => opened
      | .error _ => site
  | .suivre tenant inscription event =>
      match site.inscriptionDe tenant inscription with
      | none => site
      | some row => site.suivre runtime row event
  | .cataloguer library assignments => { site with library, assignments }

/-! ## What the operations do -/

section Effects

variable {runtime : TrainingRuntime} {site after : TrainingSite} {inscription : Inscription}
  {kind : ReminderLog.Kind} {jeton : String} {now : Nat}

/-- The enrolments are the same but for what is not the link or the company. -/
structure SameLinks (before after : TrainingSite) : Prop where
  issued : after.issued = before.issued
  next : after.inscriptions.next = before.inscriptions.next
  kept : ∀ row ∈ after.inscriptions, ∃ source ∈ before.inscriptions,
    source.id = row.id ∧ source.tenant = row.tenant ∧ source.tokenHash = row.tokenHash

theorem SameLinks.of_inscriptions (issued : after.issued = site.issued)
    (inscriptions : after.inscriptions = site.inscriptions) : SameLinks site after :=
  ⟨issued, inscriptions ▸ rfl, fun row member => ⟨row, inscriptions ▸ member, rfl, rfl, rfl⟩⟩

theorem SameLinks.modify {key : Nat} {change : Inscription → Inscription}
    (keeps : ∀ row, (change row).id = row.id)
    (links : ∀ row, (change row).tenant = row.tenant ∧ (change row).tokenHash = row.tokenHash) :
    SameLinks site { site with
      inscriptions := site.inscriptions.modify key change keeps } := by
  refine ⟨rfl, rfl, fun row member => ?_⟩
  have listed : row ∈ site.inscriptions.modify key change keeps := member
  rw [Table.mem_modify] at listed
  obtain ⟨source, inside, rfl⟩ := listed
  refine ⟨source, inside, ?_⟩
  split
  · exact ⟨(keeps source).symm, (links source).1.symm, (links source).2.symm⟩
  · exact ⟨rfl, rfl, rfl⟩

/-- A renewal that succeeds gives the enrolment its new hash. -/
theorem renouvelerLeLien_ok (renewed : site.renouvelerLeLien runtime inscription jeton now =
      .ok after) :
    inscription.isRevoked = false ∧
      (∀ row ∈ site.inscriptions, row.tokenHash = runtime.hacher jeton → row.id = inscription.id) ∧
      (∃ row ∈ site.inscriptions, row.id = inscription.id) ∧
      after = { site with
        inscriptions := site.inscriptions.modify inscription.id
          (Inscription.withLink (runtime.hacher jeton) now) (Inscription.ident_withLink _ now)
        issued := ⟨inscription.id, inscription.tenant, jeton⟩ :: site.issued } := by
  rw [renouvelerLeLien] at renewed
  split at renewed
  · cases renewed
  · rename_i live
    split at renewed
    · cases renewed
    · rename_i free
      rw [Bool.or_eq_true, not_or] at free
      obtain ⟨free, found⟩ := free
      refine ⟨Bool.eq_false_iff.mpr live, fun row member same => ?_, ?_, ?_⟩
      · by_contra apart
        refine free (List.any_eq_true.mpr ⟨row, member, ?_⟩)
        simp [same, apart]
      · obtain ⟨row, present⟩ := Option.ne_none_iff_exists'.mp
          fun none => found (Option.isNone_iff_eq_none.mpr none)
        exact ⟨row, Table.mem_of_find? present, Table.ident_of_find? present⟩
      · exact (Except.ok.inj renewed).symm

theorem mem_renewed (renewed : site.renouvelerLeLien runtime inscription jeton now = .ok after)
    {row : Inscription} :
    row ∈ after.inscriptions ↔ ∃ source ∈ site.inscriptions,
      (if ident source = inscription.id then source.withLink (runtime.hacher jeton) now
        else source) = row := by
  obtain ⟨_, _, _, rfl⟩ := renouvelerLeLien_ok renewed
  change row ∈ site.inscriptions.modify inscription.id
    (Inscription.withLink (runtime.hacher jeton) now) (Inscription.ident_withLink _ now) ↔ _
  exact Table.mem_modify

/-- A renewal adds no enrolment and takes none away. -/
theorem exists_of_mem_renewed
    (renewed : site.renouvelerLeLien runtime inscription jeton now = .ok after)
    {row : Inscription} (member : row ∈ after.inscriptions) :
    ∃ source ∈ site.inscriptions, source.id = row.id ∧ source.tenant = row.tenant := by
  obtain ⟨source, inside, rfl⟩ := (mem_renewed renewed).mp member
  refine ⟨source, inside, ?_⟩
  split
  · exact ⟨rfl, rfl⟩
  · exact ⟨rfl, rfl⟩

theorem exists_mem_renewed
    (renewed : site.renouvelerLeLien runtime inscription jeton now = .ok after)
    {source : Inscription} (inside : source ∈ site.inscriptions) :
    ∃ row ∈ after.inscriptions, row.id = source.id := by
  refine ⟨_, (mem_renewed renewed).mpr ⟨source, inside, rfl⟩, ?_⟩
  split
  · rfl
  · rfl

/-- An enrolment and its invitation are added, and nothing else. -/
structure Enrols (runtime : TrainingRuntime) (site : TrainingSite) (tenant learner : Nat)
    (jeton : String) (now : Nat) (after : TrainingSite) (row : Inscription) : Prop where
  key : row.id = site.inscriptions.next
  company : row.tenant = tenant
  employee : row.learner = learner
  tokenHash : row.tokenHash = runtime.hacher jeton
  revokedAt : row.revokedAt = none
  aTermine : row.aTermine = false
  version : ∃ version ∈ site.library.versions, version.id = row.version ∧
    row.parcours.version = version
  seen : row.parcours.seen = []
  library : after.library = site.library
  mem : ∀ other, other ∈ after.inscriptions ↔ other ∈ site.inscriptions ∨ other = row
  next : after.inscriptions.next = site.inscriptions.next + 1
  issued : after.issued = ⟨site.inscriptions.next, tenant, jeton⟩ :: site.issued
  mails : after.mails =
    site.mails ++ [⟨site.inscriptions.next, learner, .invitation, jeton, now⟩]
  learners : after.learners = site.learners
  policies : after.policies = site.policies
  reminders : after.reminders = site.reminders

theorem inscrireEtInviter_ok {tenant dueDate : Nat} {learner : Learner} {course : Course}
    {actor : Option Nat} {mailed : Bool}
    (enrolled : site.inscrireEtInviter runtime tenant learner course dueDate actor jeton mailed
      now = .ok after) :
    ∃ row, Enrols runtime site tenant learner.id jeton now after row := by
  rw [inscrireEtInviter] at enrolled
  cases outcome : site.inscrire runtime tenant learner course dueDate actor jeton now with
  | error failure =>
      rw [outcome] at enrolled
      cases enrolled
  | ok pair =>
      rw [outcome] at enrolled
      rw [inscrire] at outcome
      split at outcome
      · cases outcome
      · split at outcome
        · cases outcome
        · split at outcome
          · cases outcome
          · rename_i version published
            split at outcome
            · cases outcome
            · split at outcome
              · cases outcome
              · cases outcome
                cases mailed with
                | false => cases enrolled
                | true =>
                    cases enrolled
                    exact ⟨_, rfl, rfl, rfl, rfl, rfl, rfl,
                      ⟨version, Library.mem_of_publishedVersion published, rfl, rfl⟩, rfl, rfl,
                      fun _ => Table.mem_create, rfl, rfl, rfl, rfl, rfl, rfl⟩

/-- How far the sending of one reminder comes. -/
inductive Sends (runtime : TrainingRuntime) (site : TrainingSite) (now : Nat) (jeton : String)
    (failure : Option FailurePoint) (inscription : Inscription) (kind : ReminderLog.Kind) :
    TrainingSite × Bool → Prop where
  | nothing : Sends runtime site now jeton failure inscription kind (site, false)
  | link {renewed : TrainingSite}
      (links : site.renouvelerLeLien runtime inscription jeton now = .ok renewed)
      (fails : failure = some .mail) :
      Sends runtime site now jeton failure inscription kind (renewed, false)
  | mail {renewed : TrainingSite}
      (links : site.renouvelerLeLien runtime inscription jeton now = .ok renewed)
      (fails : failure = some .log ∨
        failure = none ∧ site.dejaEnvoyee inscription.id kind = true) :
      Sends runtime site now jeton failure inscription kind
        (renewed.envoyer inscription.id inscription.learner (.relance kind) jeton now, false)
  | log {renewed : TrainingSite}
      (links : site.renouvelerLeLien runtime inscription jeton now = .ok renewed)
      (succeeds : failure = none) (new : site.dejaEnvoyee inscription.id kind = false) :
      Sends runtime site now jeton failure inscription kind
        ((renewed.envoyer inscription.id inscription.learner (.relance kind) jeton
          now).journaliser inscription kind now, true)

theorem sends_envoyerUneRelance (runtime : TrainingRuntime) (site : TrainingSite) (now : Nat)
    (jeton : String) (failure : Option FailurePoint) (inscription : Inscription)
    (kind : ReminderLog.Kind) :
    Sends runtime site now jeton failure inscription kind
      (site.envoyerUneRelance runtime now jeton failure inscription kind) := by
  rw [envoyerUneRelance]
  cases links : site.renouvelerLeLien runtime inscription jeton now with
  | error failure => exact .nothing
  | ok renewed =>
      have logged : (renewed.envoyer inscription.id inscription.learner (.relance kind) jeton
          now).dejaEnvoyee inscription.id kind = site.dejaEnvoyee inscription.id kind := by
        obtain ⟨_, _, _, rfl⟩ := renouvelerLeLien_ok links
        rfl
      cases failure with
      | some point =>
          cases point with
          | renewal => exact .nothing
          | mail => exact .link links rfl
          | log => exact .mail links (Or.inl rfl)
      | none =>
          dsimp only
          rw [logged]
          cases new : site.dejaEnvoyee inscription.id kind with
          | true => exact .mail links (Or.inr ⟨rfl, new⟩)
          | false => exact .log links rfl new

/-- What renewals, mails and logs keep, the loop keeps. -/
theorem envoyerToutes_invariant {P : TrainingSite → Prop}
    (renewal : ∀ {site renewed inscription jeton},
      site.renouvelerLeLien runtime inscription jeton now = .ok renewed → P site → P renewed)
    (mail : ∀ {site renewed inscription jeton} kind,
      site.renouvelerLeLien runtime inscription jeton now = .ok renewed → P site →
        P (renewed.envoyer inscription.id inscription.learner (.relance kind) jeton now))
    (log : ∀ {site} inscription kind, P site → P (site.journaliser inscription kind now))
    {jetons : Nat → String} {failures : Nat → Option FailurePoint} {rank : Nat}
    {reminders : List (Inscription × ReminderLog.Kind)} (holds : P site) :
    P (envoyerToutes runtime now jetons failures rank reminders site) := by
  induction reminders generalizing rank site with
  | nil => exact holds
  | cons entry rest ih =>
      obtain ⟨inscription, kind⟩ := entry
      have sends := sends_envoyerUneRelance runtime site now (jetons rank) (failures rank)
        inscription kind
      rw [envoyerToutes]
      generalize site.envoyerUneRelance runtime now (jetons rank) (failures rank) inscription kind =
        outcome at sends ⊢
      cases sends with
      | nothing => exact holds
      | link links fails => exact renewal links holds
      | mail links fails => exact mail kind links holds
      | log links succeeds new => exact ih (log inscription kind (mail kind links holds))

/-! ### Events that issue no token -/

/-- The links are the same, and so are the mails and the logs. -/
structure Quiet (before after : TrainingSite) : Prop where
  links : SameLinks before after
  mails : after.mails = before.mails
  reminders : after.reminders = before.reminders

theorem quiet_revoquer (actor : Option Nat) : Quiet site (site.revoquer inscription actor now) := by
  rw [revoquer]
  split
  · exact ⟨.of_inscriptions rfl rfl, rfl, rfl⟩
  · exact ⟨.modify _ fun _ => ⟨rfl, rfl⟩, rfl, rfl⟩

theorem quiet_resoudreSession {opened : TrainingSite} {found : Inscription}
    (resolved : site.resoudreSession runtime jeton now = .ok (opened, found)) :
    Quiet site opened := by
  rw [resoudreSession] at resolved
  split at resolved
  · cases resolved
  · split at resolved
    · cases resolved
    · split at resolved
      · cases resolved
        exact ⟨.modify _ fun _ => ⟨rfl, rfl⟩, rfl, rfl⟩
      · cases resolved

theorem quiet_step {event : CampaignEvent} (other : event.issues = false) :
    Quiet site (site.step runtime event) := by
  have refl : Quiet site site := ⟨.of_inscriptions rfl rfl, rfl, rfl⟩
  cases event with
  | inscrire => cases other
  | renouveler => cases other
  | relancer => cases other
  | revoquer tenant inscription actor now =>
      rw [TrainingSite.step]
      split
      · exact refl
      · exact quiet_revoquer actor
  | activer learner active => exact ⟨.of_inscriptions rfl rfl, rfl, rfl⟩
  | regler tenant enabled midCourse beforeDueDays afterDueDays actor =>
      exact ⟨.of_inscriptions rfl rfl, rfl, rfl⟩
  | ouvrir jeton now =>
      rw [TrainingSite.step]
      split
      · rename_i resolved
        exact quiet_resoudreSession resolved
      · exact refl
  | suivre tenant inscription event =>
      rw [TrainingSite.step]
      split
      · exact refl
      · exact ⟨.modify _ fun _ => ⟨rfl, rfl⟩, rfl, rfl⟩
  | cataloguer library assignments => exact ⟨.of_inscriptions rfl rfl, rfl, rfl⟩

/-- What an event is, if it may issue tokens. -/
theorem step_inscrire (runtime : TrainingRuntime) (site : TrainingSite)
    (tenant learner course dueDate : Nat) (actor : Option Nat) (jeton : String) (mailed : Bool)
    (now : Nat) :
    let after := site.step runtime (.inscrire tenant learner course dueDate actor jeton mailed now)
    after = site ∨ ∃ employee row, Enrols runtime site tenant employee jeton now after row := by
  dsimp only
  rw [TrainingSite.step]
  split
  · split
    · rename_i enrolled
      exact Or.inr ⟨_, inscrireEtInviter_ok enrolled⟩
    · exact Or.inl rfl
  · exact Or.inl rfl

theorem step_renouveler (runtime : TrainingRuntime) (site : TrainingSite)
    (tenant key : Nat) (jeton : String) (now : Nat) :
    let after := site.step runtime (.renouveler tenant key jeton now)
    after = site ∨ ∃ row ∈ site.inscriptions,
      site.renouvelerLeLien runtime row jeton now = .ok after := by
  dsimp only
  rw [TrainingSite.step]
  split
  · exact Or.inl rfl
  · rename_i row found
    split
    · rename_i renewed
      exact Or.inr ⟨row, Table.mem_of_find? (Option.filter_eq_some_iff.mp found).1, renewed⟩
    · exact Or.inl rfl

theorem mem_relancesDuJour {entry : Inscription × ReminderLog.Kind} :
    entry ∈ site.relancesDuJour runtime now ↔
      entry.1 ∈ site.inscriptions ∧ site.natureDuJour runtime now entry.1 = some entry.2 := by
  obtain ⟨inscription, kind⟩ := entry
  rw [relancesDuJour, List.mem_filterMap]
  constructor
  · rintro ⟨row, listed, same⟩
    obtain ⟨found, due, pair⟩ := Option.map_eq_some_iff.mp same
    cases pair
    exact ⟨(List.mem_insertionSort _).mp listed, due⟩
  · rintro ⟨member, due⟩
    exact ⟨inscription, (List.mem_insertionSort _).mpr member, by rw [due, Option.map_some]⟩

end Effects

end TrainingSite

/-! A company with two employees, to whom two courses are proposed, before its first
enrolment. -/

/-- The digests of the tokens that the company sends. -/
def digests : List (String × String) :=
  [("jeton-a", "02f8a199e0ab177775384372b60aa6a55b07acc3f46976cde73717a2b6c96511"),
    ("jeton-b", "853eff9f510ad0653f1accf0df47de45440efde80313645b7aecbaa2db29623a"),
    ("jeton-c", "266c8dfff998c5b96871c20ca5e8f2bc6f6e4ad51841082efeb7602c6f71ad10"),
    ("jeton-d", "1edd36d85b07e1c90964d5a6ef4a37137bf5eb14879f7752af7a47c3a8f16c45")]

def companyRuntime : TrainingRuntime where
  hacher jeton := ((digests.find? fun pair => pair.1 = jeton).map Prod.snd).getD ""
  endOfDay day := day * 86400 + 86399
  formatDate day := toString day
  tenantName _ := "Atelier Duval"

def companyLibrary : Library where
  courses :=
    ⟨[⟨0, "mots-de-passe", "Mots de passe", "", none⟩, ⟨1, "hameconnage", "Hameçonnage", "", none⟩],
      2, by decide, by decide⟩
  versions :=
    ⟨[⟨0, 0, 1, some 60, 70, 3, ""⟩, ⟨1, 1, 1, some 60, 70, 3, ""⟩], 2, by decide, by decide⟩
  screens := .empty
  questions := .empty
  choices := .empty

def companySite : TrainingSite where
  library := companyLibrary
  learners :=
    ⟨[⟨0, 0, "Anne Duval", "anne@duval.fr", true, none⟩,
      ⟨1, 0, "Marc Petit", "marc@duval.fr", true, none⟩], 2, by decide, by decide⟩
  assignments := ⟨[⟨0, 0, 0⟩, ⟨1, 0, 1⟩], 2, by decide, by decide⟩
  inscriptions := .empty
  policies := .empty
  reminders := .empty
  issued := []
  mails := []

end RssiService.Training
