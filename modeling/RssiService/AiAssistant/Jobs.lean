import RssiService.Foundation.Reliance
import RssiService.Foundation.Table

/-!
# Jobs of the assistant

A request creates a job, and a worker runs it, possibly several times: the queue
delivers a message again when its worker is lost, and a failed run is tried again.
Requests and runs read and write the tables in turn, and the call to the model is
one of the writes.
-/

namespace RssiService.AiAssistant.Jobs

open Foundation Interleaving Reliance

/-! ## Rows -/

inductive UseCase where
  | documentCharter
  | assistantReply
  | weatherEnrichment
  | exposureSynthesis
  deriving DecidableEq, Repr

inductive JobStatus where
  | pending
  | running
  | done
  | failed
  deriving DecidableEq, Repr

def JobStatus.isEnded : JobStatus → Bool
  | .pending | .running => false
  | .done | .failed => true

/-- The consumption of a client in a month. -/
structure AiUsageQuota where
  id : Nat
  tenant : Nat
  period : Nat
  tokensUsed : Nat
  monthlyTokenLimit : Nat
  deriving DecidableEq, Repr

instance : Identified AiUsageQuota := ⟨AiUsageQuota.id⟩

def AiUsageQuota.remainingTokens (quota : AiUsageQuota) : Nat :=
  quota.monthlyTokenLimit - quota.tokensUsed

/-- What a job points to: the document, or the conversation and the question. -/
structure ResultRef where
  documentId : Option Nat
  conversationId : Option Nat
  userMessageId : Option Nat
  deriving DecidableEq, Repr

def ResultRef.none : ResultRef := ⟨.none, .none, .none⟩

structure AiJob where
  id : Nat
  tenant : Nat
  useCase : UseCase
  status : JobStatus
  resultRef : ResultRef
  errorMessage : String
  createdBy : Option Nat
  finishedAt : Option Nat
  deriving DecidableEq, Repr

instance : Identified AiJob := ⟨AiJob.id⟩

/-- What never changes of a job, which the message of the queue stands for. -/
structure JobRef where
  id : Nat
  tenant : Nat
  useCase : UseCase
  target : Option Nat
  deriving DecidableEq, Repr

def AiJob.ref (job : AiJob) : JobRef where
  id := job.id
  tenant := job.tenant
  useCase := job.useCase
  target := job.resultRef.documentId <|> job.resultRef.conversationId

inductive DocumentStatus where
  | generating
  | draft
  | validated
  | failed
  deriving DecidableEq, Repr

structure GeneratedDocument where
  id : Nat
  tenant : Nat
  type : String
  status : DocumentStatus
  version : Nat
  contentMarkdown : String
  createdBy : Option Nat
  validatedAt : Option Nat
  deriving DecidableEq, Repr

instance : Identified GeneratedDocument := ⟨GeneratedDocument.id⟩

structure ConversationRow where
  id : Nat
  tenant : Nat
  updatedAt : Nat
  deriving DecidableEq, Repr

instance : Identified ConversationRow := ⟨ConversationRow.id⟩

inductive MessageRole where
  | user
  | assistant
  deriving DecidableEq, Repr

/-- A message, with the job that a reply was written for, which the table does not
keep. -/
structure MessageRow where
  id : Nat
  tenant : Nat
  conversation : Nat
  role : MessageRole
  content : String
  writtenFor : Option JobRef
  deriving DecidableEq, Repr

instance : Identified MessageRow := ⟨MessageRow.id⟩

/-- The tables, the switch of each client, and the month. -/
structure AiDatabase where
  enabled : Nat → Bool
  period : Nat
  defaultLimit : Nat
  quotas : Table AiUsageQuota
  jobs : Table AiJob
  documents : Table GeneratedDocument
  conversations : Table ConversationRow
  messages : Table MessageRow

namespace AiDatabase

/-- The tables before anything is asked for, with every assistant on. -/
def unused (period defaultLimit : Nat) : AiDatabase where
  enabled := fun _ => true
  period := period
  defaultLimit := defaultLimit
  quotas := Table.empty
  jobs := Table.empty
  documents := Table.empty
  conversations := Table.empty
  messages := Table.empty

variable (db : AiDatabase)

def currentQuota (tenant : Nat) : Option AiUsageQuota :=
  db.quotas.rows.find? fun row => row.tenant = tenant && row.period = db.period

/-- The tokens left to a client this month; a month without a row has the default
limit. -/
def remainingTokens (tenant : Nat) : Nat :=
  ((db.currentQuota tenant).map AiUsageQuota.remainingTokens).getD db.defaultLimit

/-- The row of a job that has not ended. -/
def openJob (ref : JobRef) : Option AiJob :=
  (db.jobs.find? ref.id).filter fun job => job.ref = ref && !job.status.isEnded

def getDocument (tenant document : Nat) : Option GeneratedDocument :=
  (db.documents.find? document).filter fun row => row.tenant = tenant

def getConversation (tenant conversation : Nat) : Option ConversationRow :=
  (db.conversations.find? conversation).filter fun row => row.tenant = tenant

/-- The version of the next document of a type. -/
def nextDocumentVersion (tenant : Nat) (type : String) : Nat :=
  (((db.documents.rows.filter fun row => row.tenant = tenant && row.type = type).map
    GeneratedDocument.version).foldr max 0) + 1

end AiDatabase

/-! ## Writes -/

/-- One write of a request or of a run.  The creation of a job stands with that of
its document or of its message. -/
inductive AiWrite where
  | setEnabled (tenant : Nat) (enabled : Bool)
  | turnMonth (period : Nat)
  | ensureQuota (tenant : Nat)
  | createDocumentJob (tenant user : Nat) (type : String) (version : Nat)
  | createAssistantJob (tenant user conversation : Nat) (text : String)
  | createSynthesisJob (tenant user : Nat)
  | markRunning (job : JobRef)
  | markDone (job : JobRef) (now : Nat)
  | markFailed (job : JobRef) (error : String) (now : Nat)
  | callModel (tenant : Nat) (useCase : UseCase) (job : Option JobRef)
  | recordUsage (tenant tokens : Nat)
  | saveGenerated (document : Nat) (content : String) (job : JobRef)
  | failDocument (document : Nat) (job : JobRef)
  | editContent (document : Nat) (content : String)
  | validateDocument (document : Nat) (shown : String) (now : Nat)
  | createReply (job : JobRef) (conversation : Nat) (content : String)
  | touchConversation (conversation now : Nat)

namespace AiDatabase

def ensureQuota (db : AiDatabase) (tenant : Nat) : AiDatabase :=
  match db.currentQuota tenant with
  | some _ => db
  | none =>
      { db with
        quotas := db.quotas.create (fun key =>
          { id := key, tenant, period := db.period, tokensUsed := 0
            monthlyTokenLimit := db.defaultLimit }) fun _ => rfl }

section EnsureQuota

variable (db : AiDatabase) {tenant : Nat}

@[simp]
theorem ensureQuota_jobs : (db.ensureQuota tenant).jobs = db.jobs := by
  rw [ensureQuota]
  split
  · rfl
  · rfl

@[simp]
theorem ensureQuota_documents : (db.ensureQuota tenant).documents = db.documents := by
  rw [ensureQuota]
  split
  · rfl
  · rfl

@[simp]
theorem ensureQuota_messages : (db.ensureQuota tenant).messages = db.messages := by
  rw [ensureQuota]
  split
  · rfl
  · rfl

end EnsureQuota

def modifyJob (db : AiDatabase) (job : Nat) (change : AiJob → AiJob)
    (keeps : ∀ row, ident (change row) = ident row) : AiDatabase :=
  { db with jobs := db.jobs.modify job change keeps }

def modifyDocument (db : AiDatabase) (document : Nat)
    (change : GeneratedDocument → GeneratedDocument)
    (keeps : ∀ row, ident (change row) = ident row) : AiDatabase :=
  { db with documents := db.documents.modify document change keeps }

/-- The usage of a call is added to the row of the month, which is created if need be. -/
def recordUsage (db : AiDatabase) (tenant tokens : Nat) : AiDatabase :=
  let db := db.ensureQuota tenant
  { db with
    quotas := db.quotas.updateWhere (fun row => row.tenant = tenant && row.period = db.period)
      (fun row => { row with tokensUsed := row.tokensUsed + tokens }) fun _ => rfl }

def apply (db : AiDatabase) : AiWrite → AiDatabase
  | .setEnabled tenant enabled => { db with enabled := Function.update db.enabled tenant enabled }
  | .turnMonth period => { db with period }
  | .ensureQuota tenant => db.ensureQuota tenant
  | .createDocumentJob tenant user type version =>
      { db with
        documents := db.documents.create (fun key =>
          { id := key, tenant, type, status := .generating, version, contentMarkdown := ""
            createdBy := some user, validatedAt := none }) fun _ => rfl
        jobs := db.jobs.create (fun key =>
          { id := key, tenant, useCase := .documentCharter, status := .pending
            resultRef := { ResultRef.none with documentId := some db.documents.next }
            errorMessage := "", createdBy := some user, finishedAt := none }) fun _ => rfl }
  | .createAssistantJob tenant user conversation text =>
      { db with
        messages := db.messages.create (fun key =>
          { id := key, tenant, conversation, role := .user, content := text
            writtenFor := none }) fun _ => rfl
        jobs := db.jobs.create (fun key =>
          { id := key, tenant, useCase := .assistantReply, status := .pending
            resultRef := { ResultRef.none with
              conversationId := some conversation
              userMessageId := some db.messages.next }
            errorMessage := "", createdBy := some user, finishedAt := none }) fun _ => rfl }
  | .createSynthesisJob tenant user =>
      { db with
        jobs := db.jobs.create (fun key =>
          { id := key, tenant, useCase := .exposureSynthesis, status := .pending
            resultRef := ResultRef.none, errorMessage := "", createdBy := some user
            finishedAt := none }) fun _ => rfl }
  | .markRunning job =>
      db.modifyJob job.id (fun row => { row with status := .running }) fun _ => rfl
  | .markDone job now =>
      db.modifyJob job.id (fun row =>
        { row with status := .done, finishedAt := some now }) fun _ => rfl
  | .markFailed job error now =>
      db.modifyJob job.id (fun row =>
        { row with status := .failed, errorMessage := error, finishedAt := some now }) fun _ => rfl
  | .callModel _ _ _ => db
  | .recordUsage tenant tokens => db.recordUsage tenant tokens
  | .saveGenerated document content _ =>
      db.modifyDocument document (fun row =>
        { row with contentMarkdown := content, status := .draft }) fun _ => rfl
  | .failDocument document _ =>
      db.modifyDocument document (fun row => { row with status := .failed }) fun _ => rfl
  | .editContent document content =>
      db.modifyDocument document (fun row => { row with contentMarkdown := content }) fun _ => rfl
  | .validateDocument document _ now =>
      db.modifyDocument document (fun row =>
        { row with status := .validated, validatedAt := some now }) fun _ => rfl
  | .createReply job conversation content =>
      { db with
        messages := db.messages.create (fun key =>
          { id := key, tenant := job.tenant, conversation, role := .assistant, content
            writtenFor := some job }) fun _ => rfl }
  | .touchConversation conversation now =>
      { db with
        conversations := db.conversations.modify conversation
          (fun row => { row with updatedAt := now }) fun _ => rfl }

end AiDatabase

/-! ## Requests -/

abbrev AiProgram := Program AiDatabase AiWrite

/-- Both guards: the switch, on the client as it was loaded, and the tokens left. -/
def guarded (tenant : Nat) (enabled : Bool) (refused : String → AiProgram) (next : AiProgram) :
    AiProgram :=
  if enabled then
    .write (.ensureQuota tenant) <| .read fun db =>
      if db.remainingTokens tenant = 0 then
        refused ("Vous avez atteint la limite d'utilisation de l'assistant pour ce " ++
          "mois. Elle repart au début du mois prochain.")
      else next
  else refused "L'IA est désactivée pour cette entreprise."

def createDocumentJob (tenant user : Nat) (type : String) : AiProgram :=
  .read fun db =>
    guarded tenant (db.enabled tenant) (fun _ => .done) <| .read fun db =>
      .write (.createDocumentJob tenant user type (db.nextDocumentVersion tenant type)) .done

def createAssistantJob (tenant user conversation : Nat) (text : String) : AiProgram :=
  .read fun db =>
    match db.getConversation tenant conversation with
    | none => .done
    | some row =>
        guarded tenant (db.enabled tenant) (fun _ => .done)
          (.write (.createAssistantJob tenant user row.id text) .done)

/-- The refresh that a client asks for. -/
def refreshSynthesisView (tenant user : Nat) : AiProgram :=
  .read fun db =>
    guarded tenant (db.enabled tenant) (fun _ => .done)
      (.write (.createSynthesisJob tenant user) .done)

def updateDocumentContent (tenant document : Nat) (content : String) : AiProgram :=
  .read fun db =>
    match db.getDocument tenant document with
    | none => .done
    | some row =>
        if row.status = .validated then .done
        else .write (.editContent row.id content) .done

/-- The document is shown to its validator, who then validates it. -/
def validateDocument (tenant document now : Nat) : AiProgram :=
  .read fun db =>
    match db.getDocument tenant document with
    | none => .done
    | some shown =>
        .read fun db =>
          match db.getDocument tenant document with
          | none => .done
          | some row => .write (.validateDocument row.id shown.contentMarkdown now) .done

/-! ## Runs of the tasks -/

/-- Where an exception strikes once the model has answered: at the usage, at the
result, or at the date of the conversation. -/
inductive Mishap where
  | usage
  | result
  | touch
  deriving DecidableEq, Repr

/-- What comes of the part of a run that asks the model: it raises before the call,
the call is not answered, or it is. -/
inductive CallOutcome where
  | unsent (error : String)
  | lost (error : String)
  | answered (text : String) (tokens : Nat) (mishap : Option (Mishap × String))

/-- One run of a task: what comes of its call, and whether another try is left. -/
structure TaskRun where
  outcome : CallOutcome
  lastAttempt : Bool
  now : Nat

/-- The exception that strikes at a place, if it does. -/
def TaskRun.strikes (run : TaskRun) (place : Mishap) : Option String :=
  match run.outcome with
  | .answered _ _ (some (struck, error)) => if struck = place then some error else none
  | _ => none

def callClaude (run : TaskRun) (tenant : Nat) (useCase : UseCase) (job : Option JobRef)
    (answered : String → AiProgram) (raised : String → AiProgram) : AiProgram :=
  match run.outcome with
  | .unsent error => raised error
  | .lost error => .write (.callModel tenant useCase job) (raised error)
  | .answered text tokens _ =>
      .write (.callModel tenant useCase job) <|
        match run.strikes .usage with
        | some error => raised error
        | none => .write (.recordUsage tenant tokens) (answered text)

/-- A run that raises is tried again, or fails its job, after what its last try
still writes. -/
def TaskRun.raised (run : TaskRun) (job : JobRef) (last : AiProgram → AiProgram) (error : String) :
    AiProgram :=
  if run.lastAttempt then last (.write (.markFailed job error run.now) .done) else .done

/-- A job that has ended is not run again; one that was left running is. -/
def unlessFinished (job : JobRef) (next : AiDatabase → AiProgram) : AiProgram :=
  .read fun db =>
    match db.openJob job with
    | none => .done
    | some _ => next db

def generateCharterDocument (job : JobRef) (document : Nat) (run : TaskRun) (saved : AiProgram)
    (raised : String → AiProgram) : AiProgram :=
  callClaude run job.tenant .documentCharter (some job)
    (fun text =>
      match run.strikes .result with
      | some error => raised error
      | none => .write (.saveGenerated document text job) saved)
    raised

def generateDocumentTask (job : JobRef) (document : Nat) (run : TaskRun) : AiProgram :=
  unlessFinished job fun _ =>
    .write (.markRunning job) <| .read fun db =>
      match db.getDocument job.tenant document with
      | none => .write (.markFailed job "Document introuvable." run.now) .done
      | some _ =>
          generateCharterDocument job document run (.write (.markDone job run.now) .done)
            (run.raised job (.write (.failDocument document job)))

/-- The client is the one that was loaded with the job.  The content of the
synthesis is cached elsewhere. -/
def generateExposureSynthesis (job : JobRef) (enabled : Bool) (run : TaskRun) (cached : AiProgram)
    (raised : String → AiProgram) : AiProgram :=
  guarded job.tenant enabled raised <|
    callClaude run job.tenant .exposureSynthesis (some job)
      (fun _ =>
        match run.strikes .result with
        | some error => raised error
        | none => cached)
      raised

def generateExposureSynthesisTask (job : JobRef) (run : TaskRun) : AiProgram :=
  unlessFinished job fun db =>
    .write (.markRunning job) <|
      generateExposureSynthesis job (db.enabled job.tenant) run
        (.write (.markDone job run.now) .done) (run.raised job id)

def generateAssistantReply (job : JobRef) (conversation : Nat) (run : TaskRun) (replied : AiProgram)
    (raised : String → AiProgram) : AiProgram :=
  callClaude run job.tenant .assistantReply (some job)
    (fun text =>
      match run.strikes .result with
      | some error => raised error
      | none =>
          .write (.createReply job conversation text) <|
            match run.strikes .touch with
            | some error => raised error
            | none => .write (.touchConversation conversation run.now) replied)
    raised

def generateAssistantReplyTask (job : JobRef) (conversation : Nat) (run : TaskRun) : AiProgram :=
  unlessFinished job fun _ =>
    .write (.markRunning job) <| .read fun db =>
      match db.getConversation job.tenant conversation with
      | none => .write (.markFailed job "Conversation introuvable." run.now) .done
      | some _ =>
          generateAssistantReply job conversation run (.write (.markDone job run.now) .done)
            (run.raised job id)

/-- The sentence of the weather report, which does without the model where it cannot
have it. -/
def enrichWeatherSummary (tenant : Nat) (run : TaskRun) : AiProgram :=
  .read fun db =>
    guarded tenant (db.enabled tenant) (fun _ => .done)
      (callClaude run tenant .weatherEnrichment none (fun _ => .done) fun _ => .done)

inductive AiRequest where
  | setEnabled (tenant : Nat) (enabled : Bool)
  | turnMonth (period : Nat)
  | createDocumentJob (tenant user : Nat) (type : String)
  | createAssistantJob (tenant user conversation : Nat) (text : String)
  | refreshSynthesis (tenant user : Nat)
  | consoleRefresh (tenant user : Nat)
  | updateDocument (tenant document : Nat) (content : String)
  | validateDocument (tenant document now : Nat)
  | runTask (job : JobRef) (run : TaskRun)
  | enrichWeather (tenant : Nat) (run : TaskRun)

/-- The task that the message of a job starts. -/
def taskProgram (job : JobRef) (run : TaskRun) : AiProgram :=
  match job.useCase, job.target with
  | .documentCharter, some document => generateDocumentTask job document run
  | .assistantReply, some conversation => generateAssistantReplyTask job conversation run
  | .exposureSynthesis, _ => generateExposureSynthesisTask job run
  | _, _ => .done

def aiProgram : AiRequest → AiProgram
  | .setEnabled tenant enabled => .write (.setEnabled tenant enabled) .done
  | .turnMonth period => .write (.turnMonth period) .done
  | .createDocumentJob tenant user type => createDocumentJob tenant user type
  | .createAssistantJob tenant user conversation text =>
      createAssistantJob tenant user conversation text
  | .refreshSynthesis tenant user => refreshSynthesisView tenant user
  | .consoleRefresh tenant user => .write (.createSynthesisJob tenant user) .done
  | .updateDocument tenant document content => updateDocumentContent tenant document content
  | .validateDocument tenant document now => validateDocument tenant document now
  | .runTask job run => taskProgram job run
  | .enrichWeather tenant run => enrichWeatherSummary tenant run

/-! ## What a run writes -/

/-- The writes of the runs of a job. -/
inductive RunWrites (job : JobRef) : AiWrite → Prop where
  | markRunning : RunWrites job (.markRunning job)
  | markDone (now : Nat) : RunWrites job (.markDone job now)
  | markFailed (error : String) (now : Nat) : RunWrites job (.markFailed job error now)
  | ensureQuota : RunWrites job (.ensureQuota job.tenant)
  | callModel : RunWrites job (.callModel job.tenant job.useCase (some job))
  | recordUsage (tokens : Nat) : RunWrites job (.recordUsage job.tenant tokens)
  | saveGenerated {document : Nat} (content : String) (useCase : job.useCase = .documentCharter)
      (target : job.target = some document) : RunWrites job (.saveGenerated document content job)
  | failDocument {document : Nat} (useCase : job.useCase = .documentCharter)
      (target : job.target = some document) : RunWrites job (.failDocument document job)
  | createReply {conversation : Nat} (content : String) (useCase : job.useCase = .assistantReply)
      (target : job.target = some conversation) :
      RunWrites job (.createReply job conversation content)
  | touchConversation (conversation now : Nat) :
      RunWrites job (.touchConversation conversation now)

section Runs

variable {job : JobRef} {run : TaskRun} {change : AiWrite}

theorem makes_guarded {tenant : Nat} {enabled : Bool} {refused : String → AiProgram}
    {next : AiProgram} (makes : (guarded tenant enabled refused next).Makes change) :
    change = .ensureQuota tenant ∨ (∃ error, (refused error).Makes change) ∨
      next.Makes change := by
  rw [guarded] at makes
  split at makes
  · rcases makes with same | ⟨db, makes⟩
    · exact Or.inl same
    · dsimp only at makes
      split at makes
      · exact Or.inr (Or.inl ⟨_, makes⟩)
      · exact Or.inr (Or.inr makes)
  · exact Or.inr (Or.inl ⟨_, makes⟩)

theorem makes_callClaude {tenant : Nat} {useCase : UseCase} {caller : Option JobRef}
    {answered raised : String → AiProgram}
    (makes : (callClaude run tenant useCase caller answered raised).Makes change) :
    change = .callModel tenant useCase caller ∨ (∃ tokens, change = .recordUsage tenant tokens) ∨
      (∃ text, (answered text).Makes change) ∨ ∃ error, (raised error).Makes change := by
  rw [callClaude] at makes
  cases outcome : run.outcome with
  | unsent error =>
      rw [outcome] at makes
      exact Or.inr (Or.inr (Or.inr ⟨error, makes⟩))
  | lost error =>
      rw [outcome] at makes
      rcases makes with same | makes
      · exact Or.inl same
      · exact Or.inr (Or.inr (Or.inr ⟨error, makes⟩))
  | answered text tokens mishap =>
      rw [outcome] at makes
      rcases makes with same | makes
      · exact Or.inl same
      · cases strikes : run.strikes .usage with
        | some error =>
            rw [strikes] at makes
            exact Or.inr (Or.inr (Or.inr ⟨error, makes⟩))
        | none =>
            rw [strikes] at makes
            rcases makes with same | makes
            · exact Or.inr (Or.inl ⟨tokens, same⟩)
            · exact Or.inr (Or.inr (Or.inl ⟨text, makes⟩))

theorem makes_raised {last : AiProgram → AiProgram} {error : String}
    (makes : (run.raised job last error).Makes change) :
    (last (.write (.markFailed job error run.now) .done)).Makes change := by
  rw [TaskRun.raised] at makes
  split at makes
  · exact makes
  · exact makes.elim

theorem makes_unlessFinished {next : AiDatabase → AiProgram}
    (makes : (unlessFinished job next).Makes change) : ∃ db, (next db).Makes change := by
  obtain ⟨db, makes⟩ := makes
  dsimp only at makes
  split at makes
  · exact makes.elim
  · exact ⟨db, makes⟩

theorem runWrites_raised {error : String} (makes : (run.raised job id error).Makes change) :
    RunWrites job change := by
  rcases makes_raised makes with rfl | done
  · exact .markFailed error run.now
  · exact done.elim

theorem runWrites_raised_failDocument {document : Nat} {error : String}
    (useCase : job.useCase = .documentCharter) (target : job.target = some document)
    (makes : (run.raised job (.write (.failDocument document job)) error).Makes change) :
    RunWrites job change := by
  rcases makes_raised makes with rfl | rfl | done
  · exact .failDocument useCase target
  · exact .markFailed error run.now
  · exact done.elim

theorem runWrites_generateDocumentTask {document : Nat} (useCase : job.useCase = .documentCharter)
    (target : job.target = some document)
    (makes : (generateDocumentTask job document run).Makes change) : RunWrites job change := by
  obtain ⟨_, rfl | ⟨db, makes⟩⟩ := makes_unlessFinished makes
  · exact .markRunning
  · dsimp only at makes
    split at makes
    · rcases makes with rfl | done
      · exact .markFailed _ run.now
      · exact done.elim
    · rcases makes_callClaude makes with rfl | ⟨tokens, rfl⟩ | ⟨text, makes⟩ | ⟨error, makes⟩
      · rw [← useCase]
        exact .callModel
      · exact .recordUsage tokens
      · split at makes
        · exact runWrites_raised_failDocument useCase target makes
        · rcases makes with rfl | rfl | done
          · exact .saveGenerated text useCase target
          · exact .markDone run.now
          · exact done.elim
      · exact runWrites_raised_failDocument useCase target makes

theorem runWrites_generateAssistantReplyTask {conversation : Nat}
    (useCase : job.useCase = .assistantReply) (target : job.target = some conversation)
    (makes : (generateAssistantReplyTask job conversation run).Makes change) :
    RunWrites job change := by
  obtain ⟨_, rfl | ⟨db, makes⟩⟩ := makes_unlessFinished makes
  · exact .markRunning
  · dsimp only at makes
    split at makes
    · rcases makes with rfl | done
      · exact .markFailed _ run.now
      · exact done.elim
    · rcases makes_callClaude makes with rfl | ⟨tokens, rfl⟩ | ⟨text, makes⟩ | ⟨error, makes⟩
      · rw [← useCase]
        exact .callModel
      · exact .recordUsage tokens
      · split at makes
        · exact runWrites_raised makes
        · rcases makes with rfl | makes
          · exact .createReply text useCase target
          · split at makes
            · exact runWrites_raised makes
            · rcases makes with rfl | rfl | done
              · exact .touchConversation conversation run.now
              · exact .markDone run.now
              · exact done.elim
      · exact runWrites_raised makes

/-- What the run of a synthesis writes once it has passed its guards. -/
theorem runWrites_exposureSynthesisCall (useCase : job.useCase = .exposureSynthesis)
    (makes : (callClaude run job.tenant .exposureSynthesis (some job)
      (fun _ =>
        match run.strikes .result with
        | some error => run.raised job id error
        | none => .write (.markDone job run.now) .done)
      (run.raised job id)).Makes change) : RunWrites job change := by
  rcases makes_callClaude makes with rfl | ⟨tokens, rfl⟩ | ⟨text, makes⟩ | ⟨error, makes⟩
  · rw [← useCase]
    exact .callModel
  · exact .recordUsage tokens
  · split at makes
    · exact runWrites_raised makes
    · rcases makes with rfl | done
      · exact .markDone run.now
      · exact done.elim
  · exact runWrites_raised makes

theorem runWrites_generateExposureSynthesisTask (useCase : job.useCase = .exposureSynthesis)
    (makes : (generateExposureSynthesisTask job run).Makes change) : RunWrites job change := by
  obtain ⟨_, rfl | makes⟩ := makes_unlessFinished makes
  · exact .markRunning
  · rcases makes_guarded makes with rfl | ⟨error, makes⟩ | makes
    · exact .ensureQuota
    · exact runWrites_raised makes
    · exact runWrites_exposureSynthesisCall useCase makes

theorem runWrites_of_makes (makes : (taskProgram job run).Makes change) : RunWrites job change := by
  rw [taskProgram] at makes
  split at makes
  · rename_i document useCase target
    exact runWrites_generateDocumentTask useCase target makes
  · rename_i conversation useCase target
    exact runWrites_generateAssistantReplyTask useCase target makes
  · rename_i useCase
    exact runWrites_generateExposureSynthesisTask useCase makes
  · exact makes.elim

end Runs

/-- The writes of each request. -/
inductive RequestWrites : AiRequest → AiWrite → Prop where
  | setEnabled (tenant : Nat) (enabled : Bool) :
      RequestWrites (.setEnabled tenant enabled) (.setEnabled tenant enabled)
  | turnMonth (period : Nat) : RequestWrites (.turnMonth period) (.turnMonth period)
  | ensureQuota (request : AiRequest) (tenant : Nat) : RequestWrites request (.ensureQuota tenant)
  | createDocumentJob (tenant user : Nat) (type : String) (version : Nat) :
      RequestWrites (.createDocumentJob tenant user type)
        (.createDocumentJob tenant user type version)
  | createAssistantJob (tenant user conversation row : Nat) (text : String) :
      RequestWrites (.createAssistantJob tenant user conversation text)
        (.createAssistantJob tenant user row text)
  | refreshSynthesis (tenant user : Nat) :
      RequestWrites (.refreshSynthesis tenant user) (.createSynthesisJob tenant user)
  | consoleRefresh (tenant user : Nat) :
      RequestWrites (.consoleRefresh tenant user) (.createSynthesisJob tenant user)
  | editContent (tenant document row : Nat) (content : String) :
      RequestWrites (.updateDocument tenant document content) (.editContent row content)
  | validateDocument (tenant document now row : Nat) (shown : String) :
      RequestWrites (.validateDocument tenant document now) (.validateDocument row shown now)
  | run {job : JobRef} {change : AiWrite} (run : TaskRun) (writes : RunWrites job change) :
      RequestWrites (.runTask job run) change
  | callModel (tenant : Nat) (run : TaskRun) :
      RequestWrites (.enrichWeather tenant run) (.callModel tenant .weatherEnrichment none)
  | recordUsage (tenant tokens : Nat) (run : TaskRun) :
      RequestWrites (.enrichWeather tenant run) (.recordUsage tenant tokens)

theorem requestWrites_of_makes {request : AiRequest} {change : AiWrite}
    (makes : (aiProgram request).Makes change) : RequestWrites request change := by
  cases request with
  | setEnabled tenant enabled =>
      obtain rfl := makes.resolve_right id
      exact .setEnabled tenant enabled
  | turnMonth period =>
      obtain rfl := makes.resolve_right id
      exact .turnMonth period
  | consoleRefresh tenant user =>
      obtain rfl := makes.resolve_right id
      exact .consoleRefresh tenant user
  | runTask job run => exact .run run (runWrites_of_makes makes)
  | createDocumentJob tenant user type =>
      obtain ⟨_, makes⟩ := makes
      rcases makes_guarded makes with rfl | ⟨_, done⟩ | ⟨_, rfl | done⟩
      · exact .ensureQuota _ tenant
      · exact done.elim
      · exact .createDocumentJob tenant user type _
      · exact done.elim
  | createAssistantJob tenant user conversation text =>
      obtain ⟨_, makes⟩ := makes
      dsimp only at makes
      split at makes
      · exact makes.elim
      · rcases makes_guarded makes with rfl | ⟨_, done⟩ | rfl | done
        · exact .ensureQuota _ tenant
        · exact done.elim
        · exact .createAssistantJob tenant user conversation _ text
        · exact done.elim
  | refreshSynthesis tenant user =>
      obtain ⟨_, makes⟩ := makes
      rcases makes_guarded makes with rfl | ⟨_, done⟩ | rfl | done
      · exact .ensureQuota _ tenant
      · exact done.elim
      · exact .refreshSynthesis tenant user
      · exact done.elim
  | updateDocument tenant document content =>
      obtain ⟨_, makes⟩ := makes
      dsimp only at makes
      split at makes
      · exact makes.elim
      · split at makes
        · exact makes.elim
        · obtain rfl := makes.resolve_right id
          exact .editContent tenant document _ content
  | validateDocument tenant document now =>
      obtain ⟨_, makes⟩ := makes
      dsimp only at makes
      split at makes
      · exact makes.elim
      · obtain ⟨_, makes⟩ := makes
        dsimp only at makes
        split at makes
        · exact makes.elim
        · obtain rfl := makes.resolve_right id
          exact .validateDocument tenant document now _ _
  | enrichWeather tenant run =>
      obtain ⟨_, makes⟩ := makes
      rcases makes_guarded makes with rfl | ⟨_, done⟩ | makes
      · exact .ensureQuota _ tenant
      · exact done.elim
      · rcases makes_callClaude makes with rfl | ⟨tokens, rfl⟩ | ⟨_, done⟩ | ⟨_, done⟩
        · exact .callModel tenant run
        · exact .recordUsage tenant tokens run
        · exact done.elim
        · exact done.elim

/-! ## The job of a run -/

/-- The job has ended; a write that belongs to none has no job to end. -/
def JobOver : Option JobRef → AiDatabase → Prop
  | none, _ => False
  | some job, db => db.openJob job = none

section Reliance

variable {Key : Type*} {job : JobRef} {run : TaskRun}

/-- What a run relies on fails somewhere where its job is open. -/
theorem open_of_relies_unlessFinished {stakes : Stakes AiDatabase AiWrite Key} {key : Key}
    {next : AiDatabase → AiProgram} (relies : stakes.Relies key (unlessFinished job next)) :
    ∃ db row, ¬stakes.clear key db ∧ db.openJob job = some row := by
  obtain ⟨db, missing, relies⟩ := relies
  dsimp only at relies
  cases found : db.openJob job with
  | none =>
      rw [found] at relies
      exact relies.elim
  | some row => exact ⟨db, row, missing, found⟩

theorem open_of_relies {stakes : Stakes AiDatabase AiWrite Key} {key : Key}
    (relies : stakes.Relies key (taskProgram job run)) :
    ∃ db row, ¬stakes.clear key db ∧ db.openJob job = some row := by
  rw [taskProgram] at relies
  split at relies
  · exact open_of_relies_unlessFinished relies
  · exact open_of_relies_unlessFinished relies
  · exact open_of_relies_unlessFinished relies
  · exact relies.elim

/-- A run looks first whether its job is open: it relies on nothing that is needed
once the job has ended. -/
theorem early_of_relies {clear : Key → AiDatabase → Prop}
    {acts : Key → Option JobRef → AiWrite → Prop} {key : Key} {side : Bool}
    (relies : (Stakes.split clear JobOver acts).Relies (key, some job, side)
      (taskProgram job run)) : side = true := by
  obtain ⟨db, row, missing, found⟩ := open_of_relies relies
  cases side with
  | true => rfl
  | false =>
      refine absurd (Or.inl ?_) missing
      rw [JobOver, found]
      exact Option.some_ne_none row

end Reliance

end RssiService.AiAssistant.Jobs
