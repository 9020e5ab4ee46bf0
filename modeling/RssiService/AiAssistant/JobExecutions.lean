import RssiService.AiAssistant.Jobs

/-!
# Executions of a job

The queue delivers a message again when its worker is lost, and a failed run is
tried again: a job may be run several times.  A run looks at the status of its job
when it starts, and goes on if the job is pending or running.
-/

namespace RssiService.AiAssistant.JobExecutions

open Foundation Run Interleaving Reliance Jobs

/-- At most one reply has been written for each job. -/
def AnsweredOnce (db : AiDatabase) : Prop :=
  ∀ job : JobRef, db.messages.rows.countP (fun row => row.writtenFor = some job) ≤ 1

/-- A document or synthesis job that has ended stays as it ended. -/
def EndedKept (before after : AiDatabase) : Prop :=
  ∀ row ∈ before.jobs, row.useCase ≠ .assistantReply → row.status.isEnded = true →
    ∃ later ∈ after.jobs, later.id = row.id ∧ later.useCase = row.useCase ∧
      later.status = row.status

theorem EndedKept.refl (db : AiDatabase) : EndedKept db db :=
  fun row member _ _ => ⟨row, member, rfl, rfl, rfl⟩

theorem EndedKept.trans {first second third : AiDatabase}
    (earlier : EndedKept first second) (later : EndedKept second third) :
    EndedKept first third := by
  intro row member useCase ended
  obtain ⟨middle, inside, same, kind, status⟩ := earlier row member useCase ended
  obtain ⟨last, kept, same', kind', status'⟩ :=
    later middle inside (kind ▸ useCase) (status ▸ ended)
  exact ⟨last, kept, same'.trans same, kind'.trans kind, status'.trans status⟩

/-- The job for whose run the write is made. -/
def executedJob : AiWrite → Option JobRef
  | .markRunning job | .markDone job _ | .markFailed job _ _ => some job
  | .callModel _ _ job => job
  | .saveGenerated _ _ job | .failDocument _ job | .createReply job _ _ => some job
  | _ => none

/-- The row under this key is not a document or synthesis job that has ended. -/
def NotEnded (id : Nat) (db : AiDatabase) : Prop :=
  ∀ row ∈ db.jobs, row.id = id → row.useCase ≠ .assistantReply → row.status.isEnded = false

/-- No document or synthesis job that has ended is executed. -/
def ExecutesOpen (db : AiDatabase) (change : AiWrite) : Prop :=
  ∀ job, executedJob change = some job → NotEnded job.id db

/-! ## What an execution relies on -/

inductive ExecutionNeed where
  | notEnded (id : Nat)
  | unanswered (job : JobRef)

def ExecutionNeed.Holds : ExecutionNeed → AiDatabase → Prop
  | .notEnded id, db => NotEnded id db
  | .unanswered job, db => ∀ row ∈ db.messages, row.writtenFor ≠ some job

def NeedsExecution : ExecutionNeed → Option JobRef → AiWrite → Prop
  | .notEnded id, none, change => ∃ job, executedJob change = some job ∧ job.id = id
  | .unanswered job, some caller, .createReply author _ _ => author = job ∧ caller = job
  | _, _, _ => False

/-- An execution needs its job not to have ended, and the reply that it writes needs
none to be there. -/
def executionStakes : Stakes AiDatabase AiWrite (ExecutionNeed × Option JobRef × Bool) :=
  Stakes.split ExecutionNeed.Holds JobOver NeedsExecution

theorem executesOpen_of_finds {db : AiDatabase} {change : AiWrite}
    (finds : executionStakes.Finds db change) : ExecutesOpen db change := by
  intro job executed
  exact Stakes.clear_of_split (ExecutionNeed.notEnded job.id) none finds ⟨job, executed, rfl⟩

theorem unanswered_of_finds {db : AiDatabase} {job : JobRef} {conversation : Nat} {content : String}
    (finds : executionStakes.Finds db (.createReply job conversation content)) :
    ∀ row ∈ db.messages, row.writtenFor ≠ some job :=
  Stakes.clear_of_split (ExecutionNeed.unanswered job) (some job) finds ⟨rfl, rfl⟩

theorem endedKept_of_subset {before after : AiDatabase}
    (kept : ∀ row ∈ before.jobs, row ∈ after.jobs) : EndedKept before after :=
  fun row member _ _ => ⟨row, kept row member, rfl, rfl, rfl⟩

theorem endedKept_modifyJob {db : AiDatabase} {id : Nat} {change : AiJob → AiJob}
    {keeps : ∀ row, ident (change row) = ident row} (unended : NotEnded id db) :
    EndedKept db (db.modifyJob id change keeps) := by
  intro row member useCase ended
  have apart : row.id ≠ id := by
    intro same
    rw [unended row member same useCase] at ended
    exact Bool.false_ne_true ended
  have inside : row ∈ db.jobs.modify id change keeps :=
    Table.mem_modify.mpr ⟨row, member, if_neg apart⟩
  exact ⟨row, inside, rfl, rfl, rfl⟩

theorem endedKept_of_executesOpen {db : AiDatabase} {change : AiWrite}
    (executes : ExecutesOpen db change) : EndedKept db (db.apply change) := by
  cases change with
  | markRunning job => exact endedKept_modifyJob (executes job rfl)
  | markDone job now => exact endedKept_modifyJob (executes job rfl)
  | markFailed job error now => exact endedKept_modifyJob (executes job rfl)
  | createDocumentJob tenant user type version =>
      exact endedKept_of_subset fun row member => Table.mem_create.mpr (Or.inl member)
  | createAssistantJob tenant user conversation text =>
      exact endedKept_of_subset fun row member => Table.mem_create.mpr (Or.inl member)
  | createSynthesisJob tenant user =>
      exact endedKept_of_subset fun row member => Table.mem_create.mpr (Or.inl member)
  | ensureQuota tenant =>
      refine endedKept_of_subset fun row member => ?_
      rwa [AiDatabase.apply, AiDatabase.ensureQuota_jobs]
  | recordUsage tenant tokens =>
      refine endedKept_of_subset fun row member => ?_
      rwa [AiDatabase.apply, AiDatabase.recordUsage, AiDatabase.ensureQuota_jobs]
  | _ => exact endedKept_of_subset fun row member => member

theorem answeredOnce_of_messages {before after : AiDatabase}
    (same : after.messages = before.messages) (once : AnsweredOnce before) :
    AnsweredOnce after := by
  intro job
  rw [same]
  exact once job

theorem answeredOnce_of_finds {db : AiDatabase} {change : AiWrite}
    (finds : executionStakes.Finds db change) (once : AnsweredOnce db) :
    AnsweredOnce (db.apply change) := by
  cases change with
  | createReply job conversation content =>
      have unanswered := unanswered_of_finds finds
      intro asked
      rw [AiDatabase.apply, Table.countP_create]
      rcases eq_or_ne asked job with rfl | apart
      · have none_yet : db.messages.rows.countP (fun row => row.writtenFor = some asked) = 0 :=
          List.countP_eq_zero.mpr fun row member => by simpa using unanswered row member
        simp [none_yet]
      · simpa [apart.symm] using once asked
  | createAssistantJob tenant user conversation text =>
      intro asked
      rw [AiDatabase.apply, Table.countP_create]
      simpa using once asked
  | ensureQuota tenant => exact answeredOnce_of_messages db.ensureQuota_messages once
  | recordUsage tenant tokens => exact answeredOnce_of_messages db.ensureQuota_messages once
  | _ => exact answeredOnce_of_messages rfl once

/-- While nothing takes from a run what it relies on, each job is answered at most once,
and a document or synthesis job that has ended is neither executed nor moved. -/
theorem jobs_executed_once {start : Session AiDatabase AiWrite}
    {moments : List (Moment AiRequest)} (once : AnsweredOnce start.state)
    (covered : executionStakes.Covered start)
    (keeps : EachStep (step AiDatabase.apply aiProgram)
      (executionStakes.KeepsCover AiDatabase.apply aiProgram) start moments) :
    Always (step AiDatabase.apply aiProgram) (fun session => AnsweredOnce session.state) start
        moments ∧
      Related (step AiDatabase.apply aiProgram)
        (fun first last => EndedKept first.state last.state) start moments ∧
      EachStep (step AiDatabase.apply aiProgram) (WriteMeets ExecutesOpen) start moments := by
  have answers := Stakes.eachStep_writeMeets (fun _ _ => answeredOnce_of_finds) covered keeps
  have executes := Stakes.eachStep_writeMeets (fun _ _ => executesOpen_of_finds) covered keeps
  refine ⟨?_, ?_, executes⟩
  · refine always_of_eachStep once (answers.imp fun session moment => ?_)
    exact related_of_writeMeets (R := fun before after => AnsweredOnce before → AnsweredOnce after)
      fun _ => id
  · refine (related_iff_eachStep (fun session => .refl session.state) fun _ _ _ => .trans).mpr ?_
    exact executes.imp fun _ _ meets => related_of_writeMeets EndedKept.refl
      (meets.imp fun _ _ => endedKept_of_executesOpen)

/-! ## What the requests rely on when they come in -/

section Arrivals

variable {need : ExecutionNeed} {case : Option JobRef} {side : Bool} {job : JobRef} {run : TaskRun}

theorem executedJob_of_runWrites {change : AiWrite} {executed : JobRef}
    (writes : RunWrites job change) (same : executedJob change = some executed) :
    executed = job := by
  cases writes with
  | ensureQuota => cases same
  | recordUsage => cases same
  | touchConversation => cases same
  | _ => exact (Option.some.inj same).symm

/-- A run that goes on has read that its job has not ended. -/
theorem notEnded_of_openJob {db : AiDatabase} {row : AiJob} (found : db.openJob job = some row) :
    NotEnded job.id db := by
  intro other member same _
  obtain ⟨present, passes⟩ := Option.filter_eq_some_iff.mp found
  obtain ⟨inside, key⟩ := Table.find?_eq_some_iff.mp present
  rw [Table.ident_injective member inside (same.trans key.symm)]
  exact (by simpa using passes : row.ref = job ∧ row.status.isEnded = false).2

theorem executedJob_of_requestWrites {request : AiRequest} {change : AiWrite} {executed : JobRef}
    (writes : RequestWrites request change) (same : executedJob change = some executed) :
    ∃ run, request = .runTask executed run ∧ RunWrites executed change := by
  cases writes with
  | run run writes =>
      obtain rfl := executedJob_of_runWrites writes same
      exact ⟨run, rfl, writes⟩
  | _ => cases same

theorem clear_of_none_ended {db : AiDatabase}
    (running : ∀ row ∈ db.jobs, row.status.isEnded = false)
    (unanswered : ∀ row ∈ db.messages, row.writtenFor = none)
    (key : ExecutionNeed × Option JobRef × Bool) : executionStakes.clear key db := by
  obtain ⟨need, case, side⟩ := key
  refine Stakes.split_clear ?_
  cases need with
  | notEnded id => exact fun row member _ _ => running row member
  | unanswered job =>
      intro row member written
      rw [unanswered row member] at written
      exact Option.some_ne_none job written.symm

/-- Only the run of a reply relies on something when it comes in: that its job is not
answered, as long as it is open. -/
theorem relies_aiProgram {request : AiRequest}
    (relies : executionStakes.Relies (need, case, side) (aiProgram request)) :
    ∃ job run, request = .runTask job run ∧ job.useCase = .assistantReply ∧
      need = .unanswered job ∧ case = some job ∧ side = true := by
  obtain ⟨change, makes, needs⟩ := Stakes.makes_of_relies relies
  have writes := requestWrites_of_makes makes
  cases need with
  | notEnded id =>
      cases case with
      | some caller => exact needs.elim
      | none =>
          obtain ⟨job, executed, rfl⟩ := needs
          obtain ⟨run, rfl, -⟩ := executedJob_of_requestWrites writes executed
          change executionStakes.Relies _ (taskProgram job run) at relies
          obtain ⟨db, row, missing, found⟩ := open_of_relies relies
          have reopened : ¬(ExecutionNeed.notEnded job.id).Holds db :=
            Stakes.not_clear_of_split missing
          exact absurd (notEnded_of_openJob found) reopened
  | unanswered job =>
      cases case with
      | none => exact needs.elim
      | some caller =>
          cases change with
          | createReply author conversation content =>
              obtain ⟨rfl, rfl⟩ := needs
              obtain ⟨run, rfl, written⟩ := executedJob_of_requestWrites writes rfl
              cases written with
              | createReply _ useCase _ =>
                  exact ⟨_, run, rfl, useCase, rfl, rfl, early_of_relies relies⟩
          | _ => exact needs.elim

/-- A request may come in at any time, but for the run of a reply: if its job is open,
it is not to be answered yet. -/
theorem keepsCover_arrive {session : Session AiDatabase AiWrite} {client : Nat}
    {request : AiRequest}
    (allowed : ∀ job run, request = .runTask job run → job.useCase = .assistantReply →
      session.state.openJob job ≠ none →
        ∀ row ∈ session.state.messages, row.writtenFor ≠ some job) :
    executionStakes.KeepsCover AiDatabase.apply aiProgram session (.arrive client request) := by
  rintro _ ⟨need, case, side⟩ relies
  obtain ⟨job, run, asked, useCase, rfl, rfl, rfl⟩ := relies_aiProgram relies
  by_cases ended : session.state.openJob job = none
  · exact Or.inl ended
  · exact Or.inr (allowed job run asked useCase ended)

end Arrivals

/-! ## A worker that is lost after its reply -/

section LostWorker

def replyJob : JobRef := ⟨0, 1, .assistantReply, some 0⟩

/-- A question has been asked in a conversation. -/
def questionAsked : AiDatabase :=
  AiDatabase.apply
    { AiDatabase.unused 202609 1000 with
      conversations := Table.empty.create (fun key => ⟨key, 1, 0⟩) fun _ => rfl }
    (.createAssistantJob 1 7 0 "Que faire ?")

def replied : TaskRun := ⟨.answered "Activez la double authentification." 100 none, false, 60⟩

/-- The worker is lost once the reply is there, and the message is delivered again. -/
def lostAfterReply : List (Moment AiRequest) :=
  .arrive 2 (.runTask replyJob replied) :: List.replicate 6 (.advance 2) ++
    .arrive 3 (.runTask replyJob replied) :: List.replicate 6 (.advance 3)

theorem question_answered_twice :
    ¬Always (step AiDatabase.apply aiProgram) (fun session => AnsweredOnce session.state)
      (.start questionAsked) lostAfterReply := by
  intro always
  have twice : (after (step AiDatabase.apply aiProgram) (.start questionAsked)
      lostAfterReply).state.messages.rows.countP
        (fun row => row.writtenFor = some replyJob) = 2 := by
    decide +kernel
  have once := always.last replyJob
  rw [twice] at once
  exact absurd once (by decide)

def charterJob : JobRef := ⟨0, 1, .documentCharter, some 0⟩

def charterAsked : AiDatabase :=
  (AiDatabase.unused 202609 1000).apply (.createDocumentJob 1 7 "it_charter" 1)

/-- The last run of a job, which does not come to its call. -/
def failedRun : TaskRun := ⟨.unsent "timeout", true, 60⟩

def failedAndRedelivered : List (Moment AiRequest) :=
  [.arrive 2 (.runTask charterJob failedRun), .advance 2, .advance 2, .advance 2, .advance 2,
    .advance 2, .arrive 3 (.runTask charterJob failedRun), .advance 3]

/-- The charter fails, and a delivery after that does nothing. -/
theorem jobs_executed_once_failed :
    Always (step AiDatabase.apply aiProgram) (fun session => AnsweredOnce session.state)
        (.start charterAsked) failedAndRedelivered ∧
      Related (step AiDatabase.apply aiProgram)
        (fun first last => EndedKept first.state last.state) (.start charterAsked)
        failedAndRedelivered ∧
      EachStep (step AiDatabase.apply aiProgram) (WriteMeets ExecutesOpen) (.start charterAsked)
        failedAndRedelivered := by
  refine jobs_executed_once ?_ (Stakes.covered_start _)
    ⟨keepsCover_arrive ?_, trivial, ?_, trivial, ?_, ?_, keepsCover_arrive ?_, trivial, trivial⟩
  · intro job
    exact Nat.zero_le 1
  · rintro job run asked useCase
    cases asked
    cases useCase
  · refine Stakes.keepsCover_alone rfl (fun other apart => ?_) fun key relies => ?_
    · rw [step_pending_of_ne (by exact apart.symm), step_pending_of_ne (by exact apart.symm)]
      rfl
    · exact clear_of_none_ended (by decide +kernel) (by decide +kernel) key
  · refine Stakes.keepsCover_alone rfl (fun other apart => ?_) fun key relies => ?_
    · rw [step_pending_of_ne (by exact apart.symm), step_pending_of_ne (by exact apart.symm),
        step_pending_of_ne (by exact apart.symm), step_pending_of_ne (by exact apart.symm)]
      rfl
    · exact clear_of_none_ended (by decide +kernel) (by decide +kernel) key
  · refine Stakes.keepsCover_alone rfl (fun other apart => ?_) fun key relies => relies.elim
    rw [step_pending_of_ne (by exact apart.symm), step_pending_of_ne (by exact apart.symm),
      step_pending_of_ne (by exact apart.symm), step_pending_of_ne (by exact apart.symm),
      step_pending_of_ne (by exact apart.symm)]
    rfl
  · rintro job run asked useCase
    cases asked
    cases useCase

end LostWorker

end RssiService.AiAssistant.JobExecutions
