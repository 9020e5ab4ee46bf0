import RssiService.AiAssistant.Jobs

/-!
# Calls to the model

A call may be made for a client while its switch is on and tokens are left to it.
Both are looked at when a job is created; the runs of a document and of a reply do
not look again, and those of a synthesis and of a weather report look before they
call.
-/

namespace RssiService.AiAssistant.ModelCalls

open Foundation Run Interleaving Reliance Jobs

/-- The switch is on, and tokens are left for the month. -/
def CallAllowed (db : AiDatabase) (tenant : Nat) : Prop :=
  db.enabled tenant = true ∧ db.remainingTokens tenant ≠ 0

/-- A call is made for a client that allows it. -/
def CallsAllowed (db : AiDatabase) : AiWrite → Prop
  | .callModel tenant _ _ => CallAllowed db tenant
  | _ => True

/-! ## What a call relies on -/

inductive CallGuard where
  | switch (tenant : Nat)
  | quota (tenant : Nat)

def CallGuard.tenant : CallGuard → Nat
  | .switch tenant | .quota tenant => tenant

def CallGuard.Passes : CallGuard → AiDatabase → Prop
  | .switch tenant, db => db.enabled tenant = true
  | .quota tenant, db => db.remainingTokens tenant ≠ 0

def GuardsCall (guard : CallGuard) (job : Option JobRef) : AiWrite → Prop
  | .callModel tenant _ caller => tenant = guard.tenant ∧ caller = job
  | _ => False

/-- Each call needs both guards.  A run that has still to look at its job needs them
only if the job is open, and one that found it open even if it ends meanwhile. -/
def callStakes : Stakes AiDatabase AiWrite (CallGuard × Option JobRef × Bool) :=
  Stakes.split CallGuard.Passes JobOver GuardsCall

theorem callsAllowed_of_finds (db : AiDatabase) (change : AiWrite)
    (finds : callStakes.Finds db change) : CallsAllowed db change := by
  cases change with
  | callModel tenant useCase job =>
      have switch := Stakes.clear_of_split (CallGuard.switch tenant) job finds ⟨rfl, rfl⟩
      have quota := Stakes.clear_of_split (CallGuard.quota tenant) job finds ⟨rfl, rfl⟩
      exact ⟨switch, quota⟩
  | _ => trivial

theorem clear_of_callAllowed {db : AiDatabase} {guard : CallGuard} {case : Option JobRef}
    {side : Bool} (allowed : CallAllowed db guard.tenant) :
    callStakes.clear (guard, case, side) db := by
  refine Stakes.split_clear ?_
  cases guard with
  | switch tenant => exact allowed.1
  | quota tenant => exact allowed.2

/-- While no request comes in, and nothing is written, that takes from a request a
guard that its call relies on, every call finds the switch on and tokens left. -/
theorem calls_allowed {start : Session AiDatabase AiWrite} {moments : List (Moment AiRequest)}
    (covered : callStakes.Covered start)
    (keeps : EachStep (step AiDatabase.apply aiProgram)
      (callStakes.KeepsCover AiDatabase.apply aiProgram) start moments) :
    EachStep (step AiDatabase.apply aiProgram) (WriteMeets CallsAllowed) start moments :=
  Stakes.eachStep_writeMeets callsAllowed_of_finds covered keeps

/-! ## What the requests rely on when they come in -/

section Arrivals

variable {key : CallGuard × Option JobRef × Bool} {guard : CallGuard} {case : Option JobRef}
  {side : Bool} {run : TaskRun} {job : JobRef} {tenant : Nat}

/-- The call of a run is made for its own client. -/
theorem tenant_of_runWrites {change : AiWrite} (writes : RunWrites job change)
    (guards : GuardsCall guard case change) :
    guard.tenant = job.tenant ∧ case = some job := by
  cases writes with
  | callModel => exact ⟨guards.1.symm, guards.2.symm⟩
  | _ => exact guards.elim

/-- The guards leave nothing to rely on: the switch was on when it was read, and
tokens were left. -/
theorem not_relies_guarded {refused : String → AiProgram} {next : AiProgram} {db : AiDatabase}
    (missing : ¬callStakes.clear key db)
    (quiet : ∀ error, ¬callStakes.Relies key (refused error))
    (own : callStakes.Relies key next → key.1.tenant = tenant) :
    ¬callStakes.Relies key (guarded tenant (db.enabled tenant) refused next) := by
  rw [guarded]
  cases enabled : db.enabled tenant with
  | false => exact quiet _
  | true =>
      rintro (acts | ⟨later, missing_later, relies⟩)
      · exact acts
      · dsimp only at relies
        split at relies
        · exact quiet _ relies
        · rename_i left
          obtain ⟨guard, case, side⟩ := key
          have same : guard.tenant = tenant := own relies
          cases guard with
          | switch client =>
              refine Stakes.not_clear_of_split missing ?_
              change db.enabled client = true
              rwa [show client = tenant from same]
          | quota client =>
              refine Stakes.not_clear_of_split missing_later ?_
              change later.remainingTokens client ≠ 0
              rwa [show client = tenant from same]

theorem not_relies_raised {error : String} :
    ¬callStakes.Relies key (run.raised job id error) := by
  intro relies
  obtain ⟨change, makes, needs⟩ := Stakes.makes_of_relies relies
  rcases makes_raised makes with rfl | done
  · exact needs
  · exact done

theorem not_relies_generateExposureSynthesisTask (useCase : job.useCase = .exposureSynthesis) :
    ¬callStakes.Relies key (generateExposureSynthesisTask job run) := by
  rintro ⟨db, missing, relies⟩
  dsimp only at relies
  cases found : db.openJob job with
  | none =>
      rw [found] at relies
      exact relies
  | some row =>
      rw [found] at relies
      refine not_relies_guarded missing (fun _ => not_relies_raised) (fun later => ?_)
        (relies.resolve_left id)
      obtain ⟨change, makes, needs⟩ := Stakes.makes_of_relies later
      exact (tenant_of_runWrites (runWrites_exposureSynthesisCall useCase makes) needs).1

theorem not_relies_enrichWeatherSummary :
    ¬callStakes.Relies key (enrichWeatherSummary tenant run) := by
  rintro ⟨db, missing, relies⟩
  refine not_relies_guarded missing (fun _ => id) (fun later => ?_) relies
  obtain ⟨change, makes, needs⟩ := Stakes.makes_of_relies later
  rcases makes_callClaude makes with rfl | ⟨tokens, rfl⟩ | ⟨_, done⟩ | ⟨_, done⟩
  · exact needs.1.symm
  · exact needs.elim
  · exact done.elim
  · exact done.elim

/-- Only the runs of documents and of replies rely on something when they come in:
on the guards of their client, as long as their job is open. -/
theorem relies_aiProgram {request : AiRequest}
    (relies : callStakes.Relies (guard, case, side) (aiProgram request)) :
    ∃ job run, request = .runTask job run ∧ job.useCase ≠ .exposureSynthesis ∧
      guard.tenant = job.tenant ∧ case = some job ∧ side = true := by
  obtain ⟨change, makes, needs⟩ := Stakes.makes_of_relies relies
  cases requestWrites_of_makes makes with
  | @run job _ run writes =>
      obtain ⟨same, rfl⟩ := tenant_of_runWrites writes needs
      refine ⟨job, run, rfl, ?_, same, rfl, early_of_relies relies⟩
      intro useCase
      change callStakes.Relies _ (taskProgram job run) at relies
      rw [taskProgram, useCase] at relies
      exact not_relies_generateExposureSynthesisTask useCase relies
  | callModel tenant run => exact absurd relies not_relies_enrichWeatherSummary
  | _ => exact needs.elim

/-- A request may come in at any time, but for the run of a document or of a reply:
if its job is open, the switch has to be on and tokens left. -/
theorem keepsCover_arrive {session : Session AiDatabase AiWrite} {client : Nat}
    {request : AiRequest}
    (allowed : ∀ job run, request = .runTask job run → job.useCase ≠ .exposureSynthesis →
      session.state.openJob job ≠ none → CallAllowed session.state job.tenant) :
    callStakes.KeepsCover AiDatabase.apply aiProgram session (.arrive client request) := by
  rintro _ ⟨guard, case, side⟩ relies
  obtain ⟨job, run, asked, useCase, same, rfl, rfl⟩ := relies_aiProgram relies
  by_cases ended : session.state.openJob job = none
  · exact Or.inl ended
  · exact clear_of_callAllowed (same ▸ allowed job run asked useCase ended)

end Arrivals

/-! ## A client that turns its assistant off -/

section TurnedOff

def charterJob : JobRef := ⟨0, 1, .documentCharter, some 0⟩

def writtenAtOnce : TaskRun := ⟨.answered "Charte" 700 none, false, 60⟩

/-- The charter is asked for, the assistant is turned off, and the worker comes to
the job. -/
def turnedOff : List (Moment AiRequest) :=
  .arrive 0 (.createDocumentJob 1 7 "it_charter") :: List.replicate 5 (.advance 0) ++
    [.arrive 1 (.setEnabled 1 false), .advance 1] ++
    .arrive 2 (.runTask charterJob writtenAtOnce) :: List.replicate 3 (.advance 2)

theorem disabled_tenant_called_for :
    ¬EachStep (step AiDatabase.apply aiProgram) (WriteMeets CallsAllowed)
      (.start (.unused 202609 1000)) (turnedOff ++ [.advance 2]) := by
  intro each
  have meets := each.between
  have off : (after (step AiDatabase.apply aiProgram) (.start (.unused 202609 1000))
      turnedOff).state.enabled 1 = false := by
    decide +kernel
  have calls : ∃ next, (after (step AiDatabase.apply aiProgram) (.start (.unused 202609 1000))
      turnedOff).pending 2 = .write (.callModel 1 .documentCharter (some charterJob)) next :=
    ⟨_, rfl⟩
  obtain ⟨next, calls⟩ := calls
  rw [WriteMeets, calls] at meets
  exact Bool.false_ne_true (off.symm.trans meets.1)

def charterAsked : AiDatabase :=
  (AiDatabase.unused 202609 1000).apply (.createDocumentJob 1 7 "it_charter" 1)

/-- A run whose call is not answered, with another try left. -/
def unanswered : TaskRun := ⟨.lost "timeout", false, 60⟩

/-- Left on, the assistant is called for the same job. -/
theorem calls_allowed_unanswered :
    EachStep (step AiDatabase.apply aiProgram) (WriteMeets CallsAllowed)
      (.start charterAsked)
      (.arrive 2 (.runTask charterJob unanswered) :: List.replicate 4 (.advance 2)) := by
  refine calls_allowed (Stakes.covered_start _)
    ⟨keepsCover_arrive ?_, trivial, ?_, trivial, ?_, trivial⟩
  · rintro job run asked - -
    cases asked
    exact ⟨rfl, by decide⟩
  · -- The mark of the job takes no guard away.
    refine Stakes.keepsCover_alone rfl (fun other apart => ?_) ?_
    · rw [step_pending_of_ne (by exact apart.symm), step_pending_of_ne (by exact apart.symm)]
      rfl
    · rintro ⟨guard, case, side⟩ relies
      obtain ⟨change, makes, needs⟩ := Stakes.makes_of_relies relies
      have whole : (taskProgram charterJob unanswered).Makes change :=
        ⟨charterAsked, Or.inr makes⟩
      have same : guard.tenant = 1 := (tenant_of_runWrites (runWrites_of_makes whole) needs).1
      refine clear_of_callAllowed ?_
      rw [same]
      exact ⟨rfl, by decide⟩
  · refine Stakes.keepsCover_alone rfl (fun other apart => ?_) fun key relies => relies.elim
    rw [step_pending_of_ne (by exact apart.symm), step_pending_of_ne (by exact apart.symm),
      step_pending_of_ne (by exact apart.symm), step_pending_of_ne (by exact apart.symm)]
    rfl

end TurnedOff

end RssiService.AiAssistant.ModelCalls
