import RssiService.AiAssistant.Jobs

/-!
# Validated documents

A document is edited until it is validated, and validated as it was shown.  The
edition looks at the status and saves the row it has read; the run that wrote the
document saves what the model answered, whatever the row has become meanwhile.
-/

namespace RssiService.AiAssistant.Documents

open Foundation Run Interleaving Reliance Jobs

/-- Every document validated before is validated after, with the same content. -/
def ValidatedKept (before after : AiDatabase) : Prop :=
  ∀ row ∈ before.documents, row.status = .validated →
    ∃ later ∈ after.documents, later.id = row.id ∧ later.status = .validated ∧
      later.contentMarkdown = row.contentMarkdown

theorem ValidatedKept.refl (db : AiDatabase) : ValidatedKept db db :=
  fun row member validated => ⟨row, member, rfl, validated, rfl⟩

theorem ValidatedKept.trans {first second third : AiDatabase}
    (earlier : ValidatedKept first second) (later : ValidatedKept second third) :
    ValidatedKept first third := by
  intro row member validated
  obtain ⟨middle, inside, same, still, content⟩ := earlier row member validated
  obtain ⟨last, kept, same', ending, content'⟩ := later middle inside still
  exact ⟨last, kept, same'.trans same, ending, content'.trans content⟩

theorem validatedKept_of_documents {before after : AiDatabase}
    (same : after.documents = before.documents) : ValidatedKept before after := by
  intro row member validated
  exact ⟨row, same ▸ member, rfl, validated, rfl⟩

theorem validatedKept_modifyDocument {db : AiDatabase} {document : Nat}
    {change : GeneratedDocument → GeneratedDocument}
    {keeps : ∀ row, ident (change row) = ident row}
    (fits : ∀ row ∈ db.documents, row.id = document → row.status = .validated →
      (change row).status = .validated ∧ (change row).contentMarkdown = row.contentMarkdown) :
    ValidatedKept db (db.modifyDocument document change keeps) := by
  intro row member validated
  by_cases own : row.id = document
  · obtain ⟨still, content⟩ := fits row member own validated
    have inside : change row ∈ db.documents.modify document change keeps :=
      Table.mem_modify.mpr ⟨row, member, if_pos own⟩
    exact ⟨change row, inside, keeps row, still, content⟩
  · have inside : row ∈ db.documents.modify document change keeps :=
      Table.mem_modify.mpr ⟨row, member, if_neg own⟩
    exact ⟨row, inside, rfl, validated, rfl⟩

/-- A document is validated with the content that its validator was shown. -/
def ValidatedAsShown (db : AiDatabase) : AiWrite → Prop
  | .validateDocument document shown _ =>
      ∀ row ∈ db.documents, row.id = document → row.contentMarkdown = shown
  | _ => True

/-! ## What a write on a document needs -/

inductive DocumentNeed where
  | unvalidated (document : Nat)
  | unchanged (document : Nat) (shown : String)

def DocumentNeed.Holds : DocumentNeed → AiDatabase → Prop
  | .unvalidated document, db =>
      ∀ row ∈ db.documents, row.id = document → row.status ≠ .validated
  | .unchanged document shown, db =>
      ∀ row ∈ db.documents, row.id = document → row.contentMarkdown = shown

def NeedsDocument (need : DocumentNeed) (case : Option JobRef) : AiWrite → Prop
  | .saveGenerated document _ job | .failDocument document job =>
      need = .unvalidated document ∧ case = some job
  | .editContent document _ => need = .unvalidated document ∧ case = none
  | .validateDocument document shown _ => need = .unchanged document shown ∧ case = none
  | _ => False

/-- What a generation writes needs its document not to be validated, and so does an
edition; a validation needs the content that was shown. -/
def documentStakes : Stakes AiDatabase AiWrite (DocumentNeed × Option JobRef × Bool) :=
  Stakes.split DocumentNeed.Holds JobOver NeedsDocument

theorem validatedKept_of_finds {db : AiDatabase} {change : AiWrite}
    (finds : documentStakes.Finds db change) : ValidatedKept db (db.apply change) := by
  cases change with
  | saveGenerated document content job =>
      have needed := Stakes.clear_of_split (.unvalidated document) (some job) finds ⟨rfl, rfl⟩
      refine validatedKept_modifyDocument ?_
      exact fun row member own validated => absurd validated (needed row member own)
  | failDocument document job =>
      have needed := Stakes.clear_of_split (.unvalidated document) (some job) finds ⟨rfl, rfl⟩
      refine validatedKept_modifyDocument ?_
      exact fun row member own validated => absurd validated (needed row member own)
  | editContent document content =>
      have needed := Stakes.clear_of_split (.unvalidated document) none finds ⟨rfl, rfl⟩
      refine validatedKept_modifyDocument ?_
      exact fun row member own validated => absurd validated (needed row member own)
  | validateDocument document shown now =>
      refine validatedKept_modifyDocument ?_
      exact fun row member own validated => ⟨rfl, rfl⟩
  | createDocumentJob tenant user type version =>
      intro row member validated
      exact ⟨row, Table.mem_create.mpr (Or.inl member), rfl, validated, rfl⟩
  | ensureQuota tenant => exact validatedKept_of_documents db.ensureQuota_documents
  | recordUsage tenant tokens => exact validatedKept_of_documents db.ensureQuota_documents
  | _ => exact validatedKept_of_documents rfl

theorem validatedAsShown_of_finds {db : AiDatabase} {change : AiWrite}
    (finds : documentStakes.Finds db change) : ValidatedAsShown db change := by
  cases change with
  | validateDocument document shown now =>
      exact Stakes.clear_of_split (.unchanged document shown) none finds ⟨rfl, rfl⟩
  | _ => trivial

/-- While nothing takes from a request what its writes on documents rely on, a
validated document stays as it is, and is validated as it was shown. -/
theorem validated_documents_kept {start : Session AiDatabase AiWrite}
    {moments : List (Moment AiRequest)} (covered : documentStakes.Covered start)
    (keeps : EachStep (step AiDatabase.apply aiProgram)
      (documentStakes.KeepsCover AiDatabase.apply aiProgram) start moments) :
    Related (step AiDatabase.apply aiProgram)
        (fun first last => ValidatedKept first.state last.state) start moments ∧
      EachStep (step AiDatabase.apply aiProgram) (WriteMeets ValidatedAsShown) start moments := by
  have kept := Stakes.eachStep_writeMeets (fun _ _ => validatedKept_of_finds) covered keeps
  refine ⟨?_, Stakes.eachStep_writeMeets (fun _ _ => validatedAsShown_of_finds) covered keeps⟩
  refine (related_iff_eachStep (fun session => .refl session.state) fun _ _ _ => .trans).mpr ?_
  exact kept.imp fun _ _ => related_of_writeMeets ValidatedKept.refl

/-! ## What the requests rely on when they come in -/

section Arrivals

variable {need : DocumentNeed} {case : Option JobRef} {side : Bool}

theorem mem_of_getDocument {db : AiDatabase} {tenant document : Nat} {row : GeneratedDocument}
    (found : db.getDocument tenant document = some row) : row ∈ db.documents ∧ row.id = document :=
  Table.find?_eq_some_iff.mp (Option.filter_eq_some_iff.mp found).1

/-- An edition has read a document that is not validated. -/
theorem not_relies_updateDocumentContent {tenant document : Nat} {content : String} :
    ¬documentStakes.Relies (need, case, side) (updateDocumentContent tenant document content) := by
  rintro ⟨db, missing, relies⟩
  dsimp only at relies
  cases found : db.getDocument tenant document with
  | none =>
      rw [found] at relies
      exact relies
  | some row =>
      rw [found] at relies
      dsimp only at relies
      split at relies
      · exact relies
      · rename_i unvalidated
        obtain ⟨rfl, rfl⟩ := relies.resolve_right id
        refine Stakes.not_clear_of_split missing ?_
        intro other member same
        rwa [Table.ident_injective member (mem_of_getDocument found).1 same]

/-- A validation has read the content that it shows. -/
theorem not_relies_validateDocument {tenant document now : Nat} :
    ¬documentStakes.Relies (need, case, side) (validateDocument tenant document now) := by
  rintro ⟨db, missing, relies⟩
  dsimp only at relies
  cases found : db.getDocument tenant document with
  | none =>
      rw [found] at relies
      exact relies
  | some shown =>
      rw [found] at relies
      obtain ⟨later, -, relies⟩ := relies
      dsimp only at relies
      cases again : later.getDocument tenant document with
      | none =>
          rw [again] at relies
          exact relies
      | some row =>
          rw [again] at relies
          obtain ⟨rfl, rfl⟩ := relies.resolve_right id
          refine Stakes.not_clear_of_split missing ?_
          intro other member same
          obtain ⟨inside, key⟩ := mem_of_getDocument found
          have shown_key : ident other = ident shown :=
            same.trans ((mem_of_getDocument again).2.trans key.symm)
          rw [Table.ident_injective member inside shown_key]

/-- Only the run that writes a document relies on something when it comes in: that
the document is not validated, as long as its job is open. -/
theorem relies_aiProgram {request : AiRequest}
    (relies : documentStakes.Relies (need, case, side) (aiProgram request)) :
    ∃ job run document, request = .runTask job run ∧ job.useCase = .documentCharter ∧
      job.target = some document ∧ need = .unvalidated document ∧ case = some job ∧
      side = true := by
  obtain ⟨change, makes, needs⟩ := Stakes.makes_of_relies relies
  cases requestWrites_of_makes makes with
  | @run job _ run writes =>
      cases writes with
      | saveGenerated content useCase target =>
          obtain ⟨rfl, rfl⟩ := needs
          exact ⟨job, run, _, rfl, useCase, target, rfl, rfl, early_of_relies relies⟩
      | failDocument useCase target =>
          obtain ⟨rfl, rfl⟩ := needs
          exact ⟨job, run, _, rfl, useCase, target, rfl, rfl, early_of_relies relies⟩
      | _ => exact needs.elim
  | editContent => exact absurd relies not_relies_updateDocumentContent
  | validateDocument => exact absurd relies not_relies_validateDocument
  | _ => exact needs.elim

/-- A request may come in at any time, but for the run that writes a document: if its
job is open, the document is not to be validated yet. -/
theorem keepsCover_arrive {session : Session AiDatabase AiWrite} {client : Nat}
    {request : AiRequest}
    (allowed : ∀ job run document, request = .runTask job run → job.useCase = .documentCharter →
      job.target = some document → session.state.openJob job ≠ none →
        (DocumentNeed.unvalidated document).Holds session.state) :
    documentStakes.KeepsCover AiDatabase.apply aiProgram session (.arrive client request) := by
  rintro _ ⟨need, case, side⟩ relies
  obtain ⟨job, run, document, asked, useCase, target, rfl, rfl, rfl⟩ := relies_aiProgram relies
  by_cases ended : session.state.openJob job = none
  · exact Or.inl ended
  · exact Or.inr (allowed job run document asked useCase target ended)

end Arrivals

/-! ## A run delivered twice -/

section WrittenTwice

def charterJob : JobRef := ⟨0, 1, .documentCharter, some 0⟩

/-- A charter has been asked for. -/
def charterAsked : AiDatabase :=
  (AiDatabase.unused 202609 1000).apply (.createDocumentJob 1 7 "it_charter" 1)

def firstText : TaskRun := ⟨.answered "Charte" 100 none, false, 60⟩

def secondText : TaskRun := ⟨.answered "Charte informatique" 100 none, false, 90⟩

/-- Two workers come to the job; the first one saves, and the document is validated. -/
def savedAndValidated : List (Moment AiRequest) :=
  .arrive 2 (.runTask charterJob firstText) :: .arrive 3 (.runTask charterJob secondText) ::
    List.replicate 3 (.advance 3) ++ List.replicate 7 (.advance 2) ++
    .arrive 0 (.validateDocument 1 0 70) :: List.replicate 3 (.advance 0)

/-- The second worker saves what it was answered. -/
theorem validated_document_rewritten :
    ¬Related (step AiDatabase.apply aiProgram)
      (fun first last => ValidatedKept first.state last.state) (.start charterAsked)
      (savedAndValidated ++ List.replicate 3 (.advance 3)) := by
  intro related
  have validated : (after (step AiDatabase.apply aiProgram) (.start charterAsked)
      savedAndValidated).state.documents.rows =
        [⟨0, 1, "it_charter", .validated, 1, "Charte", some 7, some 70⟩] := by decide +kernel
  have rewritten : (after (step AiDatabase.apply aiProgram) (.start charterAsked)
      (savedAndValidated ++ List.replicate 3 (.advance 3))).state.documents.rows =
        [⟨0, 1, "it_charter", .draft, 1, "Charte informatique", some 7, some 70⟩] := by
    decide +kernel
  obtain ⟨later, inside, -, still, -⟩ :=
    related.last _ (Table.mem_def.mpr (validated ▸ List.mem_singleton_self _)) rfl
  rw [Table.mem_def, rewritten, List.mem_singleton] at inside
  rw [inside] at still
  exact DocumentStatus.noConfusion still

/-- A charter that has been written. -/
def charterWritten : AiDatabase := charterAsked.apply (.saveGenerated 0 "Charte" charterJob)

/-- Validated as it was shown, the charter is not edited any more. -/
theorem validated_documents_kept_once :
    Related (step AiDatabase.apply aiProgram)
        (fun first last => ValidatedKept first.state last.state) (.start charterWritten)
        [.arrive 0 (.validateDocument 1 0 70), .advance 0, .advance 0, .advance 0,
          .arrive 1 (.updateDocument 1 0 "Autre charte"), .advance 1] ∧
      EachStep (step AiDatabase.apply aiProgram) (WriteMeets ValidatedAsShown)
        (.start charterWritten)
        [.arrive 0 (.validateDocument 1 0 70), .advance 0, .advance 0, .advance 0,
          .arrive 1 (.updateDocument 1 0 "Autre charte"), .advance 1] := by
  refine validated_documents_kept (Stakes.covered_start _)
    ⟨keepsCover_arrive ?_, trivial, trivial, ?_, keepsCover_arrive ?_, trivial, trivial⟩
  · rintro job run document asked
    exact AiRequest.noConfusion asked
  · refine Stakes.keepsCover_alone rfl (fun other apart => ?_) fun key relies => relies.elim
    rw [step_pending_of_ne (by exact apart.symm), step_pending_of_ne (by exact apart.symm),
      step_pending_of_ne (by exact apart.symm)]
    rfl
  · rintro job run document asked
    exact AiRequest.noConfusion asked

end WrittenTwice

end RssiService.AiAssistant.Documents
