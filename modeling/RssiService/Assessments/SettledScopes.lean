import RssiService.Assessments.ScopeChanges

/-!
# Edits of the catalogue around an assessment

An edit writes no answer and no assessment.  Unless it recomposes the questionnaire of an
assessment, the measures that it brings into the scope have new keys.
-/

namespace RssiService.Assessments

open Foundation Foundation.Run Python

/-- The edit composes again the questionnaire that the assessment is about. -/
def Recomposes (db : Database) (assessment : Assessment) : CatalogueEvent → Prop
  | .compose referential slug _ measureCodes _ ownerTenant _ =>
      ∃ row, db.referentials.find? referential = some row ∧
        checkComposition db row slug measureCodes ownerTenant = .ok () ∧
          ∃ composition, db.subsetOf? row.id slug = some composition ∧
            assessment.subset = some composition.id
  | _ => False

/-- What an edit leaves to an assessment. -/
structure Settled (before after : Database) (assessment : Assessment) : Prop where
  assessments : after.assessments = before.assessments
  answers : after.answers = before.answers
  grown : before.measures.next ≤ after.measures.next
  scope : ∀ key, after.InScope assessment key →
    before.InScope assessment key ∨ before.measures.next ≤ key

section Edits

variable {db before after : Database} {assessment : Assessment}

theorem Settled.refl (db : Database) (assessment : Assessment) : Settled db db assessment :=
  ⟨rfl, rfl, le_rfl, fun _ => .inl⟩

/-- An edit of other tables than those the scope is read from. -/
theorem settled_of_same (assessments : after.assessments = before.assessments)
    (answers : after.answers = before.answers) (measures : after.measures = before.measures)
    (items : after.items = before.items) : Settled before after assessment where
  assessments := assessments
  answers := answers
  grown := measures ▸ le_rfl
  scope := by
    intro key inScope
    rw [inScope_iff, Database.Carries, Database.Asks, measures, items] at inScope
    exact .inl (inScope_iff.mpr inScope)

theorem Enlarged.settled {referential : Nat} {codes : List String}
    (enlarged : Enlarged referential codes before after)
    (answers : after.answers = before.answers) : Settled before after assessment where
  assessments := enlarged.assessments
  answers := answers
  grown := enlarged.grown
  scope := by
    intro key inScope
    obtain ⟨carried, asks⟩ := inScope_iff.mp inScope
    rcases Nat.lt_or_ge key before.measures.next with old | fresh
    · rw [Database.Asks, enlarged.items] at asks
      exact .inl (inScope_iff.mpr ⟨(enlarged.carries_iff (.inr old)).mp carried, asks⟩)
    · exact .inr fresh

theorem answers_importMeasures (referential domain : Nat) (state : Importing)
    (ranked : List (ParsedMeasure × Nat)) :
    (ranked.foldl (Importing.measure referential domain) state).db.answers = state.db.answers := by
  induction ranked generalizing state with
  | nil => rfl
  | cons pair rest ih => exact ih _

theorem answers_importDomains (referential : Nat) (state : Importing)
    (domains : List ParsedDomain) :
    (domains.foldl (Importing.domain referential) state).db.answers = state.db.answers := by
  induction domains generalizing state with
  | nil => rfl
  | cons parsed rest ih => exact (ih _).trans (answers_importMeasures ..)

theorem settled_importReferential {parsed : ParsedReferential} {activate : Bool}
    {ownerTenant : Option Nat} {report : ImportReport}
    (imported : importReferential db parsed activate ownerTenant = .ok (after, report)) :
    Settled db after assessment := by
  rw [importReferential] at imported
  split at imported
  · cases imported
  · cases imported
    exact (enlarged_importReferential db parsed activate ownerTenant).settled
      (answers_importDomains ..)

theorem settled_addMeasure {row : Referential} {domainCode code officialTitle plainLanguage level :
    String} {weight : Float} {effort impact sourceUrl sourceReference : String} {measure : Measure}
    (added : addMeasure db row domainCode code officialTitle plainLanguage level weight effort
      impact sourceUrl sourceReference = .ok (after, measure)) : Settled db after assessment := by
  rw [addMeasure] at added
  cases checked : checkMeasure db row domainCode code officialTitle plainLanguage effort impact with
  | error error =>
      rw [checked] at added
      cases added
  | ok domain =>
      rw [checked] at added
      cases added
      have unknown : ¬db.Knows row.id (strip code) := by
        rw [knows_iff]
        exact unknown_of_checkMeasure checked
      exact (enlarged_createMeasure (fun _ => rfl) unknown).settled rfl

theorem answers_createSubset {row : Referential} {slug name description : String}
    {measureCodes : List String} {ownerTenant createdBy : Option Nat} :
    (createSubset db row slug name measureCodes description ownerTenant createdBy).1.answers =
      db.answers := by
  rw [createSubset]
  split
  · rfl
  · dsimp only
    split <;> rfl

/-- Another questionnaire than the one of the assessment is composed. -/
theorem settled_createSubset {row : Referential} {slug name description : String}
    {measureCodes : List String} {ownerTenant createdBy : Option Nat}
    (inside : assessment ∈ db.assessments)
    (other : checkComposition db row slug measureCodes ownerTenant = .ok () →
      ∀ composition, db.subsetOf? row.id slug = some composition →
        assessment.subset ≠ some composition.id) :
    Settled db (createSubset db row slug name measureCodes description ownerTenant createdBy).1
      assessment := by
  cases checked : checkComposition db row slug measureCodes ownerTenant with
  | error error =>
      rw [createSubset, checked]
      exact .refl db assessment
  | ok accepted =>
      have tables : (createSubset db row slug name measureCodes description ownerTenant
          createdBy).1.measures = db.measures ∧
          (createSubset db row slug name measureCodes description ownerTenant
            createdBy).1.assessments = db.assessments := tables_createSubset rfl
      obtain ⟨measures, assessments⟩ := tables
      refine ⟨assessments, answers_createSubset, measures ▸ le_rfl, fun key inScope => .inl ?_⟩
      rw [inScope_iff, Database.Carries, measures] at inScope
      refine inScope_iff.mpr ⟨inScope.1, ?_⟩
      cases chosen : assessment.subset with
      | none => exact asks_none
      | some subset =>
          have asks := inScope.2
          rw [chosen, asks_createSubset checked] at asks
          split at asks
          · rename_i mine
            obtain ⟨composition, found, same⟩ := (eq_compositionKey_iff inside chosen).mp mine
            exact absurd (same ▸ chosen) (other checked composition found)
          · exact asks

/-- What one edit leaves to an assessment whose questionnaire it does not recompose. -/
theorem settled_step (inside : assessment ∈ db.assessments) {event : CatalogueEvent}
    (kept : ¬Recomposes db assessment event) : Settled db (catalogueStep db event) assessment := by
  cases event with
  | compose referential slug name measureCodes description ownerTenant createdBy =>
      rw [catalogueStep]
      split
      · exact .refl db assessment
      · rename_i row found
        refine settled_createSubset inside fun checked composition stored mine => kept ?_
        exact ⟨row, found, checked, composition, stored, mine⟩
  | addMeasure referential domainCode code officialTitle plainLanguage level weight effort impact
      sourceUrl sourceReference =>
      rw [catalogueStep]
      split
      · exact .refl db assessment
      · split
        · exact .refl db assessment
        · rename_i added
          exact settled_addMeasure added
  | importFile parsed activate ownerTenant =>
      rw [catalogueStep]
      split
      · exact .refl db assessment
      · rename_i imported
        exact settled_importReferential imported
  | grant tenant referential grantedBy note =>
      rw [catalogueStep]
      split
      · exact .refl db assessment
      · rw [assignReferential]
        split
        · rename_i refused
          split at refused
          · exact .refl db assessment
          · cases refused
        · rename_i granted
          split at granted
          · cases granted
          · cases granted
            exact settled_of_same rfl rfl rfl rfl
  | revoke now tenant referential revokedBy =>
      rw [catalogueStep]
      split
      · exact .refl db assessment
      · rw [revokeReferential]
        split
        · exact .refl db assessment
        · split
          · exact .refl db assessment
          · exact settled_of_same rfl rfl rfl rfl

end Edits

end RssiService.Assessments
