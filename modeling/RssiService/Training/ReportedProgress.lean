import RssiService.Foundation.Outcome
import RssiService.Training.Reports

/-!
# Progress and the catalogue

The screens that an employee has seen are rows that refer to the screens of the course.
When the catalogue is loaded again the screens of a version may be deleted, and what
refers to them goes with them; the certificates stay.
-/

namespace RssiService.Training

open Foundation Foundation.Run Interleaving Python

/-! ## What a load deletes -/

namespace Library

/-- The version that a load of the catalogue empties. -/
def emptied (library : Library) (data : CourseData) (reset : Bool) (now : Nat) : Option Nat :=
  if reset then do
    let cours ← library.courses.rows.find? fun row => row.slug = data.slug
    let version ← library.latestVersion cours.id
    let _ ← library.load (.existing cours.id) (some version) true data now
    return version.id
  else none

/-- Screens and versions are added, and none goes. -/
structure AddsScreens (before after : Library) : Prop where
  screens : before.screens.next ≤ after.screens.next
  versions : before.versions.next ≤ after.versions.next
  kept : ∀ screen : Screen, screen.id < before.screens.next →
    (screen ∈ after.screens ↔ screen ∈ before.screens)

namespace AddsScreens

variable {library after : Library} {version : Nat}

theorem refl (library : Library) : AddsScreens library library :=
  ⟨Nat.le_refl _, Nat.le_refl _, fun _ _ => Iff.rfl⟩

theorem trans {first second third : Library} (earlier : AddsScreens first second)
    (later : AddsScreens second third) : AddsScreens first third where
  screens := earlier.screens.trans later.screens
  versions := earlier.versions.trans later.versions
  kept screen old :=
    (later.kept screen (old.trans_le earlier.screens)).trans (earlier.kept screen old)

/-- A write that leaves the screens. -/
theorem of_same (screens : after.screens = library.screens)
    (versions : library.versions.next ≤ after.versions.next) : AddsScreens library after :=
  ⟨by rw [screens], versions, fun screen _ => by rw [screens]⟩

theorem addScreen {draft : ScreenDraft} (written : library.addScreen version draft = some after) :
    AddsScreens library after := by
  rw [Library.addScreen] at written
  split at written
  · cases written
  · obtain rfl := Option.some.inj written
    refine ⟨Nat.le_succ _, Nat.le_refl _, fun screen old => ?_⟩
    refine Iff.trans (@Table.mem_create _ _ library.screens (draft.row version) (fun _ => rfl) screen)
      (or_iff_left ?_)
    rintro rfl
    exact absurd old (Nat.lt_irrefl _)

theorem addQuestion {screen : Nat} {draft : QuestionDraft}
    (written : library.addQuestion version screen draft = some after) :
    AddsScreens library after := by
  rw [Library.addQuestion] at written
  split at written
  · cases written
  · obtain rfl := Option.some.inj written
    exact of_same rfl (Nat.le_refl _)

theorem addContent {screens : List ScreenDraft} {questions : List (Nat × QuestionDraft)}
    (written : library.addContent version screens questions = some after) :
    AddsScreens library after := by
  rw [Library.addContent, Option.bind_eq_bind, Option.bind_eq_some_iff] at written
  obtain ⟨loaded, first, later⟩ := written
  refine trans (Outcome.related_foldlM refl trans (fun _ _ _ => addScreen) first)
    (Outcome.related_foldlM refl trans (fun library value after written => ?_) later)
  dsimp only at written
  split at written
  · exact addQuestion written
  · cases written

theorem addCourse {target : CourseTarget} {course : Nat}
    (written : library.addCourse target = some (after, course)) : AddsScreens library after := by
  cases target with
  | existing key =>
      cases written
      exact refl library
  | new slug title summary owner =>
      rw [Library.addCourse] at written
      split at written
      · cases written
      · cases written
        exact of_same rfl (Nat.le_refl _)

end AddsScreens

variable {library after : Library}

/-- A load adds screens to what is left of the version it fills. -/
theorem load_screens {target : CourseTarget} {found : Option CourseVersion} {reset : Bool}
    {data : CourseData} {now : Nat} (written : library.load target found reset data now = some after) :
    library.screens.next ≤ after.screens.next ∧ library.versions.next ≤ after.versions.next ∧
      ∀ screen : Screen, screen.id < library.screens.next →
        (screen ∈ after.screens ↔ screen ∈ library.screens ∧
          ∀ version, found = some version → reset = true → screen.version ≠ version.id) := by
  rw [load, Option.bind_eq_bind, Option.bind_eq_some_iff] at written
  obtain ⟨⟨opened, course⟩, added, written⟩ := written
  dsimp only at written
  rw [Option.bind_eq_bind, Option.bind_eq_some_iff] at written
  obtain ⟨⟨prepared, version⟩, emptied, written⟩ := written
  dsimp only at written
  rw [Option.bind_eq_some_iff] at written
  obtain ⟨filled, content, written⟩ := written
  have first := AddsScreens.addCourse added
  have second := AddsScreens.addContent content
  have last : filled.screens = after.screens ∧ filled.versions.next = after.versions.next := by
    split at written
    · cases written
      exact ⟨rfl, rfl⟩
    · split at written
      · cases written
        exact ⟨rfl, rfl⟩
      · cases written
  have middle : opened.versions.next ≤ prepared.versions.next ∧
      opened.screens.next = prepared.screens.next ∧
      ∀ screen : Screen, screen ∈ prepared.screens ↔ screen ∈ opened.screens ∧
        ∀ version, found = some version → reset = true → screen.version ≠ version.id := by
    cases found with
    | none =>
        rw [loadedVersion, addVersion] at emptied
        split at emptied
        · cases emptied
        · cases emptied
          refine ⟨Nat.le_succ _, rfl, fun screen => (and_iff_left ?_).symm⟩
          intro version absent
          cases absent
    | some row =>
        rw [loadedVersion] at emptied
        cases emptied
        cases reset with
        | false =>
            refine ⟨Nat.le_refl _, rfl, fun screen => (and_iff_left ?_).symm⟩
            intro version _ unset
            cases unset
        | true =>
            refine ⟨Nat.le_refl _, rfl, fun screen => ?_⟩
            change screen ∈ opened.screens.deleteWhere (fun screen => screen.version = row.id) ↔ _
            rw [Table.mem_deleteWhere]
            refine and_congr_right fun _ => ?_
            rw [decide_eq_false_iff_not]
            constructor
            · rintro apart version same _
              cases same
              exact apart
            · exact fun apart => apart row rfl rfl
  refine ⟨?_, ?_, fun screen old => ?_⟩
  · rw [← last.1]
    exact (first.screens.trans middle.2.1.le).trans second.screens
  · rw [← last.2]
    exact first.versions.trans (middle.1.trans second.versions)
  · have old' : screen.id < prepared.screens.next := by
      rw [← middle.2.1]
      exact old.trans_le first.screens
    rw [← last.1, second.kept screen old', middle.2.2 screen, first.kept screen old]

/-- A load that empties no version adds screens. -/
theorem addsScreens_load {target : CourseTarget} {found : Option CourseVersion} {reset : Bool}
    {data : CourseData} {now : Nat} (fills : found = none ∨ reset = false) :
    AddsScreens library (library.applyStudio (.load target found reset data now)) := by
  rw [applyStudio, write?]
  cases written : library.load target found reset data now with
  | none => exact .refl library
  | some later =>
      obtain ⟨screens, versions, kept⟩ := load_screens written
      refine ⟨screens, versions, fun screen old => (kept screen old).trans (and_iff_left ?_)⟩
      rintro version rfl again
      rcases fills with none | first
      · cases none
      · cases first.symm.trans again

/-- After the loading command, the screens are there but for those of the version that it
emptied. -/
theorem charger_screens (library : Library) (data : CourseData) (reset : Bool) (now : Nat) :
    let after := (unCours data reset now).alone applyStudio library
    library.versions.next ≤ after.versions.next ∧
      ∀ screen : Screen, screen.id < library.screens.next →
        (screen ∈ after.screens ↔ screen ∈ library.screens ∧
          library.emptied data reset now ≠ some screen.version) := by
  have unfilled {later : Library} (nothing : library.emptied data reset now = none)
      (adds : AddsScreens library later) :
      library.versions.next ≤ later.versions.next ∧
        ∀ screen : Screen, screen.id < library.screens.next →
          (screen ∈ later.screens ↔ screen ∈ library.screens ∧
            library.emptied data reset now ≠ some screen.version) := by
    refine ⟨adds.versions, fun screen old => ?_⟩
    rw [nothing, adds.kept screen old]
    exact (and_iff_left nofun).symm
  dsimp only
  rw [unCours]
  simp only [Program.alone]
  cases cours : library.courses.rows.find? fun row => row.slug = data.slug with
  | none =>
      refine unfilled ?_ (addsScreens_load (Or.inl rfl))
      simp [emptied, cours]
  | some row =>
      simp only [Program.alone]
      cases latest : library.latestVersion row.id with
      | none =>
          refine unfilled ?_ (addsScreens_load (Or.inl rfl))
          simp [emptied, cours, latest]
      | some version =>
          cases reset with
          | false =>
              have nothing : library.emptied data false now = none := rfl
              simp only [Bool.false_eq_true, if_false, Program.alone]
              split
              · exact unfilled nothing (addsScreens_load (Or.inr rfl))
              · exact unfilled nothing (.of_same rfl (Nat.le_refl _))
          | true =>
              simp only [if_true, Program.alone, applyStudio, write?]
              cases loaded : library.load (.existing row.id) (some version) true data now with
              | none =>
                  refine unfilled ?_ (.refl library)
                  simp [emptied, cours, latest, loaded]
              | some later =>
                  have filled : library.emptied data true now = some version.id := by
                    simp [emptied, cours, latest, loaded]
                  obtain ⟨_, versions, screens⟩ := load_screens loaded
                  refine ⟨versions, fun screen old => (screens screen old).trans ?_⟩
                  rw [filled]
                  refine and_congr_right fun _ => ⟨fun apart same => ?_, fun apart row same _ => ?_⟩
                  · exact apart version rfl rfl (Option.some.inj same).symm
                  · cases same
                    exact fun same => apart (congrArg some same.symm)

end Library

/-! ## What an employee does -/

/-- The screens seen stay, the new ones are of the version, and there is no new
certificate without a screen seen. -/
structure Progresses (library : Library) (before after : Enrollment) : Prop where
  version : after.version = before.version
  kept : ∀ screen ∈ before.seen, screen ∈ after.seen
  new : ∀ screen ∈ after.seen, screen ∈ before.seen ∨
    ∃ row ∈ library.screens, row.id = screen ∧ row.version = before.version.id
  earned : after.certificates.rows ≠ [] → before.certificates.rows ≠ [] ∨ after.seen ≠ []

section Progress

variable {library : Library} {enrollment : Enrollment}

theorem Progresses.refl (library : Library) (enrollment : Enrollment) :
    Progresses library enrollment enrollment :=
  ⟨rfl, fun _ => id, fun _ => Or.inl, Or.inl⟩

/-- A submission that passes the checks is of an employee who has seen screens. -/
theorem seen_of_quizGuard {answered : Answered} {questions : List Question}
    (passes : quizGuard library enrollment answered = .ok questions) : enrollment.seen ≠ [] := by
  rw [quizGuard] at passes
  dsimp only at passes
  split at passes
  · cases passes
  · split at passes
    · cases passes
    · split at passes
      · cases passes
      · rename_i unlocked
        rw [etatDeSession] at unlocked
        dsimp only at unlocked
        rintro empty
        rw [empty] at unlocked
        refine unlocked ?_
        cases library.screensOf enrollment.version.id with
        | nil => rfl
        | cons screen rest => rfl

theorem progresses_quizStep (library : Library) (career : Career) (event : QuizEvent) :
    Progresses library career.enrollment (quizStep library career event).enrollment := by
  have refl := Progresses.refl library career.enrollment
  cases event with
  | seen screen =>
      rw [quizStep, marquerEcranVu]
      split
      · rename_i enrollment marked
        split at marked
        · rename_i known
          cases marked
          obtain ⟨row, listed, same⟩ := List.any_eq_true.mp known
          rw [Library.screensOf, List.mem_insertionSort, List.mem_filter] at listed
          have there : ∃ row ∈ library.screens, row.id = screen ∧
              row.version = career.enrollment.version.id :=
            ⟨row, listed.1, of_decide_eq_true same, of_decide_eq_true listed.2⟩
          refine ⟨rfl, fun other seen => ?_, fun other listed => ?_, Or.inl⟩
          · dsimp only
            split
            · exact seen
            · exact List.mem_append_left _ seen
          · dsimp only at listed
            split at listed
            · exact Or.inl listed
            · rcases List.mem_append.mp listed with old | new
              · exact Or.inl old
              · rw [List.mem_singleton.mp new]
                exact Or.inr there
        · cases marked
      · exact refl
  | submit answered serial now =>
      rw [quizStep]
      split
      · rename_i after result submitted
        rw [soumettreLeQuiz] at submitted
        obtain ⟨questions, passes, submitted⟩ := Outcome.bind_eq_ok.mp submitted
        obtain ⟨attempts, _, submitted⟩ := Outcome.bind_eq_ok.mp submitted
        have begun := seen_of_quizGuard passes
        cases submitted
        exact ⟨rfl, fun _ => id, fun _ => Or.inl, fun _ => Or.inr begun⟩
      · exact refl
  | grant count actor now =>
      rw [quizStep, accorderDesEssais]
      split
      · rename_i enrollment granted
        split at granted
        · cases granted
        · cases granted
          exact ⟨rfl, fun _ => id, fun _ => Or.inl, Or.inl⟩
      · exact refl
  | purge months now => exact ⟨rfl, fun _ => id, fun _ => Or.inl, Or.inl⟩

end Progress

/-! ## Runs -/

/-- What refers to a screen or a question that is gone goes with it. -/
def Inscription.cascade (library : Library) (inscription : Inscription) : Inscription :=
  { inscription with
    parcours :=
      { inscription.parcours with
        seen := inscription.parcours.seen.filter fun screen => (library.screens.find? screen).isSome
        attempts := inscription.parcours.attempts.updateWhere (fun _ => true)
          (fun attempt =>
            { attempt with
              answers := attempt.answers.filter fun answer =>
                (library.questions.find? answer.question).isSome }) fun _ => rfl } }

theorem Inscription.ident_cascade (library : Library) (inscription : Inscription) :
    ident (inscription.cascade library) = ident inscription := rfl

/-- What the figures of a company depend on.  The catalogue changes by its loading
command. -/
inductive ReportEvent where
  | campagne (event : CampaignEvent) (kept : event.isCatalogue = false)
  | charger (data : CourseData) (reset : Bool) (now : Nat)
  | attribuer (tenant course : Nat)

namespace TrainingSite

def attribuerCours (site : TrainingSite) (tenant course : Nat) : TrainingSite :=
  if site.assignments.rows.any fun row => row.tenant = tenant && row.course = course then site
  else
    { site with
      assignments := site.assignments.create (fun key => ⟨key, tenant, course⟩) fun _ => rfl }

def charger (site : TrainingSite) (data : CourseData) (reset : Bool) (now : Nat) : TrainingSite :=
  let library := (unCours data reset now).alone Library.applyStudio site.library
  { site with
    library
    inscriptions := site.inscriptions.updateWhere (fun _ => true) (Inscription.cascade library)
      (Inscription.ident_cascade library) }

def reportStep (runtime : TrainingRuntime) (site : TrainingSite) : ReportEvent → TrainingSite
  | .campagne event _ => site.step runtime event
  | .charger data reset now => site.charger data reset now
  | .attribuer tenant course => site.attribuerCours tenant course

/-- The enrolments follow versions that are there, and the screens seen are of theirs. -/
structure Followed (site : TrainingSite) : Prop where
  version : ∀ row ∈ site.inscriptions, row.version < site.library.versions.next
  own : ∀ row ∈ site.inscriptions, row.parcours.version.id = row.version
  seen : ∀ row ∈ site.inscriptions, ∀ screen ∈ row.parcours.seen,
    ∃ kept ∈ site.library.screens, kept.id = screen ∧ kept.version = row.version

/-- What is finished was begun, in every enrolment that lives. -/
def Begun (site : TrainingSite) : Prop :=
  ∀ row ∈ site.inscriptions, row.isRevoked = false → row.aTermine = true → row.aCommence = true

/-- The catalogue is the same and so are the enrolments, but for their links, their
revocations and their openings. -/
structure SameCourses (before after : TrainingSite) : Prop where
  library : after.library = before.library
  kept : ∀ row ∈ after.inscriptions, ∃ source ∈ before.inscriptions,
    source.version = row.version ∧ source.parcours = row.parcours ∧
      (row.isRevoked = false → source.isRevoked = false)

section Courses

variable {runtime : TrainingRuntime} {site after : TrainingSite}

theorem SameCourses.of_inscriptions (library : after.library = site.library)
    (inscriptions : after.inscriptions = site.inscriptions) : SameCourses site after :=
  ⟨library, fun row member => ⟨row, inscriptions ▸ member, rfl, rfl, id⟩⟩

theorem SameCourses.trans {first second third : TrainingSite} (earlier : SameCourses first second)
    (later : SameCourses second third) : SameCourses first third := by
  refine ⟨later.library.trans earlier.library, fun row member => ?_⟩
  obtain ⟨middle, inside, version, parcours, live⟩ := later.kept row member
  obtain ⟨source, present, version', parcours', live'⟩ := earlier.kept middle inside
  exact ⟨source, present, version'.trans version, parcours'.trans parcours,
    fun lives => live' (live lives)⟩

theorem SameCourses.of_modify {key : Nat} (change : Inscription → Inscription)
    (keeps : ∀ row, ident (change row) = ident row) (library : after.library = site.library)
    (inscriptions : after.inscriptions = site.inscriptions.modify key change keeps)
    (courses : ∀ row, (change row).version = row.version ∧ (change row).parcours = row.parcours ∧
      ((change row).isRevoked = false → row.isRevoked = false)) :
    SameCourses site after := by
  refine ⟨library, fun row member => ?_⟩
  rw [inscriptions, Table.mem_modify] at member
  obtain ⟨source, inside, rfl⟩ := member
  refine ⟨source, inside, ?_⟩
  split
  · exact ⟨(courses source).1.symm, (courses source).2.1.symm, (courses source).2.2⟩
  · exact ⟨rfl, rfl, id⟩

theorem sameCourses_renouveler {inscription : Inscription} {jeton : String} {now : Nat}
    (renewed : site.renouvelerLeLien runtime inscription jeton now = .ok after) :
    SameCourses site after := by
  obtain ⟨_, _, _, rfl⟩ := renouvelerLeLien_ok renewed
  exact .of_modify _ (Inscription.ident_withLink _ now) rfl rfl fun _ => ⟨rfl, rfl, id⟩

theorem sameCourses_revoquer {inscription : Inscription} {actor : Option Nat} {now : Nat} :
    SameCourses site (site.revoquer inscription actor now) := by
  rw [revoquer]
  split
  · exact .of_inscriptions rfl rfl
  · refine .of_modify (fun row => { row with revokedAt := some now, revokedBy := actor })
      (fun _ => rfl) rfl rfl fun _ => ⟨rfl, rfl, ?_⟩
    intro live
    cases live

theorem sameCourses_resoudreSession {jeton : String} {now : Nat} {found : Inscription}
    (resolved : site.resoudreSession runtime jeton now = .ok (after, found)) :
    SameCourses site after := by
  rw [resoudreSession] at resolved
  split at resolved
  · cases resolved
  · split at resolved
    · cases resolved
    · split at resolved
      · cases resolved
        exact .of_modify
          (fun row => { row with firstOpenedAt := row.firstOpenedAt <|> some now })
          (fun _ => rfl) rfl rfl fun _ => ⟨rfl, rfl, id⟩
      · cases resolved

theorem SameCourses.followed (same : SameCourses site after) (followed : Followed site) :
    Followed after := by
  refine ⟨fun row member => ?_, fun row member => ?_, fun row member screen listed => ?_⟩
  · obtain ⟨source, inside, version, _⟩ := same.kept row member
    rw [← version, same.library]
    exact followed.version source inside
  · obtain ⟨source, inside, version, parcours, _⟩ := same.kept row member
    rw [← version, ← parcours]
    exact followed.own source inside
  · obtain ⟨source, inside, version, parcours, _⟩ := same.kept row member
    rw [← version, same.library]
    exact followed.seen source inside screen (parcours ▸ listed)

theorem SameCourses.begun (same : SameCourses site after) (begun : Begun site) : Begun after := by
  intro row member live finished
  obtain ⟨source, inside, _, parcours, lives⟩ := same.kept row member
  rw [Inscription.aTermine, ← parcours] at finished
  rw [Inscription.aCommence, ← parcours]
  exact begun source inside (lives live) finished

/-- What an employee does keeps what is finished begun. -/
theorem followed_suivre {inscription : Inscription} {event : QuizEvent}
    (inside : inscription ∈ site.inscriptions) (followed : Followed site) :
    Followed (site.suivre runtime inscription event) ∧
      (Begun site → Begun (site.suivre runtime inscription event)) := by
  have progress := progresses_quizStep site.library ⟨site.parcoursDe runtime inscription, 0⟩ event
  have version : (site.parcoursDe runtime inscription).version.id = inscription.version := by
    rw [parcoursDe]
    dsimp only
    cases found : site.library.versions.find? inscription.version with
    | none => exact followed.own inscription inside
    | some row => exact Table.ident_of_find? found
  have rows : ∀ row ∈ (site.suivre runtime inscription event).inscriptions,
      row ∈ site.inscriptions ∨
        row = { inscription with
          parcours := (quizStep site.library ⟨site.parcoursDe runtime inscription, 0⟩
            event).enrollment } := by
    intro row member
    have listed : row ∈ site.inscriptions.modify (ident inscription) (fun row =>
        { row with
          parcours := (quizStep site.library ⟨site.parcoursDe runtime inscription, 0⟩
            event).enrollment }) fun _ => rfl := member
    rw [Table.mem_modify_of_mem inside] at listed
    exact listed.symm.imp And.left id
  generalize (quizStep site.library ⟨site.parcoursDe runtime inscription, 0⟩ event).enrollment =
    enrollment at progress rows
  refine ⟨⟨fun row member => ?_, fun row member => ?_, fun row member screen listed => ?_⟩,
    fun begun row member live finished => ?_⟩
  · rcases rows row member with old | rfl
    · exact followed.version row old
    · exact followed.version inscription inside
  · rcases rows row member with old | rfl
    · exact followed.own row old
    · exact (congrArg CourseVersion.id progress.version).trans version
  · rcases rows row member with old | rfl
    · exact followed.seen row old screen listed
    · rcases progress.new screen listed with before | ⟨kept, present, same, own⟩
      · exact followed.seen inscription inside screen before
      · exact ⟨kept, present, same, own.trans version⟩
  · rcases rows row member with old | rfl
    · exact begun row old live finished
    · rw [Inscription.aTermine, Bool.not_eq_true', List.isEmpty_eq_false_iff] at finished
      rw [Inscription.aCommence, Bool.not_eq_true', List.isEmpty_eq_false_iff]
      rcases progress.earned finished with before | seen
      · have started := begun inscription inside live (by
          rw [Inscription.aTermine, Bool.not_eq_true', List.isEmpty_eq_false_iff]
          exact before)
        rw [Inscription.aCommence, Bool.not_eq_true', List.isEmpty_eq_false_iff] at started
        obtain ⟨screen, listed⟩ := List.exists_mem_of_ne_nil _ started
        exact List.ne_nil_of_mem (progress.kept screen listed)
      · exact seen

/-- What happens in the campaigns keeps what is finished begun. -/
theorem followed_campagne {event : CampaignEvent} (kept : event.isCatalogue = false)
    (followed : Followed site) :
    Followed (site.step runtime event) ∧ (Begun site → Begun (site.step runtime event)) := by
  have same (courses : SameCourses site (site.step runtime event)) :
      Followed (site.step runtime event) ∧ (Begun site → Begun (site.step runtime event)) :=
    ⟨courses.followed followed, courses.begun⟩
  have refl : SameCourses site site := .of_inscriptions rfl rfl
  cases event with
  | inscrire tenant learner course dueDate actor jeton mailed now =>
      rcases step_inscrire runtime site tenant learner course dueDate actor jeton mailed now with
        unchanged | ⟨employee, row, enrols⟩
      · rw [unchanged]
        exact ⟨followed, id⟩
      · obtain ⟨version, present, own, parcours⟩ := enrols.version
        refine ⟨⟨fun other member => ?_, fun other member => ?_, fun other member screen listed => ?_⟩,
          fun begun other member live finished => ?_⟩
        · rw [enrols.library]
          rcases (enrols.mem other).mp member with old | rfl
          · exact followed.version other old
          · exact own ▸ site.library.versions.allocated version present
        · rcases (enrols.mem other).mp member with old | rfl
          · exact followed.own other old
          · rw [parcours, own]
        · rw [enrols.library]
          rcases (enrols.mem other).mp member with old | rfl
          · exact followed.seen other old screen listed
          · rw [enrols.seen] at listed
            exact absurd listed List.not_mem_nil
        · rcases (enrols.mem other).mp member with old | rfl
          · exact begun other old live finished
          · exact absurd (enrols.aTermine.symm.trans finished) Bool.false_ne_true
  | renouveler tenant key jeton now =>
      rcases step_renouveler runtime site tenant key jeton now with
        unchanged | ⟨row, _, renewed⟩
      · rw [unchanged]
        exact ⟨followed, id⟩
      · exact same (sameCourses_renouveler renewed)
  | revoquer tenant key actor now =>
      refine same ?_
      rw [TrainingSite.step]
      split
      · exact refl
      · exact sameCourses_revoquer
  | activer learner active => exact same (.of_inscriptions rfl rfl)
  | regler tenant enabled midCourse beforeDueDays afterDueDays actor =>
      exact same (.of_inscriptions rfl rfl)
  | relancer now jetons failures =>
      refine same (envoyerToutes_invariant (P := SameCourses site)
        (fun links courses => courses.trans (sameCourses_renouveler links))
        (fun _ links courses => ?_) (fun _ _ courses => ?_) refl)
      · exact (courses.trans (sameCourses_renouveler links)).trans (.of_inscriptions rfl rfl)
      · exact courses.trans (.of_inscriptions rfl rfl)
  | ouvrir jeton now =>
      refine same ?_
      rw [TrainingSite.step]
      split
      · rename_i resolved
        exact sameCourses_resoudreSession resolved
      · exact refl
  | suivre tenant key event =>
      rw [TrainingSite.step]
      split
      · exact ⟨followed, id⟩
      · rename_i found
        exact followed_suivre (Table.mem_of_find? (Option.filter_eq_some_iff.mp found).1) followed
  | cataloguer library assignments => cases kept

/-- A load takes from an enrolment all that was seen of the version it empties, and
nothing else. -/
theorem seen_cascade {data : CourseData} {reset : Bool} {now : Nat} (followed : Followed site)
    {row : Inscription} (inside : row ∈ site.inscriptions) :
    (row.cascade (site.charger data reset now).library).parcours.seen =
      if site.library.emptied data reset now = some row.version then [] else row.parcours.seen := by
  have screens := (site.library.charger_screens data reset now).2
  have there : ∀ screen ∈ row.parcours.seen,
      (((site.charger data reset now).library.screens.find? screen).isSome = true ↔
        site.library.emptied data reset now ≠ some row.version) := by
    intro screen listed
    obtain ⟨kept, present, same, own⟩ := followed.seen row inside screen listed
    have old := site.library.screens.allocated kept present
    rw [Option.isSome_iff_exists]
    constructor
    · rintro ⟨later, found⟩
      obtain ⟨member, key⟩ := Table.find?_eq_some_iff.mp found
      have earlier : later.id < site.library.screens.next :=
        (key.trans same.symm).trans_lt old
      obtain ⟨before, apart⟩ := (screens later earlier).mp member
      have one : later = kept := Table.ident_injective before present (key.trans same.symm)
      rw [← own, ← one]
      exact apart
    · intro apart
      exact ⟨kept, Table.find?_eq_some_iff.mpr
        ⟨(screens kept old).mpr ⟨present, own ▸ apart⟩, same⟩⟩
  rw [Inscription.cascade]
  dsimp only
  split
  · rename_i emptied
    refine List.filter_eq_nil_iff.mpr fun screen listed found => ?_
    exact (there screen listed).mp found emptied
  · rename_i apart
    exact List.filter_eq_self.mpr fun screen listed => (there screen listed).mpr apart

theorem mem_charger {data : CourseData} {reset : Bool} {now : Nat} {row : Inscription} :
    row ∈ (site.charger data reset now).inscriptions ↔
      ∃ source ∈ site.inscriptions, source.cascade (site.charger data reset now).library = row := by
  have listed : row ∈ (site.charger data reset now).inscriptions ↔
      row ∈ site.inscriptions.updateWhere (fun _ => true)
        (Inscription.cascade (site.charger data reset now).library)
        (Inscription.ident_cascade _) := Iff.rfl
  rw [listed, Table.mem_updateWhere]
  rfl

theorem followed_charger {data : CourseData} {reset : Bool} {now : Nat}
    (followed : Followed site) : Followed (site.charger data reset now) := by
  have loaded := site.library.charger_screens data reset now
  refine ⟨fun row member => ?_, fun row member => ?_, fun row member screen listed => ?_⟩
  · obtain ⟨source, inside, rfl⟩ := mem_charger.mp member
    exact (followed.version source inside).trans_le loaded.1
  · obtain ⟨source, inside, rfl⟩ := mem_charger.mp member
    exact followed.own source inside
  · obtain ⟨source, inside, rfl⟩ := mem_charger.mp member
    rw [seen_cascade followed inside] at listed
    split at listed
    · cases listed
    · rename_i apart
      obtain ⟨kept, present, same, own⟩ := followed.seen source inside screen listed
      exact ⟨kept, (loaded.2 kept (site.library.screens.allocated kept present)).mpr
        ⟨present, own ▸ apart⟩, same, own⟩

/-- A load keeps what is finished begun exactly when it empties no version that a
finished enrolment follows. -/
theorem begun_charger_iff {data : CourseData} {reset : Bool} {now : Nat}
    (followed : Followed site) (begun : Begun site) :
    Begun (site.charger data reset now) ↔
      ∀ row ∈ site.inscriptions.rows, row.isRevoked = false → row.aTermine = true →
        site.library.emptied data reset now ≠ some row.version := by
  constructor
  · intro after row inside live finished emptied
    have started := after _ (mem_charger.mpr ⟨row, inside, rfl⟩) live finished
    rw [Inscription.aCommence, seen_cascade followed inside, if_pos emptied] at started
    cases started
  · intro apart row member live finished
    obtain ⟨source, inside, rfl⟩ := mem_charger.mp member
    rw [Inscription.aCommence, seen_cascade followed inside,
      if_neg (apart source inside live finished)]
    exact begun source inside live finished

/-- The figures of every company balance, for each course and for all. -/
def ReportsBalance (site : TrainingSite) : Prop :=
  ∀ tenant course, Balanced (site.agregats tenant course)

/-- A load empties no version that an enrolment which lives has finished. -/
def SparesFinished (site : TrainingSite) : ReportEvent → Prop
  | .charger data reset now =>
      ∀ row ∈ site.inscriptions.rows, row.isRevoked = false → row.aTermine = true →
        site.library.emptied data reset now ≠ some row.version
  | _ => True

instance (site : TrainingSite) (event : ReportEvent) : Decidable (site.SparesFinished event) :=
  match event with
  | .charger data reset now =>
      inferInstanceAs (Decidable (∀ row ∈ site.inscriptions.rows, row.isRevoked = false →
        row.aTermine = true → site.library.emptied data reset now ≠ some row.version))
  | .campagne .. | .attribuer .. => inferInstanceAs (Decidable True)

theorem reportsBalance_iff : ReportsBalance site ↔ Begun site := by
  constructor
  · intro balance row inside live finished
    refine (balanced_agregats_iff row.tenant none).mp (balance row.tenant none) row ?_ finished
    rw [inscriptionsDe, List.mem_filter]
    exact ⟨inside, by simp [live]⟩
  · intro begun tenant course
    refine (balanced_agregats_iff tenant course).mpr fun row listed => ?_
    rw [inscriptionsDe, List.mem_filter, Bool.and_eq_true, Bool.and_eq_true,
      Bool.not_eq_true'] at listed
    exact begun row listed.1 listed.2.1.2

theorem followed_reportStep {event : ReportEvent} (followed : Followed site) :
    Followed (site.reportStep runtime event) := by
  cases event with
  | campagne event kept => exact (followed_campagne kept followed).1
  | charger data reset now => exact followed_charger followed
  | attribuer tenant course =>
      rw [reportStep, attribuerCours]
      split
      · exact followed
      · exact ⟨followed.version, followed.own, followed.seen⟩

theorem begun_reportStep_iff {event : ReportEvent} (followed : Followed site)
    (begun : Begun site) :
    Begun (site.reportStep runtime event) ↔ site.SparesFinished event := by
  cases event with
  | campagne event kept => exact iff_of_true ((followed_campagne kept followed).2 begun) trivial
  | charger data reset now => exact begun_charger_iff followed begun
  | attribuer tenant course =>
      refine iff_of_true ?_ trivial
      rw [reportStep, attribuerCours]
      split
      · exact begun
      · exact begun

/-- A course of one screen and one question. -/
def passwordData : CourseData where
  slug := "mots-de-passe"
  title := "Mots de passe"
  summary := "Un par service."
  seuil := 70
  ecrans := [("Un mot de passe", [], 60)]
  questions := [(1, 1, "Faut-il partager un mot de passe ?", .single, "Jamais.",
    [("Oui", false), ("Non", true)])]

/-- The course is loaded, and an employee finishes it. -/
def finishedRun : List ReportEvent :=
  [.charger passwordData false 100,
    .campagne (.inscrire 0 0 0 20 none "jeton-a" true (10 * 86400)) rfl,
    .campagne (.suivre 0 0 (.seen 0)) rfl,
    .campagne (.suivre 0 0 (.submit (fun _ => ["1"]) "2026-0A" (11 * 86400))) rfl,
    .charger passwordData false (12 * 86400)]

end Courses

end TrainingSite

end RssiService.Training
