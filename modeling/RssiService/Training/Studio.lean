import RssiService.Foundation.Interleaving
import RssiService.Training.Courses

/-!
# The studio

Courses are written in the studio, where a published version is not modified, and
loaded from the catalogue by a command, which writes the same tables.  What an
operation writes in one transaction is one write, made as a whole or refused.
-/

namespace RssiService.Training

open Foundation Interleaving Python

def seuilReussiteDefaut : Nat := 70

def essaisDefaut : Nat := 3

/-- The largest value of the columns of numbers and ranks. -/
def maxSmallInteger : Nat := 32767

structure ScreenDraft where
  order : Nat
  title : String
  content : List Json
  estimatedSeconds : Nat

structure ChoiceDraft where
  order : Nat
  text : String
  isCorrect : Bool

structure QuestionDraft where
  order : Nat
  text : String
  kind : Kind
  explanation : String
  choices : List ChoiceDraft

def Screen.draft (screen : Screen) : ScreenDraft where
  order := screen.order
  title := screen.title
  content := screen.content
  estimatedSeconds := screen.estimatedSeconds

def ScreenDraft.row (draft : ScreenDraft) (version key : Nat) : Screen where
  id := key
  version := version
  order := draft.order
  title := draft.title
  content := draft.content
  estimatedSeconds := draft.estimatedSeconds

def QuestionDraft.row (draft : QuestionDraft) (version screen key : Nat) : Question where
  id := key
  version := version
  order := draft.order
  text := draft.text
  kind := draft.kind
  explanation := draft.explanation
  screen := screen

def ChoiceDraft.row (draft : ChoiceDraft) (question key : Nat) : Choice where
  id := key
  question := question
  order := draft.order
  text := draft.text
  isCorrect := draft.isCorrect

/-- A course of the catalogue. -/
structure CourseData where
  slug : String
  title : String
  summary : String
  seuil : Nat
  ecrans : List (String × List Json × Nat)
  /-- Rank, screen that answers it, text, kind, explanation and choices. -/
  questions : List (Nat × Nat × String × Kind × String × List (String × Bool))

/-- The course of a new version: one that is there, or a new one. -/
inductive CourseTarget where
  | existing (course : Nat)
  | new (slug title summary : String) (owner : Option Nat)

/-! ## Transactions -/

namespace Library

/-- The versions of a course, the last one first. -/
def versionsOf (library : Library) (course : Nat) : List CourseVersion :=
  (library.versions.rows.filter fun row => row.course = course).insertionSort
    fun first second => second.number ≤ first.number

def latestVersion (library : Library) (course : Nat) : Option CourseVersion :=
  (library.versionsOf course).head?

def draftVersion (library : Library) (course : Nat) : Option CourseVersion :=
  ((library.versionsOf course).filter fun row => !row.isPublished).head?

def publishedVersion (library : Library) (course : Nat) : Option CourseVersion :=
  ((library.versionsOf course).filter CourseVersion.isPublished).head?

theorem mem_of_publishedVersion {library : Library} {course : Nat} {row : CourseVersion}
    (found : library.publishedVersion course = some row) : row ∈ library.versions := by
  have listed := List.mem_filter.mp (List.mem_of_mem_head? found)
  exact (List.mem_filter.mp ((List.mem_insertionSort _).mp listed.1)).1

/-- The screen of a version, by its key. -/
def screenOf (library : Library) (version screen : Nat) : Option Screen :=
  (library.screens.find? screen).filter fun row => row.version = version

def questionOf (library : Library) (version question : Nat) : Option Question :=
  (library.questions.find? question).filter fun row => row.version = version

/-- The rank after the last of a list of ranks. -/
def nextOrder (orders : List Nat) : Nat := orders.foldr max 0 + 1

/-- A screen of the version other than this one has the rank. -/
def screenRankTaken (library : Library) (version order : Nat) (except : Option Nat) : Bool :=
  library.screens.rows.any fun row =>
    row.version = version && row.order = order && some row.id != except

def questionRankTaken (library : Library) (version order : Nat) (except : Option Nat) : Bool :=
  library.questions.rows.any fun row =>
    row.version = version && row.order = order && some row.id != except

def addScreen (library : Library) (version : Nat) (draft : ScreenDraft) : Option Library :=
  if library.screenRankTaken version draft.order none then none
  else some { library with screens := library.screens.create (draft.row version) fun _ => rfl }

/-- Save a screen that was read in the version: its row, which stays in its version, or
a new one if it has been deleted meanwhile. -/
def saveScreen (library : Library) (version screen : Nat) (draft : ScreenDraft) : Option Library :=
  if library.screenRankTaken version draft.order (some screen) ||
      library.screens.rows.any fun row => row.id = screen && row.version != version then none
  else some { library with screens := library.screens.put (draft.row version screen) }

def setScreenOrder (library : Library) (version screen order : Nat) : Option Library :=
  if library.screenRankTaken version order (some screen) ||
      (library.screenOf version screen).isNone then none
  else
    some { library with
      screens := library.screens.updateWhere
        (fun row => row.id = screen && row.version = version)
        (fun row => { row with order }) fun _ => rfl }

/-- The ranks of the two passes: beyond all of them first. -/
def reorderScreens (library : Library) (version : Nat) (order : List Nat) : Option Library :=
  let passes := (order.zipIdx (order.length + 1)) ++ order.zipIdx 1
  passes.foldlM (fun library (screen, rank) => library.setScreenOrder version screen rank) library

/-- Delete questions, and with them their choices. -/
def deleteQuestions (library : Library) (selected : Question → Bool) : Library where
  courses := library.courses
  versions := library.versions
  screens := library.screens
  questions := library.questions.deleteWhere selected
  choices := library.choices.deleteWhere fun choice =>
    library.questions.rows.any fun row => selected row && row.id = choice.question

/-- Delete screens, and with them the questions that refer to them. -/
def deleteScreens (library : Library) (selected : Screen → Bool) : Library :=
  let deleted := library.deleteQuestions fun question =>
    library.screens.rows.any fun row => selected row && row.id = question.screen
  { deleted with screens := library.screens.deleteWhere selected }

/-- The choices of a question that has just been saved. -/
def addChoices (library : Library) (question : Nat) (drafts : List ChoiceDraft) : Library :=
  { library with
    choices := library.choices.createAll (fun draft key => draft.row question key)
      (fun _ _ => rfl) drafts }

def addQuestion (library : Library) (version screen : Nat) (draft : QuestionDraft) :
    Option Library :=
  if library.questionRankTaken version draft.order none ||
      (library.screenOf version screen).isNone then none
  else
    some (({ library with
      questions := library.questions.create (draft.row version screen) fun _ => rfl }).addChoices
        library.questions.next draft.choices)

/-- Save a question that was read in the version, and its choices anew. -/
def saveQuestion (library : Library) (version question screen : Nat) (draft : QuestionDraft) :
    Option Library :=
  if library.questionRankTaken version draft.order (some question) ||
      (library.screenOf version screen).isNone ||
      library.questions.rows.any fun row => row.id = question && row.version != version then none
  else
    some (({ library with
      questions := library.questions.put (draft.row version screen question)
      choices := library.choices.deleteWhere fun choice =>
        choice.question = question }).addChoices question draft.choices)

/-- The content of a version; each question refers to one of its screens by position. -/
def addContent (library : Library) (version : Nat) (screens : List ScreenDraft)
    (questions : List (Nat × QuestionDraft)) : Option Library := do
  let first := library.screens.next
  let loaded ← screens.foldlM (fun library draft => library.addScreen version draft) library
  questions.foldlM (fun library (position, draft) =>
    if position < screens.length then library.addQuestion version (first + position) draft
    else none) loaded

def addCourse (library : Library) : CourseTarget → Option (Library × Nat)
  | .existing course => some (library, course)
  | .new slug title summary owner =>
      if library.courses.rows.any fun row => row.slug = slug then none
      else
        some ({ library with
          courses := library.courses.create (fun key =>
            { id := key, slug, title, summary, ownerTenant := owner }) fun _ => rfl },
          library.courses.next)

def addVersion (library : Library) (course number passThreshold maxAttempts : Nat)
    (changeNote : String) : Option (Library × Nat) :=
  if library.versions.rows.any fun row => row.course = course && row.number = number then none
  else
    some ({ library with
      versions := library.versions.create (fun key =>
        { id := key, course, number, publishedAt := none, passThreshold, maxAttempts
          changeNote }) fun _ => rfl },
      library.versions.next)

def retitle (library : Library) (course : Nat) (title summary : String) : Library :=
  { library with
    courses := library.courses.modify course (fun row => { row with title, summary }) fun _ => rfl }

def publish (library : Library) (version now : Nat) : Library :=
  { library with
    versions := library.versions.modify version
      (fun row => { row with publishedAt := some now }) fun _ => rfl }

/-- What keeps a version from being published. -/
def controlesAvantPublication (library : Library) (version : Nat) : List String :=
  let questions := library.questionsOf version
  (if (library.screensOf version).isEmpty then ["Un cours doit comporter au moins un écran."]
    else []) ++
  (if questions.isEmpty then ["Un cours doit comporter au moins une question."] else []) ++
  questions.flatMap fun question =>
    (if (library.correctChoices question.id).isEmpty then
      ["La question " ++ toString question.order ++ " n'a aucune bonne réponse."] else []) ++
    (if strip question.explanation = "" then
      ["La question " ++ toString question.order ++ " n'a pas d'explication."] else [])

end Library

/-! ## Writes -/

inductive StudioWrite where
  | createVersion (course : CourseTarget) (number passThreshold maxAttempts : Nat)
      (changeNote : String) (screens : List ScreenDraft) (questions : List (Nat × QuestionDraft))
  | addScreen (version : Nat) (draft : ScreenDraft)
  | saveScreen (version screen : Nat) (draft : ScreenDraft)
  | reorderScreens (version : Nat) (order : List Nat)
  | deleteScreen (version screen : Nat)
  | addQuestion (version screen : Nat) (draft : QuestionDraft)
  | saveQuestion (version question screen : Nat) (draft : QuestionDraft)
  | deleteQuestion (version question : Nat)
  | publish (version now : Nat)
  | retitle (course : Nat) (title summary : String)
  | load (course : CourseTarget) (found : Option CourseVersion) (reset : Bool) (data : CourseData)
      (now : Nat)

namespace CourseData

def screenDrafts (data : CourseData) : List ScreenDraft :=
  (data.ecrans.zipIdx 1).map fun ((title, content, seconds), rank) =>
    { order := rank, title, content, estimatedSeconds := seconds }

def questionDrafts (data : CourseData) : List (Nat × QuestionDraft) :=
  data.questions.map fun (rank, screen, text, kind, explanation, choices) =>
    -- `ecrans[vise - 1]`, where rank 0 counts from the end
    (if screen = 0 then data.ecrans.length - 1 else screen - 1,
      { order := rank, text, kind, explanation
        choices := (choices.zipIdx 1).map fun ((text, isCorrect), rank) =>
          { order := rank, text, isCorrect } })

end CourseData

namespace Library

/-- The version that a load fills: the one found, emptied on demand, or a first one. -/
def loadedVersion (library : Library) (course : Nat) (found : Option CourseVersion) (reset : Bool)
    (data : CourseData) : Option (Library × Nat) :=
  match found with
  | none =>
      library.addVersion course 1 data.seuil essaisDefaut "Version initiale — bibliothèque."
  | some version =>
      some (if reset then
          (library.deleteScreens fun row => row.version = version.id).deleteQuestions
            fun row => row.version = version.id
        else library,
        version.id)

/-- A load publishes a draft, and is undone as a whole where the draft may not be. -/
def load (library : Library) (target : CourseTarget) (found : Option CourseVersion) (reset : Bool)
    (data : CourseData) (now : Nat) : Option Library := do
  let (library, course) ← library.addCourse target
  let (library, version) ←
    (library.retitle course data.title data.summary).loadedVersion course found reset data
  let library ← library.addContent version data.screenDrafts data.questionDrafts
  if found.any CourseVersion.isPublished then some library
  else if (library.controlesAvantPublication version).isEmpty then
    some (library.publish version now)
  else none

def createVersion (library : Library) (target : CourseTarget)
    (number passThreshold maxAttempts : Nat) (changeNote : String) (screens : List ScreenDraft)
    (questions : List (Nat × QuestionDraft)) : Option Library := do
  let (library, course) ← library.addCourse target
  let (library, version) ←
    library.addVersion course number passThreshold maxAttempts changeNote
  library.addContent version screens questions

/-- The write of a transaction, unless the database refuses it. -/
def write? (library : Library) : StudioWrite → Option Library
  | .createVersion course number passThreshold maxAttempts changeNote screens questions =>
      library.createVersion course number passThreshold maxAttempts changeNote screens questions
  | .addScreen version draft => library.addScreen version draft
  | .saveScreen version screen draft => library.saveScreen version screen draft
  | .reorderScreens version order => library.reorderScreens version order
  | .deleteScreen version screen =>
      some (library.deleteScreens fun row => row.id = screen && row.version = version)
  | .addQuestion version screen draft => library.addQuestion version screen draft
  | .saveQuestion version question screen draft =>
      library.saveQuestion version question screen draft
  | .deleteQuestion version question =>
      some (library.deleteQuestions fun row => row.id = question && row.version = version)
  | .publish version now => some (library.publish version now)
  | .retitle course title summary => some (library.retitle course title summary)
  | .load course found reset data now => library.load course found reset data now

def applyStudio (library : Library) (change : StudioWrite) : Library :=
  (library.write? change).getD library

end Library

/-! ## Operations -/

abbrev StudioProgram := Program Library StudioWrite

/-- The version as it was loaded; a published one is refused. -/
def versionModifiable (version : Nat) (next : CourseVersion → StudioProgram) : StudioProgram :=
  .read fun library =>
    match library.versions.find? version with
    | none => .done
    | some row => if row.isPublished then .done else next row

def ecrireEcran (version : Nat) (screen : Option Nat) (title : String) (content : List Json)
    (estimatedSeconds : Nat) : StudioProgram :=
  versionModifiable version fun row =>
    .read fun library =>
      match screen with
      | none =>
          let order := Library.nextOrder ((library.screensOf row.id).map Screen.order)
          .write (.addScreen row.id ⟨order, strip title, content, estimatedSeconds⟩) .done
      | some key =>
          match library.screenOf row.id key with
          | none => .done
          | some ecran =>
              .write (.saveScreen row.id ecran.id
                ⟨ecran.order, strip title, content, estimatedSeconds⟩) .done

def reordonnerEcrans (version : Nat) (ordre : List Nat) : StudioProgram :=
  versionModifiable version fun row =>
    .read fun library =>
      let ecrans := (library.screensOf row.id).map Screen.id
      if ordre.length = ecrans.length && ordre.all ecrans.contains && ecrans.all ordre.contains then
        .write (.reorderScreens row.id ordre) .done
      else .done

def supprimerEcran (version screen : Nat) : StudioProgram :=
  versionModifiable version fun row =>
    .read fun library =>
      match library.screenOf row.id screen with
      | none => .done
      | some ecran =>
          .read fun library =>
            if library.questions.rows.any fun question => question.screen = ecran.id then .done
            else .write (.deleteScreen row.id ecran.id) .done

/-- What is refused of a question, whatever the version. -/
def questionRefused (kind : Kind) (explanation : String) (choix : List (String × Bool)) :
    Option String :=
  if strip explanation = "" then
    some ("L'explication est obligatoire : c'est la seule partie du quiz qui forme. " ++
      "Un quiz qui dit seulement « faux » n'apprend rien.")
  else if !choix.any Prod.snd then some "Il faut au moins une bonne réponse."
  else if choix.length < 2 then some "Il faut au moins deux propositions."
  else if kind = .single && 1 < choix.countP Prod.snd then
    some ("Une question à choix unique ne peut avoir qu'une bonne réponse. " ++
      "Passez-la en choix multiple.")
  else none

def ecrireQuestion (version : Nat) (question : Option Nat) (text : String) (kind : Kind)
    (explanation : String) (screen : Nat) (choix : List (String × Bool)) : StudioProgram :=
  versionModifiable version fun row =>
    if (questionRefused kind explanation choix).isSome then .done
    else
      let choices := (choix.zipIdx 1).map fun ((text, isCorrect), rank) =>
        ({ order := rank, text := strip text, isCorrect } : ChoiceDraft)
      .read fun library =>
        match library.screenOf row.id screen with
        | none => .done
        | some ecran =>
            .read fun library =>
              match question with
              | none =>
                  let order := Library.nextOrder ((library.questionsOf row.id).map Question.order)
                  .write (.addQuestion row.id ecran.id
                    ⟨order, strip text, kind, strip explanation, choices⟩) .done
              | some key =>
                  match library.questionOf row.id key with
                  | none => .done
                  | some question =>
                      .write (.saveQuestion row.id question.id ecran.id
                        ⟨question.order, strip text, kind, strip explanation, choices⟩) .done

def supprimerQuestion (version question : Nat) : StudioProgram :=
  versionModifiable version fun row =>
    .read fun library =>
      match library.questionOf row.id question with
      | none => .done
      | some question => .write (.deleteQuestion row.id question.id) .done

def publier (version now : Nat) : StudioProgram :=
  .read fun library =>
    match library.versions.find? version with
    | none => .done
    | some row =>
        if row.isPublished then .done
        else
          .read fun library =>
            if (library.controlesAvantPublication row.id).isEmpty then
              .write (.publish row.id now) .done
            else .done

section Copies

variable (slugify : String → String)

/-- The first free one of the slugs of a title. -/
def slugLibre (library : Library) (titre : String) : String :=
  let base := textOr (takeChars (slugify titre) 70) "cours"
  let suffixed := (List.range library.courses.rows.length).map fun rank =>
    base ++ "-" ++ toString (rank + 2)
  ((base :: suffixed).find? fun candidat =>
    !library.courses.rows.any fun row => row.slug = candidat).getD base

def creerCours (title summary : String) (owner : Option Nat) : StudioProgram :=
  .read fun library =>
    .write (.createVersion (.new (slugLibre slugify library title) (strip title) (strip summary)
      owner) 1 seuilReussiteDefaut essaisDefaut "Première version." [] []) .done

/-- The questions of a version, with the position of the screen of each; none where a
screen is not among those that were copied. -/
def Library.copiedQuestions (library : Library) (source : Nat) (screens : List Nat) :
    Option (List (Nat × QuestionDraft)) :=
  (library.questionsOf source).mapM fun question =>
    (screens.idxOf? question.screen).map fun position =>
      (position, {
        order := question.order
        text := question.text
        kind := question.kind
        explanation := question.explanation
        choices := (library.choicesOf question.id).map fun choice =>
          { order := choice.order, text := choice.text, isCorrect := choice.isCorrect } })

def recopierContenu (source : Nat)
    (next : List ScreenDraft → List (Nat × QuestionDraft) → StudioProgram) : StudioProgram :=
  .read fun library =>
    let screens := library.screensOf source
    .read fun library =>
      match library.copiedQuestions source (screens.map Screen.id) with
      | none => .done
      | some questions => next (screens.map Screen.draft) questions

def nouvelleVersion (course : Nat) (changeNote : String) : StudioProgram :=
  .read fun library =>
    if (library.draftVersion course).isSome then .done
    else
      .read fun library =>
        match library.publishedVersion course with
        | none => .done
        | some source =>
            recopierContenu source.id fun screens questions =>
              .write (.createVersion (.existing course) (source.number + 1) source.passThreshold
                source.maxAttempts changeNote screens questions) .done

def dupliquer (course : Nat) (owner : Option Nat) (titre : Option String) : StudioProgram :=
  .read fun library =>
    match library.courses.find? course,
        library.publishedVersion course <|> library.draftVersion course with
    | some cours, some source =>
        let title := textOr (titre.getD "") (cours.title ++ " (copie)")
        .read fun library =>
          let slug := slugLibre slugify library title
          recopierContenu source.id fun screens questions =>
            .write (.createVersion (.new slug (strip title) cours.summary owner) 1
              source.passThreshold source.maxAttempts
              ("Dérivé de « " ++ cours.title ++ " » (version " ++ toString source.number ++ ").")
              screens questions) .done
    | _, _ => .done

/-- The loading command, on one course of the catalogue. -/
def unCours (data : CourseData) (reset : Bool) (now : Nat) : StudioProgram :=
  .read fun library =>
    match library.courses.rows.find? fun row => row.slug = data.slug with
    | none => .write (.load (.new data.slug data.title data.summary none) none reset data now) .done
    | some cours =>
        .read fun library =>
          match library.latestVersion cours.id with
          | none => .write (.load (.existing cours.id) none reset data now) .done
          | some version =>
              if reset then .write (.load (.existing cours.id) (some version) true data now) .done
              else
                .read fun library =>
                  if (library.screensOf version.id).isEmpty then
                    .write (.load (.existing cours.id) (some version) false data now) .done
                  else .write (.retitle cours.id data.title data.summary) .done

inductive StudioRequest where
  | creerCours (title summary : String) (owner : Option Nat)
  | dupliquer (course : Nat) (owner : Option Nat) (titre : Option String)
  | nouvelleVersion (course : Nat) (changeNote : String)
  | ecrireEcran (version : Nat) (screen : Option Nat) (title : String) (content : List Json)
      (estimatedSeconds : Nat)
  | reordonnerEcrans (version : Nat) (ordre : List Nat)
  | supprimerEcran (version screen : Nat)
  | ecrireQuestion (version : Nat) (question : Option Nat) (text : String) (kind : Kind)
      (explanation : String) (screen : Nat) (choix : List (String × Bool))
  | supprimerQuestion (version question : Nat)
  | publier (version now : Nat)
  | unCours (data : CourseData) (reset : Bool) (now : Nat)

def studioProgram : StudioRequest → StudioProgram
  | .creerCours title summary owner => creerCours slugify title summary owner
  | .dupliquer course owner titre => dupliquer slugify course owner titre
  | .nouvelleVersion course changeNote => nouvelleVersion course changeNote
  | .ecrireEcran version screen title content estimatedSeconds =>
      ecrireEcran version screen title content estimatedSeconds
  | .reordonnerEcrans version ordre => reordonnerEcrans version ordre
  | .supprimerEcran version screen => supprimerEcran version screen
  | .ecrireQuestion version question text kind explanation screen choix =>
      ecrireQuestion version question text kind explanation screen choix
  | .supprimerQuestion version question => supprimerQuestion version question
  | .publier version now => publier version now
  | .unCours data reset now => unCours data reset now

end Copies

end RssiService.Training
