import RssiService.Training.Reports

/-!
# Evidence

A course that enough employees have finished is proposed, once a night, as the evidence of
a measure of the diagnostic.  The figures are frozen in the proposal and a person decides.
-/

namespace RssiService.Training

open Foundation Foundation.Run Interleaving Python

/-! ## Rows -/

namespace MeasureSuggestion

inductive Status where
  | pending
  | accepted
  | dismissed
  deriving DecidableEq, Repr

end MeasureSuggestion

structure MeasureSuggestion where
  id : Nat
  tenant : Nat
  course : Nat
  referentialSlug : String
  measureCode : String
  measureTitle : String
  learnersTotal : Nat
  learnersDone : Nat
  participationRate : Nat
  successRate : Nat
  periodStart : Nat
  periodEnd : Nat
  status : MeasureSuggestion.Status
  decidedBy : Option Nat
  decidedAt : Option Nat
  createdAt : Nat
  deriving DecidableEq, Repr

instance : Identified MeasureSuggestion := ⟨MeasureSuggestion.id⟩

def referentiel : String := "anssi-hygiene-informatique"

def mesure : String := "2"

def seuilReussite : Nat := 80

def minimumSalaries : Nat := 3

/-! ## The courses that prove something -/

/-- A course whose results reach the thresholds. -/
structure Probante where
  course : Course
  chiffres : Chiffres
  debut : Nat
  fin : Nat

def Chiffres.atteintLesSeuils (chiffres : Chiffres) : Bool :=
  minimumSalaries ≤ chiffres.learnersTotal && seuilReussite ≤ chiffres.successRate

namespace TrainingSite

/-- The first and the last of the days by which the course is due. -/
def periode (site : TrainingSite) (tenant course : Nat) : Option (Nat × Nat) := do
  let dates := (site.inscriptionsDe tenant (some course)).map Inscription.dueDate
  return (← dates.min?, ← dates.max?)

def campagnesProbantes (site : TrainingSite) (tenant : Nat) : List Probante :=
  (site.library.courses.rows.filter fun cours =>
    !(site.inscriptionsDe tenant (some cours.id)).isEmpty).filterMap fun cours =>
      let chiffres := site.agregats tenant (some cours.id)
      if chiffres.atteintLesSeuils then
        (site.periode tenant cours.id).map fun (debut, fin) => ⟨cours, chiffres, debut, fin⟩
      else none

/-- The figures of a course that is there. -/
def resultats (site : TrainingSite) (tenant course : Nat) : Option Chiffres :=
  (site.library.courses.find? course).map fun cours => site.agregats tenant (some cours.id)

/-- The course is there and its results reach the thresholds. -/
def probante (site : TrainingSite) (tenant course : Nat) : Bool :=
  (site.resultats tenant course).any Chiffres.atteintLesSeuils

end TrainingSite

/-! ## Proposals -/

/-- The title of the measure in the diagnostic of the company, if it is found there. -/
def titreDeLaMesure (officiel : Option String) : String :=
  officiel.getD "Sensibiliser les utilisateurs aux bonnes pratiques élémentaires"

def Probante.proposition (probante : Probante) (tenant : Nat) (officiel : Option String)
    (now key : Nat) : MeasureSuggestion where
  id := key
  tenant := tenant
  course := probante.course.id
  referentialSlug := referentiel
  measureCode := mesure
  measureTitle := titreDeLaMesure officiel
  learnersTotal := probante.chiffres.learnersTotal
  learnersDone := probante.chiffres.completed
  participationRate := probante.chiffres.participationRate
  successRate := probante.chiffres.successRate
  periodStart := probante.debut
  periodEnd := probante.fin
  status := .pending
  decidedBy := none
  decidedAt := none
  createdAt := now

theorem Probante.ident_proposition (probante : Probante) (tenant : Nat) (officiel : Option String)
    (now key : Nat) : ident (probante.proposition tenant officiel now key) = key := rfl

/-- A suggestion for the course that is not accepted: pending, or dismissed. -/
def MeasureSuggestion.ouverte (tenant course : Nat) (suggestion : MeasureSuggestion) : Bool :=
  suggestion.tenant = tenant && suggestion.course = course && suggestion.measureCode = mesure &&
    suggestion.status ≠ .accepted

def deja (suggestions : Table MeasureSuggestion) (tenant course : Nat) : Bool :=
  suggestions.rows.any (MeasureSuggestion.ouverte tenant course)

/-- The loop over the courses, and what it creates. -/
def proposerParmi (tenant : Nat) (officiel : Option String) (now : Nat) :
    List Probante → Table MeasureSuggestion → Table MeasureSuggestion × List MeasureSuggestion
  | [], suggestions => (suggestions, [])
  | probante :: rest, suggestions =>
      if deja suggestions tenant probante.course.id then
        proposerParmi tenant officiel now rest suggestions
      else
        let (later, creees) := proposerParmi tenant officiel now rest
          (suggestions.create (probante.proposition tenant officiel now)
            (probante.ident_proposition tenant officiel now))
        (later, probante.proposition tenant officiel now suggestions.next :: creees)

def TrainingSite.proposer (site : TrainingSite) (suggestions : Table MeasureSuggestion)
    (tenant : Nat) (officiel : Option String) (now : Nat) :
    Table MeasureSuggestion × List MeasureSuggestion :=
  proposerParmi tenant officiel now (site.campagnesProbantes tenant) suggestions

/-! ## Decisions -/

/-- What the report of the evidence finds in the diagnostics. -/
inductive Evaluation where
  | absente
  | sansMesure
  | refusee (message : String)
  | reportee
  deriving DecidableEq, Repr

/-- What the auditor reads. -/
def texteDePreuve (runtime : TrainingRuntime) (courseTitle : String)
    (suggestion : MeasureSuggestion) : String :=
  "Campagne de formation « " ++ courseTitle ++ " », du " ++
    runtime.formatDate suggestion.periodStart ++ " au " ++
    runtime.formatDate suggestion.periodEnd ++ " : " ++ toString suggestion.learnersDone ++
    " salarié(s) sur " ++ toString suggestion.learnersTotal ++ " ont terminé (" ++
    toString suggestion.participationRate ++ " % de participation, " ++
    toString suggestion.successRate ++ " % de réussite au questionnaire). " ++
    "Renseigné depuis le module de formation, confirmé par un administrateur."

def trancher (suggestions : Table MeasureSuggestion) (suggestion : MeasureSuggestion)
    (status : MeasureSuggestion.Status) (actor : Option Nat) (now : Nat) :
    Table MeasureSuggestion :=
  suggestions.modify suggestion.id
    (fun row => { row with status, decidedBy := actor, decidedAt := some now }) fun _ => rfl

/-- Report the evidence in the diagnostic; the note is what is written there. -/
def confirmer (runtime : TrainingRuntime) (courseTitle : String)
    (suggestions : Table MeasureSuggestion) (suggestion : MeasureSuggestion)
    (evaluation : Evaluation) (actor : Option Nat) (now : Nat) :
    Except String (Table MeasureSuggestion × String) :=
  if suggestion.status ≠ .pending then .error "Cette proposition a déjà été traitée."
  else
    match evaluation with
    | .absente =>
        .error ("Aucun diagnostic n'est en cours. Ouvrez-en un, puis revenez confirmer : " ++
          "la preuve y sera reportée avec ses chiffres.")
    | .sansMesure =>
        .error "La mesure de sensibilisation ne fait pas partie du questionnaire en cours."
    | .refusee message => .error message
    | .reportee =>
        .ok (trancher suggestions suggestion .accepted actor now,
          texteDePreuve runtime courseTitle suggestion)

def ecarter (suggestions : Table MeasureSuggestion) (suggestion : MeasureSuggestion)
    (actor : Option Nat) (now : Nat) : Except String (Table MeasureSuggestion) :=
  if suggestion.status ≠ .pending then .error "Cette proposition a déjà été traitée."
  else .ok (trancher suggestions suggestion .dismissed actor now)

/-! ## Runs -/

/-- The results, the suggestions, and the companies, courses and measures that have
received a suggestion since the results of the course last changed. -/
structure EvidenceFile where
  site : TrainingSite
  suggestions : Table MeasureSuggestion
  received : List (Nat × Nat × String)

inductive EvidenceEvent where
  | proposer (tenant : Nat) (officiel : Option String) (now : Nat)
  | confirmer (tenant suggestion : Nat) (evaluation : Evaluation) (actor : Option Nat) (now : Nat)
  | ecarter (tenant suggestion : Nat) (actor : Option Nat) (now : Nat)
  | resultats (site : TrainingSite)

namespace EvidenceFile

def suggestionDe (file : EvidenceFile) (tenant suggestion : Nat) : Option MeasureSuggestion :=
  (file.suggestions.find? suggestion).filter fun row => row.tenant = tenant

def courseTitle (file : EvidenceFile) (course : Nat) : String :=
  ((file.site.library.courses.find? course).map Course.title).getD ""

def step (runtime : TrainingRuntime) (file : EvidenceFile) : EvidenceEvent → EvidenceFile
  | .proposer tenant officiel now =>
      let (suggestions, creees) := file.site.proposer file.suggestions tenant officiel now
      { file with
        suggestions
        received := creees.map (fun row => (row.tenant, row.course, row.measureCode)) ++
          file.received }
  | .confirmer tenant key evaluation actor now =>
      match file.suggestionDe tenant key with
      | none => file
      | some suggestion =>
          match confirmer runtime (file.courseTitle suggestion.course) file.suggestions suggestion
              evaluation actor now with
          | .ok (suggestions, _) => { file with suggestions }
          | .error _ => file
  | .ecarter tenant key actor now =>
      match file.suggestionDe tenant key with
      | none => file
      | some suggestion =>
          match ecarter file.suggestions suggestion actor now with
          | .ok suggestions => { file with suggestions }
          | .error _ => file
  | .resultats site =>
      { file with
        site
        received := file.received.filter fun entry =>
          site.resultats entry.1 entry.2.1 = file.site.resultats entry.1 entry.2.1 }

/-- No suggestion is created for a course and a measure that have received one from the
same results. -/
def RepeatsNone (file : EvidenceFile) : EvidenceEvent → Prop
  | .proposer tenant officiel now =>
      ∀ row ∈ (file.site.proposer file.suggestions tenant officiel now).2,
        (row.tenant, row.course, row.measureCode) ∉ file.received
  | _ => True

instance (file : EvidenceFile) : (event : EvidenceEvent) → Decidable (file.RepeatsNone event)
  | .proposer tenant officiel now =>
      inferInstanceAs (Decidable (∀ row ∈ (file.site.proposer file.suggestions tenant officiel now).2,
        (row.tenant, row.course, row.measureCode) ∉ file.received))
  | .confirmer .. | .ecarter .. | .resultats _ => .isTrue trivial

/-- Of what the company has received from the same results, something is not accepted. -/
def FindsOpen (file : EvidenceFile) : EvidenceEvent → Prop
  | .proposer tenant _ _ =>
      ∀ course, (tenant, course, mesure) ∈ file.received → deja file.suggestions tenant course = true
  | _ => True

end EvidenceFile

/-! ## What a night creates -/

section Proposals

variable {site : TrainingSite} {suggestions : Table MeasureSuggestion} {tenant course now : Nat}
  {officiel : Option String}

theorem deja_create (probante : Probante) :
    deja (suggestions.create (probante.proposition tenant officiel now)
        (probante.ident_proposition tenant officiel now)) tenant course =
      (deja suggestions tenant course || decide (probante.course.id = course)) := by
  rw [deja, Table.create, List.any_append, deja]
  simp [Probante.proposition, MeasureSuggestion.ouverte]

/-- What is created is a proposal of one of the courses. -/
theorem mem_proposerParmi {probantes : List Probante} {row : MeasureSuggestion}
    (created : row ∈ (proposerParmi tenant officiel now probantes suggestions).2) :
    ∃ probante ∈ probantes, row = probante.proposition tenant officiel now row.id := by
  induction probantes generalizing suggestions with
  | nil => cases created
  | cons probante rest ih =>
      rw [proposerParmi] at created
      split at created
      · obtain ⟨source, listed, same⟩ := ih created
        exact ⟨source, List.mem_cons_of_mem _ listed, same⟩
      · rcases List.mem_cons.mp created with rfl | later
        · exact ⟨probante, List.mem_cons_self, rfl⟩
        · obtain ⟨source, listed, same⟩ := ih later
          exact ⟨source, List.mem_cons_of_mem _ listed, same⟩

/-- A suggestion is created for the courses of the list that have none but accepted ones. -/
theorem exists_mem_proposerParmi (probantes : List Probante) :
    (∃ row ∈ (proposerParmi tenant officiel now probantes suggestions).2, row.course = course) ↔
      (∃ probante ∈ probantes, probante.course.id = course) ∧
        deja suggestions tenant course = false := by
  induction probantes generalizing suggestions with
  | nil => simp [proposerParmi]
  | cons probante rest ih =>
      rw [proposerParmi]
      by_cases mine : probante.course.id = course
      · cases there : deja suggestions tenant course with
        | true =>
            rw [if_pos (mine ▸ there), ih, there]
            simp
        | false =>
            rw [if_neg (by rw [mine, there]; exact Bool.false_ne_true)]
            exact iff_of_true ⟨_, List.mem_cons_self, mine⟩ ⟨⟨probante, List.mem_cons_self, mine⟩, rfl⟩
      · have listed : (∃ other ∈ probante :: rest, other.course.id = course) ↔
            ∃ other ∈ rest, other.course.id = course := by
          simp [mine]
        rw [listed]
        split
        · exact ih
        · have later := @ih (suggestions.create (probante.proposition tenant officiel now)
            (probante.ident_proposition tenant officiel now))
          rw [deja_create, decide_eq_false mine, Bool.or_false] at later
          rw [← later]
          simp [Probante.proposition, mine]

/-- No more than one suggestion of a course is open.  The constraint of the table asks this
of those pending. -/
def OneOpen (suggestions : Table MeasureSuggestion) : Prop :=
  ∀ tenant course, suggestions.rows.countP (MeasureSuggestion.ouverte tenant course) ≤ 1

theorem oneOpen_proposerParmi (probantes : List Probante) (one : OneOpen suggestions) :
    OneOpen (proposerParmi tenant officiel now probantes suggestions).1 := by
  induction probantes generalizing suggestions with
  | nil => exact one
  | cons probante rest ih =>
      rw [proposerParmi]
      split
      · exact ih one
      · rename_i none
        refine ih fun company course => ?_
        rw [Table.countP_create]
        split
        · rename_i opens
          have mine : company = tenant ∧ course = probante.course.id := by
            simp only [MeasureSuggestion.ouverte, Bool.and_eq_true] at opens
            exact ⟨(of_decide_eq_true opens.1.1.1).symm, (of_decide_eq_true opens.1.1.2).symm⟩
          obtain ⟨rfl, rfl⟩ := mine
          have empty : suggestions.rows.countP
              (MeasureSuggestion.ouverte company probante.course.id) = 0 := by
            rw [List.countP_eq_zero]
            exact fun row inside opens => none (List.any_eq_true.mpr ⟨row, inside, opens⟩)
          omega
        · exact one company course

theorem oneOpen_trancher {suggestion : MeasureSuggestion} {status : MeasureSuggestion.Status}
    {actor : Option Nat} (member : suggestion ∈ suggestions)
    (pending : suggestion.status = .pending) (one : OneOpen suggestions) :
    OneOpen (trancher suggestions suggestion status actor now) := by
  intro company course
  have moved := Table.countP_modify member
    (fun row => { row with status, decidedBy := actor, decidedAt := some now }) (fun _ => rfl)
    (MeasureSuggestion.ouverte company course)
  have before := one company course
  have weaker : (MeasureSuggestion.ouverte company course
        { suggestion with status, decidedBy := actor, decidedAt := some now } = true) →
      MeasureSuggestion.ouverte company course suggestion = true := by
    simp only [MeasureSuggestion.ouverte, Bool.and_eq_true, decide_eq_true_eq, pending]
    exact fun opens => ⟨opens.1, nofun⟩
  change (suggestions.modify (ident suggestion) _ _).rows.countP _ ≤ 1
  split at moved
  · split at moved
    · omega
    · omega
  · rename_i closed
    rw [if_neg fun opens => closed (weaker opens)] at moved
    omega

theorem confirmer_ok {runtime : TrainingRuntime} {courseTitle note : String}
    {suggestion : MeasureSuggestion} {evaluation : Evaluation} {actor : Option Nat}
    {after : Table MeasureSuggestion}
    (confirmed : confirmer runtime courseTitle suggestions suggestion evaluation actor now =
      .ok (after, note)) :
    suggestion.status = .pending ∧ after = trancher suggestions suggestion .accepted actor now := by
  unfold confirmer at confirmed
  split at confirmed
  · cases confirmed
  · rename_i pending
    cases evaluation with
    | reportee =>
        cases confirmed
        exact ⟨not_not.mp pending, rfl⟩
    | absente => cases confirmed
    | sansMesure => cases confirmed
    | refusee message => cases confirmed

theorem ecarter_ok {suggestion : MeasureSuggestion} {actor : Option Nat}
    {after : Table MeasureSuggestion}
    (dismissed : ecarter suggestions suggestion actor now = .ok after) :
    suggestion.status = .pending ∧ after = trancher suggestions suggestion .dismissed actor now := by
  unfold ecarter at dismissed
  split at dismissed
  · cases dismissed
  · rename_i pending
    cases dismissed
    exact ⟨not_not.mp pending, rfl⟩

/-! ### The courses of a company -/

theorem inscriptionsDe_ne_nil_of_seuils
    (reaches : (site.agregats tenant (some course)).atteintLesSeuils = true) :
    site.inscriptionsDe tenant (some course) ≠ [] := by
  intro empty
  rw [Chiffres.atteintLesSeuils, TrainingSite.agregats, empty] at reaches
  cases reaches

/-- A course that reaches the thresholds has a first and a last day. -/
theorem exists_periode {key : Nat} (listed : site.inscriptionsDe tenant (some key) ≠ []) :
    ∃ debut fin, site.periode tenant key = some (debut, fin) := by
  rw [TrainingSite.periode]
  cases dates : (site.inscriptionsDe tenant (some key)).map Inscription.dueDate with
  | nil => exact absurd (List.map_eq_nil_iff.mp dates) listed
  | cons first rest => exact ⟨_, _, rfl⟩

theorem mem_campagnesProbantes {probante : Probante}
    (listed : probante ∈ site.campagnesProbantes tenant) :
    probante.course ∈ site.library.courses ∧
      probante.chiffres = site.agregats tenant (some probante.course.id) ∧
      probante.chiffres.atteintLesSeuils = true := by
  rw [TrainingSite.campagnesProbantes, List.mem_filterMap] at listed
  obtain ⟨cours, inside, found⟩ := listed
  dsimp only at found
  split at found
  · rename_i reaches
    obtain ⟨days, _, rfl⟩ := Option.map_eq_some_iff.mp found
    exact ⟨(List.mem_filter.mp inside).1, rfl, reaches⟩
  · cases found

theorem exists_mem_campagnesProbantes :
    (∃ probante ∈ site.campagnesProbantes tenant, probante.course.id = course) ↔
      site.probante tenant course = true := by
  rw [TrainingSite.probante, TrainingSite.resultats, Option.any_map]
  constructor
  · rintro ⟨probante, listed, rfl⟩
    obtain ⟨inside, figures, reaches⟩ := mem_campagnesProbantes listed
    have found : site.library.courses.find? probante.course.id = some probante.course :=
      Table.find?_eq_some_iff.mpr ⟨inside, rfl⟩
    rw [found, Option.any_some]
    exact figures ▸ reaches
  · intro reached
    obtain ⟨cours, found, reaches⟩ := (Option.any_eq_true _ _).mp reached
    obtain ⟨inside, same⟩ := Table.find?_eq_some_iff.mp found
    have some_live := inscriptionsDe_ne_nil_of_seuils reaches
    obtain ⟨debut, fin, days⟩ := exists_periode some_live
    refine ⟨⟨cours, site.agregats tenant (some cours.id), debut, fin⟩, ?_, same⟩
    refine List.mem_filterMap.mpr ⟨cours, List.mem_filter.mpr ⟨inside, ?_⟩, ?_⟩
    · rw [Bool.not_eq_true', List.isEmpty_eq_false_iff]
      exact some_live
    · dsimp only
      rw [if_pos reaches, days]
      rfl

/-- A night creates a suggestion for the courses that reach the thresholds and have no
suggestion but accepted ones. -/
theorem exists_mem_proposer (officiel : Option String) (now : Nat) :
    (∃ row ∈ (site.proposer suggestions tenant officiel now).2, row.course = course) ↔
      site.probante tenant course = true ∧ deja suggestions tenant course = false := by
  rw [TrainingSite.proposer, exists_mem_proposerParmi, exists_mem_campagnesProbantes]

/-- What a night creates is for its company and its measure, from the figures of the day. -/
theorem mem_proposer {row : MeasureSuggestion}
    (created : row ∈ (site.proposer suggestions tenant officiel now).2) :
    row.tenant = tenant ∧ row.measureCode = mesure ∧
      row.learnersTotal = (site.agregats tenant (some row.course)).learnersTotal ∧
      row.learnersDone = (site.agregats tenant (some row.course)).completed := by
  obtain ⟨probante, listed, same⟩ := mem_proposerParmi created
  obtain ⟨_, figures, _⟩ := mem_campagnesProbantes listed
  rw [same]
  dsimp only [Probante.proposition]
  rw [figures]
  exact ⟨rfl, rfl, rfl, rfl⟩

end Proposals

/-! ## Suggestions and decisions -/

namespace EvidenceFile

section Decisions

variable {runtime : TrainingRuntime} {file : EvidenceFile}

/-- What has received a suggestion from the present results reaches the thresholds. -/
def Standing (file : EvidenceFile) : Prop :=
  ∀ entry ∈ file.received, entry.2.2 = mesure ∧ file.site.probante entry.1 entry.2.1 = true

theorem standing_step (event : EvidenceEvent) (standing : file.Standing) :
    (file.step runtime event).Standing := by
  cases event with
  | proposer tenant officiel now =>
      intro entry listed
      rcases List.mem_append.mp listed with new | old
      · obtain ⟨row, created, rfl⟩ := List.mem_map.mp new
        obtain ⟨company, measure, _⟩ := mem_proposer created
        exact ⟨measure, company ▸ ((exists_mem_proposer _ _).mp ⟨row, created, rfl⟩).1⟩
      · exact standing entry old
  | confirmer tenant key evaluation actor now =>
      rw [step]
      split
      · exact standing
      · split
        · exact standing
        · exact standing
  | ecarter tenant key actor now =>
      rw [step]
      split
      · exact standing
      · split
        · exact standing
        · exact standing
  | resultats site =>
      intro entry listed
      obtain ⟨old, same⟩ := List.mem_filter.mp listed
      obtain ⟨measure, reaches⟩ := standing entry old
      refine ⟨measure, ?_⟩
      rw [TrainingSite.probante] at reaches ⊢
      exact of_decide_eq_true same ▸ reaches

theorem mem_of_suggestionDe {tenant key : Nat} {suggestion : MeasureSuggestion}
    (found : file.suggestionDe tenant key = some suggestion) : suggestion ∈ file.suggestions :=
  Table.mem_of_find? (Option.filter_eq_some_iff.mp found).1

theorem oneOpen_step (event : EvidenceEvent) (one : OneOpen file.suggestions) :
    OneOpen (file.step runtime event).suggestions := by
  cases event with
  | proposer tenant officiel now => exact oneOpen_proposerParmi _ one
  | confirmer tenant key evaluation actor now =>
      rw [step]
      split
      · exact one
      · rename_i suggestion found
        split
        · rename_i confirmed
          obtain ⟨pending, same⟩ := confirmer_ok confirmed
          rw [same]
          exact oneOpen_trancher (mem_of_suggestionDe found) pending one
        · exact one
  | ecarter tenant key actor now =>
      rw [step]
      split
      · exact one
      · rename_i suggestion found
        split
        · rename_i dismissed
          obtain ⟨pending, same⟩ := ecarter_ok dismissed
          rw [same]
          exact oneOpen_trancher (mem_of_suggestionDe found) pending one
        · exact one
  | resultats site => exact one

/-- In every run no course of a company has two suggestions that are not accepted. -/
theorem oneOpen_always (runtime : TrainingRuntime) (site : TrainingSite)
    (events : List EvidenceEvent) :
    Always (step runtime) (fun file => OneOpen file.suggestions) ⟨site, .empty, []⟩ events :=
  always_of_step (fun _ => oneOpen_step) (fun _ _ => Nat.zero_le 1) events

theorem repeatsNone_iff (event : EvidenceEvent) (standing : file.Standing) :
    file.RepeatsNone event ↔ file.FindsOpen event := by
  cases event with
  | proposer tenant officiel now =>
      constructor
      · intro repeats course received
        by_contra accepted
        obtain ⟨row, created, rfl⟩ := (exists_mem_proposer officiel now).mpr
          ⟨(standing _ received).2, Bool.eq_false_iff.mpr accepted⟩
        obtain ⟨company, measure, _⟩ := mem_proposer created
        refine repeats row created ?_
        rw [company, measure]
        exact received
      · intro finds row created received
        obtain ⟨company, measure, _⟩ := mem_proposer created
        rw [company, measure] at received
        have none := ((exists_mem_proposer _ _).mp ⟨row, created, rfl⟩).2
        exact Bool.false_ne_true (none.symm.trans (finds row.course received))
  | confirmer tenant key evaluation actor now => exact Iff.rfl
  | ecarter tenant key actor now => exact Iff.rfl
  | resultats site => exact Iff.rfl

/-- Over any run no suggestion is created again from the same results exactly when every
night finds, of what each course has received from them, a suggestion that is not
accepted. -/
theorem suggestions_settle_iff (runtime : TrainingRuntime) (site : TrainingSite)
    (suggestions : Table MeasureSuggestion) (events : List EvidenceEvent) :
    EachStep (step runtime) RepeatsNone ⟨site, suggestions, []⟩ events ↔
      EachStep (step runtime) FindsOpen ⟨site, suggestions, []⟩ events :=
  eachStep_congr (I := Standing) (fun _ => standing_step) (fun _ => repeatsNone_iff)
    (fun _ listed => absurd listed List.not_mem_nil) events

end Decisions

end EvidenceFile

/-! Employees of the company who have finished its courses. -/

def finished (key learner version : Nat) : Inscription where
  id := key
  tenant := 0
  learner := learner
  version := version
  dueDate := 20
  tokenHash := ""
  tokenIssuedAt := 864000
  firstOpenedAt := some 900000
  revokedAt := none
  revokedBy := none
  createdBy := none
  createdAt := 864000
  parcours :=
    { version := ⟨version, 0, version + 1, some 60, 70, 3, ""⟩
      courseTitle := "Mots de passe"
      learnerName := ""
      companyName := "Atelier Duval"
      extraAttempts := 0
      attemptsGrantedBy := none
      attemptsGrantedAt := none
      seen := [0]
      attempts := .empty
      certificates := ⟨[⟨0, "2026-0A", 910000, "", "Mots de passe", 1, "Atelier Duval", 100⟩], 1,
        by decide, by decide⟩ }

/-- Three employees have finished the course. -/
def threeEmployees : TrainingSite :=
  { companySite with
    learners :=
      ⟨[⟨0, 0, "Anne Duval", "anne@duval.fr", true, none⟩,
        ⟨1, 0, "Marc Petit", "marc@duval.fr", true, none⟩,
        ⟨2, 0, "Léa Roux", "lea@duval.fr", true, none⟩], 3, by decide, by decide⟩
    inscriptions :=
      ⟨[finished 0 0 0, finished 1 1 0, finished 2 2 0], 3, by decide, by decide⟩ }

/-- Two employees have finished the course, one of them in two versions. -/
def twoEmployees : TrainingSite :=
  { companySite with
    library :=
      { companyLibrary with
        versions :=
          ⟨[⟨0, 0, 1, some 60, 70, 3, ""⟩, ⟨1, 0, 2, some 70, 70, 3, ""⟩], 2, by decide, by decide⟩ }
    inscriptions :=
      ⟨[finished 0 0 0, finished 1 1 0, finished 2 0 1], 3, by decide, by decide⟩ }

/-- Confirmed, the evidence is proposed again the next night. -/
theorem accepted_suggestion_repeats :
    ¬EachStep (EvidenceFile.step companyRuntime) EvidenceFile.RepeatsNone
      ⟨threeEmployees, .empty, []⟩
      [.proposer 0 none 100, .confirmer 0 0 .reportee (some 5) 200, .proposer 0 none 300] := by
  rintro ⟨_, _, repeats, _⟩
  revert repeats
  decide +kernel

/-! ## Employees and enrolments -/

namespace TrainingSite

/-- The employees who are enrolled in the course. -/
def salariesDe (site : TrainingSite) (tenant course : Nat) : List Nat :=
  (site.inscriptionsDe tenant (some course)).map Inscription.learner

/-- At least three employees, and the figures of the suggestion are numbers of employees. -/
structure CountsEmployees (site : TrainingSite) (suggestion : MeasureSuggestion) : Prop where
  enough : 3 ≤ (site.salariesDe suggestion.tenant suggestion.course).dedup.length
  total : suggestion.learnersTotal =
    (site.salariesDe suggestion.tenant suggestion.course).dedup.length
  completed : suggestion.learnersDone =
    (((site.inscriptionsDe suggestion.tenant (some suggestion.course)).filter
      Inscription.aTermine).map Inscription.learner).dedup.length

/-- What a night creates counts employees exactly when, in the courses that it proposes,
no employee has two enrolments that live. -/
theorem suggestions_count_employees_iff (site : TrainingSite)
    (suggestions : Table MeasureSuggestion) (tenant : Nat) (officiel : Option String) (now : Nat) :
    (∀ row ∈ (site.proposer suggestions tenant officiel now).2, site.CountsEmployees row) ↔
      ∀ course, site.probante tenant course = true → deja suggestions tenant course = false →
        (site.salariesDe tenant course).Nodup := by
  constructor
  · intro counts course reaches none
    obtain ⟨row, created, rfl⟩ := (exists_mem_proposer officiel now).mpr
      ⟨reaches, none⟩
    obtain ⟨company, _, total, _⟩ := mem_proposer created
    have same := (counts row created).total
    rw [total, company] at same
    refine length_dedup_eq_iff.mp (same.symm.trans ?_)
    rw [salariesDe, List.length_map]
    rfl
  · intro apart row created
    obtain ⟨company, _, total, completed⟩ := mem_proposer created
    obtain ⟨reaches, none⟩ := (exists_mem_proposer _ _).mp ⟨row, created, rfl⟩
    have nodup := apart row.course reaches none
    have size : (site.salariesDe tenant row.course).dedup.length =
        (site.agregats tenant (some row.course)).learnersTotal := by
      rw [length_dedup_eq_iff.mpr nodup, salariesDe, List.length_map]
      rfl
    refine ⟨?_, ?_, ?_⟩
    · rw [company, size]
      obtain ⟨probante, listed, same⟩ := exists_mem_campagnesProbantes.mpr reaches
      obtain ⟨_, figures, seuils⟩ := mem_campagnesProbantes listed
      rw [figures, same, Chiffres.atteintLesSeuils, Bool.and_eq_true] at seuils
      exact of_decide_eq_true seuils.1
    · rw [company, size, total]
    · rw [company, length_dedup_map_filter nodup, completed]
      rfl

/-- Two employees with three certificates make up the three employees of the evidence. -/
theorem two_employees_counted_as_three :
    ¬∀ row ∈ (twoEmployees.proposer .empty 0 none 100).2, twoEmployees.CountsEmployees row := by
  intro counts
  have created : ∃ row ∈ (twoEmployees.proposer .empty 0 none 100).2, row.tenant = 0 ∧
      row.course = 0 := by
    decide +kernel
  obtain ⟨row, listed, company, course⟩ := created
  have enough := (counts row listed).enough
  rw [company, course] at enough
  revert enough
  decide +kernel

end TrainingSite

end RssiService.Training
