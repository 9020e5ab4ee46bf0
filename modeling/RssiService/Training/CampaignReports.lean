import RssiService.Foundation.Grouping
import RssiService.Notifications.Inbox
import RssiService.Training.Evidence
import RssiService.Training.ReportedProgress

/-!
# Campaigns in the reports

A campaign is a course and a day.  Its rates are whole percentages, rounded to the
nearest one, and the administrators are told of a campaign from its rates.
-/

namespace RssiService.Training

open Foundation Foundation.Run Foundation.Grouping Python
open Notifications (Notification Notice DedupeKey notify Delivered)

/-! ## The lines of the report -/

/-- The enrolments of a course that are due on one day, in figures. -/
structure Campagne where
  courseId : Option Nat
  courseTitle : String
  dueDate : Nat
  learnersTotal : Nat
  participationRate : Nat
  successRate : Nat
  deriving DecidableEq, Repr

namespace TrainingSite

/-- What makes a campaign: its course and its day. -/
def cle (site : TrainingSite) (inscription : Inscription) : Option Nat × Nat :=
  (site.courseOf inscription, inscription.dueDate)

/-- The enrolments of a company that live, the last created first. -/
def inscriptionsRecentes (site : TrainingSite) (tenant : Nat) : List Inscription :=
  (site.inscriptionsDe tenant none).insertionSort fun first second =>
    second.createdAt ≤ first.createdAt

/-- The enrolments of a campaign. -/
def groupe (site : TrainingSite) (tenant : Nat) (cle : Option Nat × Nat) : List Inscription :=
  members site.cle (site.inscriptionsRecentes tenant) cle

/-- How many certificates these enrolments have. -/
def attestations (inscriptions : List Inscription) : Nat :=
  (inscriptions.map fun row => row.parcours.certificates.rows.length).sum

def campagne (site : TrainingSite) (tenant : Nat) (cle : Option Nat × Nat) : Campagne :=
  let inscriptions := site.groupe tenant cle
  { courseId := cle.1
    courseTitle := ((cle.1.bind site.library.courses.find?).map Course.title).getD ""
    dueDate := cle.2
    learnersTotal := inscriptions.length
    participationRate :=
      pourcent (inscriptions.countP Inscription.aCommence) inscriptions.length
    successRate := pourcent (attestations inscriptions) inscriptions.length }

/-- The campaigns of a company, the first day first. -/
def campagnes (site : TrainingSite) (tenant : Nat) : List Campagne :=
  ((keys site.cle (site.inscriptionsRecentes tenant)).map (site.campagne tenant)).insertionSort
    fun first second => first.dueDate ≤ second.dueDate

end TrainingSite

/-! ## What the administrators are told -/

def seuilParticipationFaible : Nat := 50

/-- The key of an event of a campaign. -/
def cleDeNotification (event : String) (cle : Option Nat × Nat) : DedupeKey :=
  ⟨event, [cle.1, some cle.2]⟩

def campagneFinie (cle : Option Nat × Nat) : DedupeKey := cleDeNotification "campagne-finie" cle

/-- What there is to say of a campaign, from its rates. -/
def avisDe (runtime : TrainingRuntime) (aujourdhui : Nat) (campagne : Campagne) : Option Notice :=
  let cle := (campagne.courseId, campagne.dueDate)
  if campagne.successRate = 100 then
    some
      { kind := .trainingCampaignDone
        title := "Formation terminée par tous : " ++ campagne.courseTitle
        body := "Les " ++ toString campagne.learnersTotal ++ " salariés inscrits ont terminé « " ++
          campagne.courseTitle ++ " »."
        link := "/formation"
        dedupeKey := some (campagneFinie cle) }
  else if campagne.dueDate < aujourdhui then
    some
      { kind := .trainingDuePassed
        title := "Échéance dépassée : " ++ campagne.courseTitle
        body := "L'échéance du " ++ runtime.formatDate campagne.dueDate ++ " est passée et " ++
          toString campagne.successRate ++ " % des salariés ont terminé."
        link := "/formation"
        dedupeKey := some (cleDeNotification "echeance" cle) }
  else if campagne.participationRate < seuilParticipationFaible then
    some
      { kind := .trainingLowParticipation
        title := "Participation faible : " ++ campagne.courseTitle
        body := toString campagne.participationRate ++ " % des salariés ont commencé, pour une " ++
          "échéance au " ++ runtime.formatDate campagne.dueDate ++ "."
        link := "/formation"
        dedupeKey := some (cleDeNotification "participation" cle) }
  else none

/-- The clients in activity, and the active administrators of each. -/
structure Annuaire where
  actifs : List Nat
  admins : Nat → List Nat

/-- What there is to say of the campaigns of the clients, in the order of the task. -/
def avisDuJour (runtime : TrainingRuntime) (annuaire : Annuaire) (site : TrainingSite)
    (aujourdhui : Nat) : List (Nat × Notice) :=
  annuaire.actifs.flatMap fun client =>
    ((site.campagnes client).filterMap (avisDe runtime aujourdhui)).map fun avis => (client, avis)

/-- Tell the administrators, and count what was created. -/
def prevenir (annuaire : Annuaire) (now : Nat) (state : Table Notification × Nat)
    (avis : Nat × Notice) : Table Notification × Nat :=
  let (inbox, envoyees) := notify state.1 (annuaire.admins avis.1) (some avis.1) avis.2 now
  (inbox, state.2 + envoyees)

/-- One run of the task. -/
def surveillerLesCampagnes (runtime : TrainingRuntime) (annuaire : Annuaire) (site : TrainingSite)
    (aujourdhui now : Nat) (inbox : Table Notification) : Table Notification × Nat :=
  (avisDuJour runtime annuaire site aujourdhui).foldl (prevenir annuaire now) (inbox, 0)

/-! ## Certificates -/

namespace TrainingSite

/-- An enrolment has one certificate at most, as its column asks. -/
def OneCertificate (site : TrainingSite) : Prop :=
  ∀ row ∈ site.inscriptions, row.parcours.certificates.rows.length ≤ 1

section Certificates

variable {runtime : TrainingRuntime} {site after : TrainingSite}

theorem SameCourses.oneCertificate (same : SameCourses site after) (one : site.OneCertificate) :
    after.OneCertificate := by
  intro row member
  obtain ⟨source, inside, _, parcours, _⟩ := same.kept row member
  rw [← parcours]
  exact one source inside

theorem OneCertificate.modify {key : Nat} {change : Inscription → Inscription}
    {keeps : ∀ row, ident (change row) = ident row} (one : site.OneCertificate)
    (changed : ∀ row ∈ site.inscriptions, (change row).parcours.certificates.rows.length ≤ 1) :
    OneCertificate { site with inscriptions := site.inscriptions.modify key change keeps } := by
  intro row listed
  have modified : row ∈ site.inscriptions.modify key change keeps := listed
  obtain ⟨source, inside, rfl⟩ := Table.mem_modify.mp modified
  split
  · exact changed source inside
  · exact one source inside

/-- A certificate is delivered where there is none. -/
theorem one_delivrerLattestation {enrollment : Enrollment} (score : Nat) (serial : String)
    (now : Nat)
    (one : enrollment.certificates.rows.length ≤ 1) :
    (delivrerLattestation enrollment score serial now).1.rows.length ≤ 1 := by
  rw [delivrerLattestation]
  cases held : enrollment.certificates.rows.head? with
  | some existing => exact one
  | none =>
      have empty : enrollment.certificates.rows = [] := List.head?_eq_none_iff.mp held
      dsimp only [Table.create]
      rw [List.length_append, empty]
      exact Nat.le_refl 1

theorem one_quizStep (library : Library) (career : Career) (event : QuizEvent)
    (one : career.enrollment.certificates.rows.length ≤ 1) :
    (quizStep library career event).enrollment.certificates.rows.length ≤ 1 := by
  cases event with
  | seen screen =>
      rw [quizStep, marquerEcranVu]
      split
      · rename_i marked
        split at marked
        · cases marked
          exact one
        · cases marked
      · exact one
  | submit answered serial now =>
      rw [quizStep]
      rcases soumettreLeQuiz_cases library career.enrollment answered serial now with
        ⟨message, _, refused⟩ | ⟨_, _, ⟨_, refused⟩ | ⟨_, after, result, attempt, done, submits⟩⟩
      · rw [refused]
        exact one
      · rw [refused]
        exact one
      · obtain ⟨score, serial', now', certificates⟩ := submits.certificates
        rw [done]
        dsimp only
        rw [certificates]
        split
        · exact one_delivrerLattestation score serial' now' one
        · exact one
  | grant count actor now =>
      rw [quizStep, accorderDesEssais]
      split
      · rename_i granted
        split at granted
        · cases granted
        · cases granted
          exact one
      · exact one
  | purge months now => exact one

/-- What happens in the campaigns leaves one certificate at most to an enrolment. -/
theorem oneCertificate_step {event : CampaignEvent} (one : site.OneCertificate) :
    (site.step runtime event).OneCertificate := by
  have refl : SameCourses site site := .of_inscriptions rfl rfl
  cases event with
  | inscrire tenant learner course dueDate actor jeton mailed now =>
      rcases step_inscrire runtime site tenant learner course dueDate actor jeton mailed now with
        unchanged | ⟨employee, row, enrols⟩
      · rw [unchanged]
        exact one
      · intro other member
        rcases (enrols.mem other).mp member with old | rfl
        · exact one other old
        · have none : other.aTermine = false := enrols.aTermine
          rw [Inscription.aTermine, Bool.not_eq_false', List.isEmpty_iff] at none
          rw [none]
          exact Nat.zero_le 1
  | renouveler tenant key jeton now =>
      rcases step_renouveler runtime site tenant key jeton now with
        unchanged | ⟨row, _, renewed⟩
      · rw [unchanged]
        exact one
      · exact (sameCourses_renouveler renewed).oneCertificate one
  | revoquer tenant key actor now =>
      rw [TrainingSite.step]
      split
      · exact one
      · exact sameCourses_revoquer.oneCertificate one
  | activer learner active => exact (SameCourses.of_inscriptions rfl rfl).oneCertificate one
  | regler tenant enabled midCourse beforeDueDays afterDueDays actor =>
      exact (SameCourses.of_inscriptions rfl rfl).oneCertificate one
  | relancer now jetons failures =>
      refine SameCourses.oneCertificate (envoyerToutes_invariant (P := SameCourses site)
        (fun links courses => courses.trans (sameCourses_renouveler links))
        (fun _ links courses => ?_) (fun _ _ courses => ?_) refl) one
      · exact (courses.trans (sameCourses_renouveler links)).trans (.of_inscriptions rfl rfl)
      · exact courses.trans (.of_inscriptions rfl rfl)
  | ouvrir jeton now =>
      rw [TrainingSite.step]
      split
      · rename_i resolved
        exact (sameCourses_resoudreSession resolved).oneCertificate one
      · exact one
  | suivre tenant key event =>
      rw [TrainingSite.step]
      split
      · exact one
      · rename_i inscription found
        have inside := Table.mem_of_find? (Option.filter_eq_some_iff.mp found).1
        have kept := one_quizStep site.library ⟨site.parcoursDe runtime inscription, 0⟩ event
          (one inscription inside)
        rw [suivre]
        exact one.modify fun _ _ => kept
  | cataloguer library assignments => exact one

/-- In every run of the campaigns an enrolment has one certificate at most. -/
theorem oneCertificate_always (runtime : TrainingRuntime) (one : site.OneCertificate)
    (events : List CampaignEvent) :
    Always (TrainingSite.step runtime) OneCertificate site events :=
  always_of_step (fun _ _ => oneCertificate_step) one events

end Certificates

/-! ## Figures of a campaign -/

section Figures

variable {site : TrainingSite} {tenant : Nat} {cle : Option Nat × Nat}

theorem mem_inscriptionsRecentes {row : Inscription} :
    row ∈ site.inscriptionsRecentes tenant ↔ row ∈ site.inscriptionsDe tenant none := by
  rw [inscriptionsRecentes, List.mem_insertionSort]

theorem inscription_of_mem_groupe {row : Inscription} (listed : row ∈ site.groupe tenant cle) :
    row ∈ site.inscriptions :=
  (List.mem_filter.mp (mem_inscriptionsRecentes.mp (mem_members.mp listed).1)).1

theorem groupe_ne_nil_iff :
    site.groupe tenant cle ≠ [] ↔ cle ∈ keys site.cle (site.inscriptionsRecentes tenant) :=
  members_ne_nil_iff

/-- Where an enrolment has one certificate at most, the certificates are the enrolments
that are finished. -/
theorem attestations_eq_countP {rows : List Inscription}
    (one : ∀ row ∈ rows, row.parcours.certificates.rows.length ≤ 1) :
    attestations rows = rows.countP Inscription.aTermine := by
  rw [attestations, countP_eq_sum]
  refine congrArg List.sum (List.map_congr_left fun row listed => ?_)
  have bound := one row listed
  cases held : row.parcours.certificates.rows with
  | nil => rw [Inscription.aTermine, held]; rfl
  | cons first rest =>
      rw [held, List.length_cons] at bound
      rw [Inscription.aTermine, held, List.length_cons]
      exact Nat.le_antisymm bound (Nat.le_add_left 1 rest.length)

theorem pourcent_eq_cent_iff {partie total : Nat} (positive : 0 < total) (le : partie ≤ total) :
    pourcent partie total = 100 ↔ 199 * total ≤ 200 * partie := by
  have reached : 100 ≤ halfEven (100 * partie) total ↔
      2 * 100 * total ≤ 2 * (100 * partie) + total := even_le_halfEven_iff positive rfl
  have whole : pourcent total total = 100 := by
    rw [pourcent, if_neg positive.ne', halfEven, Nat.mul_div_cancel _ positive, Nat.mul_mod_left,
      if_pos (Or.inl positive)]
  have bound := pourcent_mono le total
  rw [whole] at bound
  rw [pourcent, if_neg positive.ne'] at bound ⊢
  omega

theorem successRate_eq_cent_iff (one : site.OneCertificate)
    (some_row : site.groupe tenant cle ≠ []) :
    (site.campagne tenant cle).successRate = 100 ↔
      199 * (site.groupe tenant cle).length ≤
        200 * (site.groupe tenant cle).countP Inscription.aTermine := by
  have finished : attestations (site.groupe tenant cle) =
      (site.groupe tenant cle).countP Inscription.aTermine :=
    attestations_eq_countP fun row listed => one row (inscription_of_mem_groupe listed)
  have rate : (site.campagne tenant cle).successRate =
      pourcent (attestations (site.groupe tenant cle)) (site.groupe tenant cle).length := rfl
  rw [rate, finished]
  exact pourcent_eq_cent_iff (List.length_pos_iff.mpr some_row) List.countP_le_length

/-- The enrolments of the course have reached the threshold when they are three and almost
eighty in a hundred are finished. -/
theorem atteintLesSeuils_iff {course : Nat} :
    (site.agregats tenant (some course)).atteintLesSeuils = true ↔
      3 ≤ (site.inscriptionsDe tenant (some course)).length ∧
        159 * (site.inscriptionsDe tenant (some course)).length ≤
          200 * (site.inscriptionsDe tenant (some course)).countP Inscription.aTermine := by
  have total : (site.agregats tenant (some course)).learnersTotal =
      (site.inscriptionsDe tenant (some course)).length := rfl
  have rate : (site.agregats tenant (some course)).successRate =
      pourcent ((site.inscriptionsDe tenant (some course)).countP Inscription.aTermine)
        (site.inscriptionsDe tenant (some course)).length := by
    rw [List.countP_eq_length_filter]
    rfl
  rw [Chiffres.atteintLesSeuils, Bool.and_eq_true, decide_eq_true_eq, decide_eq_true_eq, total,
    rate, minimumSalaries, seuilReussite]
  refine and_congr_right fun enough => ?_
  have positive : 0 < (site.inscriptionsDe tenant (some course)).length := by omega
  rw [pourcent, if_neg positive.ne', even_le_halfEven_iff positive rfl]
  omega

end Figures

end TrainingSite

/-! ## What is said of a campaign -/

section Notices

variable {runtime : TrainingRuntime} {annuaire : Annuaire} {site : TrainingSite}
  {aujourdhui now : Nat} {campagne : Campagne} {avis : Notice} {listed : List (Nat × Notice)}
  {state : Table Notification × Nat} {row : Notification}

theorem campagneFinie_injective : Function.Injective campagneFinie := by
  rintro ⟨course, day⟩ ⟨course', day'⟩ same
  injection same with _ parts
  injection parts with courses days
  injection days with days _
  injection days with days
  exact Prod.ext courses days

/-- A campaign is said to be finished by all when its rate is a hundred in a hundred. -/
theorem avisDe_done (said : avisDe runtime aujourdhui campagne = some avis)
    (kind : avis.kind = .trainingCampaignDone) :
    campagne.successRate = 100 ∧
      avis.dedupeKey = some (campagneFinie (campagne.courseId, campagne.dueDate)) := by
  simp only [avisDe] at said
  split at said
  · rename_i all
    injection said with said
    exact ⟨all, said ▸ rfl⟩
  · split at said
    · injection said with said
      rw [← said] at kind
      cases kind
    · split at said
      · injection said with said
        rw [← said] at kind
        cases kind
      · cases said

/-- The key of a campaign that is finished is not that of another event. -/
theorem avisDe_key {cle : Option Nat × Nat} (said : avisDe runtime aujourdhui campagne = some avis)
    (key : avis.dedupeKey = some (campagneFinie cle)) :
    avis.kind = .trainingCampaignDone := by
  have events : ∀ event other, event ≠ "campagne-finie" →
      some (cleDeNotification event other) ≠ some (campagneFinie cle) := by
    intro event other apart same
    injection same with same
    injection same with same _
    exact apart same
  simp only [avisDe] at said
  split at said
  · injection said with said
    rw [← said]
  · split at said
    · injection said with said
      rw [← said] at key
      exact absurd key (events _ _ (by decide))
    · split at said
      · injection said with said
        rw [← said] at key
        exact absurd key (events _ _ (by decide))
      · cases said

theorem avisDe_of_cent (runtime : TrainingRuntime) (aujourdhui : Nat)
    (all : campagne.successRate = 100) :
    ∃ avis, avisDe runtime aujourdhui campagne = some avis ∧
      avis.dedupeKey = some (campagneFinie (campagne.courseId, campagne.dueDate)) :=
  ⟨_, if_pos all, rfl⟩

theorem mem_campagnes {tenant : Nat} :
    campagne ∈ site.campagnes tenant ↔
      ∃ cle, site.groupe tenant cle ≠ [] ∧ site.campagne tenant cle = campagne := by
  rw [TrainingSite.campagnes, List.mem_insertionSort, List.mem_map]
  exact exists_congr fun cle => and_congr_left fun _ => TrainingSite.groupe_ne_nil_iff.symm

theorem mem_avisDuJour {client : Nat} :
    (client, avis) ∈ avisDuJour runtime annuaire site aujourdhui ↔
      client ∈ annuaire.actifs ∧
        ∃ campagne ∈ site.campagnes client, avisDe runtime aujourdhui campagne = some avis := by
  rw [avisDuJour, List.mem_flatMap]
  constructor
  · rintro ⟨other, active, said⟩
    obtain ⟨notice, told, same⟩ := List.mem_map.mp said
    injection same with client avis
    subst client avis
    exact ⟨active, List.mem_filterMap.mp told⟩
  · rintro ⟨active, told⟩
    exact ⟨client, active, List.mem_map.mpr ⟨avis, List.mem_filterMap.mpr told, rfl⟩⟩

/-- A notification was there, or it says something of the day. -/
theorem mem_foldl_prevenir :
    row ∈ (listed.foldl (prevenir annuaire now) state).1 → row ∈ state.1 ∨
      ∃ said ∈ listed, Delivered (annuaire.admins said.1) (some said.1) said.2 row := by
  induction listed generalizing state with
  | nil => exact .inl
  | cons said rest ih =>
      intro member
      rcases ih member with earlier | ⟨other, told, delivered⟩
      · refine (Notifications.mem_notify earlier).imp_right fun delivered => ?_
        exact ⟨said, List.mem_cons_self, delivered⟩
      · exact .inr ⟨other, List.mem_cons_of_mem _ told, delivered⟩

theorem mem_foldl_prevenir_of_mem (member : row ∈ state.1) :
    row ∈ (listed.foldl (prevenir annuaire now) state).1 := by
  induction listed generalizing state with
  | nil => exact member
  | cons said rest ih => exact ih (Notifications.mem_notify_of_mem member)

/-- Each administrator has a notification of what is said. -/
theorem exists_mem_foldl_prevenir (annuaire : Annuaire) (now : Nat)
    (state : Table Notification × Nat) {said : Nat × Notice} (told : said ∈ listed) {admin : Nat}
    (member : admin ∈ annuaire.admins said.1) :
    ∃ row ∈ (listed.foldl (prevenir annuaire now) state).1,
      row.recipient = admin ∧ row.dedupeKey = said.2.dedupeKey := by
  obtain ⟨earlier, later, rfl⟩ := List.append_of_mem told
  rw [List.foldl_append, List.foldl_cons]
  obtain ⟨row, inside, whose⟩ := Notifications.exists_mem_notify said.2 (some said.1) now
    (earlier.foldl (prevenir annuaire now) state).1 member
  exact ⟨row, mem_foldl_prevenir_of_mem inside, whose⟩

end Notices

/-! ## Decisions on rounded rates -/

/-- In the campaigns that are said to be finished by all, all the enrolments are. -/
def AnnouncesFinished (runtime : TrainingRuntime) (site : TrainingSite) : Prop :=
  ∀ annuaire aujourdhui now inbox,
    ∀ row ∈ (surveillerLesCampagnes runtime annuaire site aujourdhui now inbox).1,
      row ∉ inbox → row.kind = .trainingCampaignDone →
        ∃ client cle, row.tenant = some client ∧ row.dedupeKey = some (campagneFinie cle) ∧
          ∀ inscription ∈ site.groupe client cle, inscription.aTermine = true

/-- In the courses that prove something, four enrolments in five are finished. -/
def RetainsReached (site : TrainingSite) : Prop :=
  ∀ tenant, ∀ probante ∈ site.campagnesProbantes tenant,
    4 * (site.inscriptionsDe tenant (some probante.course.id)).length ≤
      5 * (site.inscriptionsDe tenant (some probante.course.id)).countP Inscription.aTermine

/-- What is said of the campaigns is exact when no campaign is almost finished. -/
theorem announcesFinished_iff (runtime : TrainingRuntime) {site : TrainingSite}
    (one : site.OneCertificate) :
    AnnouncesFinished runtime site ↔
      ∀ tenant cle, (∀ row ∈ site.groupe tenant cle, row.aTermine = true) ∨
        200 * (site.groupe tenant cle).countP Inscription.aTermine <
          199 * (site.groupe tenant cle).length := by
  constructor
  · intro announces tenant cle
    by_contra almost
    obtain ⟨unfinished, close⟩ := not_or.mp almost
    have some_row : site.groupe tenant cle ≠ [] := by
      intro empty
      rw [empty] at unfinished
      exact unfinished fun _ listed => absurd listed List.not_mem_nil
    have all : (site.campagne tenant cle).successRate = 100 :=
      (TrainingSite.successRate_eq_cent_iff one some_row).mpr (Nat.not_lt.mp close)
    obtain ⟨avis, said, key⟩ := avisDe_of_cent runtime 0 all
    have told : (tenant, avis) ∈ avisDuJour runtime ⟨[tenant], fun _ => [0]⟩ site 0 :=
      mem_avisDuJour.mpr ⟨List.mem_singleton_self tenant, _, mem_campagnes.mpr ⟨cle, some_row, rfl⟩,
        said⟩
    obtain ⟨row, inside, _, keyed⟩ := exists_mem_foldl_prevenir ⟨[tenant], fun _ => [0]⟩ 0
      (.empty, 0) told (List.mem_singleton_self 0)
    obtain fresh | ⟨other, told', delivered⟩ := mem_foldl_prevenir inside
    · exact absurd fresh List.not_mem_nil
    obtain ⟨active, campagne, _, said'⟩ := mem_avisDuJour.mp told'
    have keys : row.dedupeKey = some (campagneFinie cle) := keyed.trans key
    have kind : row.kind = .trainingCampaignDone :=
      delivered.kind.trans (avisDe_key said' (delivered.dedupeKey.symm.trans keys))
    obtain ⟨client, cle', whose, keys', finished⟩ := announces _ 0 0 .empty row inside
      List.not_mem_nil kind
    have sameClient : client = tenant := by
      rw [delivered.tenant] at whose
      injection whose with whose
      exact whose.symm.trans (List.mem_singleton.mp active)
    have sameCle : cle' = cle := by
      rw [keys] at keys'
      injection keys' with keys'
      exact (campagneFinie_injective keys').symm
    rw [sameClient, sameCle] at finished
    exact unfinished finished
  · intro apart annuaire aujourdhui now inbox row inside fresh kind
    obtain old | ⟨⟨client, avis⟩, told, delivered⟩ := mem_foldl_prevenir inside
    · exact absurd old fresh
    obtain ⟨_, campagne, reported, said⟩ := mem_avisDuJour.mp told
    obtain ⟨cle, some_row, rfl⟩ := mem_campagnes.mp reported
    obtain ⟨all, key⟩ := avisDe_done said (delivered.kind.symm.trans kind)
    refine ⟨client, cle, delivered.tenant, delivered.dedupeKey.trans key, ?_⟩
    have reached := (TrainingSite.successRate_eq_cent_iff one some_row).mp all
    exact (apart client cle).resolve_right (Nat.not_lt.mpr reached)

/-- The courses that are retained are those of four enrolments in five when none is just
under that. -/
theorem retainsReached_iff {site : TrainingSite} :
    RetainsReached site ↔
      ∀ tenant, ∀ course ∈ site.library.courses,
        (site.inscriptionsDe tenant (some course.id)).length < 3 ∨
          200 * (site.inscriptionsDe tenant (some course.id)).countP Inscription.aTermine <
            159 * (site.inscriptionsDe tenant (some course.id)).length ∨
          4 * (site.inscriptionsDe tenant (some course.id)).length ≤
            5 * (site.inscriptionsDe tenant (some course.id)).countP Inscription.aTermine := by
  constructor
  · intro retains tenant course inside
    rw [← or_assoc]
    refine or_iff_not_imp_left.mpr fun few => ?_
    obtain ⟨enough, close⟩ := not_or.mp few
    have found : site.library.courses.find? course.id = some course :=
      Table.find?_eq_some_iff.mpr ⟨inside, rfl⟩
    have reaches : site.probante tenant course.id = true := by
      rw [TrainingSite.probante, TrainingSite.resultats, found]
      exact TrainingSite.atteintLesSeuils_iff.mpr ⟨Nat.not_lt.mp enough, Nat.not_lt.mp close⟩
    obtain ⟨probante, listed, same⟩ := exists_mem_campagnesProbantes.mpr reaches
    have retained := retains tenant probante listed
    rwa [same] at retained
  · intro apart tenant probante listed
    obtain ⟨inside, figures, reaches⟩ := mem_campagnesProbantes listed
    rw [figures] at reaches
    obtain ⟨enough, close⟩ := TrainingSite.atteintLesSeuils_iff.mp reaches
    rcases apart tenant probante.course inside with few | under | retained
    · exact absurd enough (Nat.not_le.mpr few)
    · exact absurd close (Nat.not_le.mpr under)
    · exact retained

/-- The decisions on the rounded rates are those on the exact ones when no campaign has
between 99.5 % and all of its enrolments finished, and no course that is large enough
between 79.5 % and 80 % of them. -/
theorem rounded_decisions_iff (runtime : TrainingRuntime) {site : TrainingSite}
    (one : site.OneCertificate) :
    AnnouncesFinished runtime site ∧ RetainsReached site ↔
      (∀ tenant cle, (∀ row ∈ site.groupe tenant cle, row.aTermine = true) ∨
        200 * (site.groupe tenant cle).countP Inscription.aTermine <
          199 * (site.groupe tenant cle).length) ∧
      ∀ tenant, ∀ course ∈ site.library.courses,
        (site.inscriptionsDe tenant (some course.id)).length < 3 ∨
          200 * (site.inscriptionsDe tenant (some course.id)).countP Inscription.aTermine <
            159 * (site.inscriptionsDe tenant (some course.id)).length ∨
          4 * (site.inscriptionsDe tenant (some course.id)).length ≤
            5 * (site.inscriptionsDe tenant (some course.id)).countP Inscription.aTermine :=
  and_congr (announcesFinished_iff runtime one) retainsReached_iff

/-! Campaigns of any size, in one course of the company. -/

/-- The first employees have finished the course, and the others have begun it. -/
def inscrit (done key : Nat) : Inscription :=
  let all := finished key key 0
  if key < done then all else { all with parcours := { all.parcours with certificates := .empty } }

theorem ident_inscrit (done key : Nat) : ident (inscrit done key) = key := by
  rw [inscrit]
  split <;> rfl

def crowd (total done : Nat) : TrainingSite :=
  { companySite with
    learners :=
      ⟨(List.range total).map fun key =>
          ⟨key, 0, "Salarié " ++ toString key, toString key ++ "@duval.fr", true, none⟩,
        total, List.pairwise_map.mpr List.pairwise_lt_range, by
          simp only [List.forall_mem_map, List.mem_range]
          exact fun _ under => under⟩
    inscriptions :=
      ⟨(List.range total).map (inscrit done), total,
        List.pairwise_map.mpr (by simpa only [ident_inscrit] using List.pairwise_lt_range), by
          simp only [List.forall_mem_map, List.mem_range, ident_inscrit]
          exact fun _ under => under⟩ }

theorem oneCertificate_crowd (total done : Nat) : (crowd total done).OneCertificate := by
  intro row member
  obtain ⟨key, _, rfl⟩ := List.mem_map.mp (Table.mem_def.mp member)
  rw [inscrit]
  dsimp only
  split
  · exact Nat.le_refl 1
  · exact Nat.zero_le 1

theorem rounded_decisions_three_employees :
    threeEmployees.OneCertificate ∧ AnnouncesFinished companyRuntime threeEmployees ∧
      RetainsReached threeEmployees := by
  have finished : ∀ row ∈ threeEmployees.inscriptions, row.aTermine = true := by
    decide +kernel
  have one : threeEmployees.OneCertificate := by
    rw [TrainingSite.OneCertificate]
    decide +kernel
  refine ⟨one, (rounded_decisions_iff companyRuntime one).mpr ⟨?_, ?_⟩⟩
  · exact fun tenant cle => .inl fun row listed =>
      finished row (TrainingSite.inscription_of_mem_groupe listed)
  · intro tenant course _
    have all : (threeEmployees.inscriptionsDe tenant (some course.id)).countP Inscription.aTermine =
        (threeEmployees.inscriptionsDe tenant (some course.id)).length :=
      List.countP_eq_length.mpr fun row listed => finished row (List.mem_filter.mp listed).1
    rw [all]
    omega

/-- With 199 certificates for 200 enrolments the campaign is said to be finished by all,
and with 35 for 44 the course is retained. -/
theorem almost_finished_announced_and_retained :
    ¬AnnouncesFinished companyRuntime (crowd 200 199) ∧ ¬RetainsReached (crowd 44 35) := by
  constructor
  · rw [announcesFinished_iff companyRuntime (oneCertificate_crowd 200 199)]
    intro apart
    have figures := apart 0 (some 0, 20)
    revert figures
    decide +kernel
  · rw [retainsReached_iff]
    intro apart
    have figures := apart 0 ⟨0, "mots-de-passe", "Mots de passe", "", none⟩ (by decide)
    revert figures
    decide +kernel

end RssiService.Training
