import RssiService.Foundation.Counting
import RssiService.Training.Campaigns

/-!
# Reports

The figures of a course are counted over the enrolments that live: those begun have
screens seen, those finished a certificate.
-/

namespace RssiService.Training

open Foundation Foundation.Run Interleaving Python

structure Chiffres where
  learnersTotal : Nat
  notStarted : Int
  inProgress : Nat
  completed : Nat
  participationRate : Nat
  successRate : Nat
  averageScore : Option Nat
  attemptsTotal : Nat
  deriving DecidableEq, Repr

def pourcent (partie total : Nat) : Nat := if total = 0 then 0 else halfEven (100 * partie) total

theorem pourcent_mono {first second : Nat} (le : first ≤ second) (total : Nat) :
    pourcent first total ≤ pourcent second total := by
  rw [pourcent, pourcent]
  split
  · exact Nat.le_refl _
  · exact halfEven_mono (Nat.mul_le_mul_left 100 le) total

/-- Some screen was seen. -/
def Inscription.aCommence (inscription : Inscription) : Bool := !inscription.parcours.seen.isEmpty

namespace TrainingSite

def courseOf (site : TrainingSite) (inscription : Inscription) : Option Nat :=
  (site.library.versions.find? inscription.version).map CourseVersion.course

/-- The enrolments of a company that live, in one course or in all. -/
def inscriptionsDe (site : TrainingSite) (tenant : Nat) (course : Option Nat) : List Inscription :=
  site.inscriptions.rows.filter fun row =>
    row.tenant = tenant && !row.isRevoked &&
      course.all fun course => site.courseOf row = some course

def agregats (site : TrainingSite) (tenant : Nat) (course : Option Nat) : Chiffres :=
  let inscriptions := site.inscriptionsDe tenant course
  let total := inscriptions.length
  let commences := inscriptions.filter Inscription.aCommence
  let reussis := inscriptions.filter Inscription.aTermine
  let enCours := commences.filter fun row => !row.aTermine
  let scores := inscriptions.flatMap fun row => row.parcours.attempts.rows.map Attempt.score
  { learnersTotal := total
    notStarted := (total : Int) - commences.length
    inProgress := enCours.length
    completed := reussis.length
    participationRate := pourcent commences.length total
    successRate := pourcent reussis.length total
    averageScore := if scores.isEmpty then none else some (halfEven scores.sum scores.length)
    attemptsTotal := scores.length }

/-- The three classes make up the whole, none is negative, and no more succeed than
take part. -/
structure Balanced (chiffres : Chiffres) : Prop where
  total : chiffres.notStarted + chiffres.inProgress + chiffres.completed = chiffres.learnersTotal
  notStarted : 0 ≤ chiffres.notStarted
  rates : chiffres.successRate ≤ chiffres.participationRate

section Figures

variable {site : TrainingSite}

/-- The figures of a list of enrolments balance when what is finished was begun, and only
then. -/
theorem balanced_agregats_iff (tenant : Nat) (course : Option Nat) :
    Balanced (site.agregats tenant course) ↔
      ∀ row ∈ site.inscriptionsDe tenant course, row.aTermine = true → row.aCommence = true := by
  generalize listed : site.inscriptionsDe tenant course = rows
  have finished := countP_split rows Inscription.aTermine Inscription.aCommence
  have begun := countP_split rows Inscription.aCommence Inscription.aTermine
  have both : (rows.countP fun row => row.aCommence && row.aTermine) =
      rows.countP fun row => row.aTermine && row.aCommence := by
    simp only [Bool.and_comm]
  have only : (rows.countP fun row => row.aTermine && !row.aCommence) = 0 ↔
      ∀ row ∈ rows, row.aTermine = true → row.aCommence = true := by
    rw [List.countP_eq_zero]
    refine forall₂_congr fun row _ => ?_
    cases row.aTermine <;> cases row.aCommence <;> simp
  have bound : rows.countP Inscription.aCommence ≤ rows.length := List.countP_le_length
  rw [← only]
  constructor
  · intro balanced
    have total := balanced.total
    simp only [agregats, listed, List.filter_filter, ← List.countP_eq_length_filter,
      Bool.and_comm (!_)] at total
    omega
  · intro none
    refine ⟨?_, ?_, ?_⟩
    · simp only [agregats, listed, List.filter_filter, ← List.countP_eq_length_filter,
        Bool.and_comm (!_)]
      omega
    · simp only [agregats, listed, ← List.countP_eq_length_filter]
      omega
    · simp only [agregats, listed, ← List.countP_eq_length_filter]
      exact pourcent_mono (by omega) _

end Figures

end TrainingSite

end RssiService.Training
