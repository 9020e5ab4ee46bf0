import Mathlib.Data.List.Sort
import RssiService.Foundation.Table
import RssiService.Python.Json

/-!
# Courses

A course has versions, a version has screens and questions, and a question has
choices and refers to the screen that answers it.
-/

namespace RssiService.Training

open Foundation Python

structure Course where
  id : Nat
  slug : String
  title : String
  summary : String
  ownerTenant : Option Nat
  deriving DecidableEq, Repr

/-- A version of a course; it is a draft as long as it has no date of publication. -/
structure CourseVersion where
  id : Nat
  course : Nat
  number : Nat
  publishedAt : Option Nat
  passThreshold : Nat
  maxAttempts : Nat
  changeNote : String
  deriving DecidableEq, Repr

structure Screen where
  id : Nat
  version : Nat
  order : Nat
  title : String
  content : List Json
  estimatedSeconds : Nat

inductive Kind where
  | single
  | multiple
  deriving DecidableEq, Repr

structure Question where
  id : Nat
  version : Nat
  order : Nat
  text : String
  kind : Kind
  explanation : String
  screen : Nat
  deriving DecidableEq, Repr

structure Choice where
  id : Nat
  question : Nat
  order : Nat
  text : String
  isCorrect : Bool
  deriving DecidableEq, Repr

instance : Identified Course := ⟨Course.id⟩
instance : Identified CourseVersion := ⟨CourseVersion.id⟩
instance : Identified Screen := ⟨Screen.id⟩
instance : Identified Question := ⟨Question.id⟩
instance : Identified Choice := ⟨Choice.id⟩

def CourseVersion.isPublished (version : CourseVersion) : Bool := version.publishedAt.isSome

/-- The tables of the courses. -/
structure Library where
  courses : Table Course
  versions : Table CourseVersion
  screens : Table Screen
  questions : Table Question
  choices : Table Choice

/-- The screens of a version, in order. -/
def Library.screensOf (library : Library) (version : Nat) : List Screen :=
  (library.screens.rows.filter fun row => row.version = version).insertionSort
    fun first second => first.order ≤ second.order

theorem mem_screensOf {library : Library} {version : Nat} {row : Screen} :
    row ∈ library.screensOf version ↔ row ∈ library.screens ∧ row.version = version := by
  rw [Library.screensOf, List.mem_insertionSort, List.mem_filter, decide_eq_true_eq]
  rfl

theorem nodup_screensOf (library : Library) (version : Nat) :
    ((library.screensOf version).map Screen.id).Nodup := by
  have keys : (library.screens.rows.map Screen.id).Nodup :=
    List.pairwise_map.mpr (library.screens.increasing.imp fun lower => Nat.ne_of_lt lower)
  refine ((List.perm_insertionSort _ _).map Screen.id).nodup_iff.mpr ?_
  exact keys.sublist (List.filter_sublist.map Screen.id)

/-- The questions of a version, in order. -/
def Library.questionsOf (library : Library) (version : Nat) : List Question :=
  (library.questions.rows.filter fun row => row.version = version).insertionSort
    fun first second => first.order ≤ second.order

theorem mem_questionsOf {library : Library} {version : Nat} {row : Question} :
    row ∈ library.questionsOf version ↔ row ∈ library.questions ∧ row.version = version := by
  rw [Library.questionsOf, List.mem_insertionSort, List.mem_filter, decide_eq_true_eq]
  rfl

/-- The choices of a question, in order. -/
def Library.choicesOf (library : Library) (question : Nat) : List Choice :=
  (library.choices.rows.filter fun row => row.question = question).insertionSort
    fun first second => first.order ≤ second.order

def Library.correctChoices (library : Library) (question : Nat) : List Choice :=
  (library.choicesOf question).filter Choice.isCorrect

end RssiService.Training
