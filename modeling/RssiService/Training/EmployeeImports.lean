import RssiService.Foundation.Template
import RssiService.Python.Csv
import RssiService.Training.Campaigns

/-!
# Importing a list of employees

A company gives its employees as a file, one name and one address per line.  All
lines are gone through, and each of them is reported as a new employee, an address
that is already known or an invalid line.  The import ends early when the database
refuses a text.
-/

namespace RssiService.Training

open Foundation Foundation.Template Python

/-! ## Declaring an employee -/

def maxFullName : Nat := 150
def maxEmail : Nat := 254

/-- A text that the database stores in a column: it is not longer than the column
and holds no NUL character. -/
def storable (maximum : Nat) (text : String) : Bool :=
  text.length ≤ maximum && !text.toList.contains (Char.ofNat 0)

namespace TrainingSite

/-- The employee of the company with that address. -/
def apprenant? (site : TrainingSite) (tenant : Nat) (email : String) : Option Learner :=
  site.learners.rows.find? fun row => row.tenant = tenant && row.email = email

def creerApprenant (unicode : Unicode) (tenant : Nat) (fullName email : String)
    (actor : Option Nat) (site : TrainingSite) :
    Except TrainingFailure (Learner × TrainingSite) :=
  let email := unicode.lower (strip email)
  match site.apprenant? tenant email with
  | some existant =>
      .error (.inscriptionRefusee s!"{existant.fullName} figure déjà dans vos salariés formés.")
  | none =>
      let fullName := strip fullName
      if storable maxFullName fullName && storable maxEmail email then
        let build (id : Nat) : Learner := ⟨id, tenant, fullName, email, true, actor⟩
        .ok (build site.learners.next,
          { site with learners := site.learners.create build fun _ => rfl })
      else .error .database

end TrainingSite

/-! ## Reading the file -/

inductive ImportFailure where
  | importRefuse (message : String)
  | csv (message : String)
  | training (failure : TrainingFailure)
  deriving DecidableEq, Repr

def separateurs : List Char := [';', ',', '\t']

/-- The text of the file with line feeds only, without the blanks around it. -/
def texteDuFichier (contenu : String) : String :=
  strip (String.ofList (replaceAll ['\r', '\n'] ['\n'] contenu.toList))

def premiereLigne (texte : String) : List Char :=
  texte.toList.takeWhile fun symbol => symbol ≠ '\n'

/-- The separator that the line holds most often, the first of them. -/
def separateurDe (ligne : List Char) : Char :=
  separateurs.foldl
    (fun retenu separateur =>
      if ligne.count retenu < ligne.count separateur then separateur else retenu) ';'

def lignes (contenu : String) : Except ImportFailure (List (List String)) :=
  let texte := texteDuFichier contenu
  if texte = "" then .error (.importRefuse "Le fichier est vide.")
  else
    let premiere := premiereLigne texte
    let separateur := separateurDe premiere
    if premiere.count separateur = 0 then
      .error (.importRefuse ("Aucune colonne détectée. Attendu : un nom et une adresse par ligne, " ++
        "séparés par un point-virgule."))
    else (Csv.read separateur texte).mapError .csv

/-! ## The import -/

/-- What the import tells of the lines: the employees it created with their names,
the addresses it knew, and the numbers of the invalid lines with the reason. -/
structure RapportImport where
  crees : List (Nat × String)
  dejaPresents : List String
  invalides : List (Nat × String)
  deriving DecidableEq, Repr

namespace RapportImport

def vide : RapportImport := ⟨[], [], []⟩

def cree (rapport : RapportImport) (salarie : Learner) : RapportImport :=
  { rapport with crees := rapport.crees ++ [(salarie.id, salarie.fullName)] }

def dejaPresent (rapport : RapportImport) (email : String) : RapportImport :=
  { rapport with dejaPresents := rapport.dejaPresents ++ [email] }

def invalide (rapport : RapportImport) (ligne : Nat) (raison : String) : RapportImport :=
  { rapport with invalides := rapport.invalides ++ [(ligne, raison)] }

end RapportImport

def entetes : List String := ["nom", "name", "email", "adresse", "courriel"]

def cellulesDe (colonnes : List String) : List String := colonnes.map strip

def estVide (cellules : List String) : Bool := cellules.all fun cellule => cellule = ""

/-- The first line of the file names the columns. -/
def estEntete (unicode : Unicode) (numero : Nat) (cellules : List String) : Bool :=
  numero = 1 && cellules.any fun cellule => unicode.lower cellule ∈ entetes

def estAdresse (email : String) : Bool :=
  email.toList.contains '@' && (afterLast '@' email.toList).contains '.'

/-- One line of the file. -/
def importerLigne (unicode : Unicode) (tenant : Nat) (actor : Option Nat) (numero : Nat)
    (colonnes : List String) (rapport : RapportImport) (site : TrainingSite) :
    Except TrainingFailure (RapportImport × TrainingSite) :=
  let cellules := cellulesDe colonnes
  if estVide cellules then .ok (rapport, site)
  else if estEntete unicode numero cellules then .ok (rapport, site)
  else
    match cellules with
    | nom :: adresse :: _ =>
        let email := unicode.lower adresse
        if estAdresse email = false then
          .ok (rapport.invalide numero s!"« {email} » n'est pas une adresse.", site)
        else if nom = "" then .ok (rapport.invalide numero "Le nom est vide.", site)
        else
          match site.creerApprenant unicode tenant nom email actor with
          | .ok (salarie, site) => .ok (rapport.cree salarie, site)
          | .error (.inscriptionRefusee _) => .ok (rapport.dejaPresent email, site)
          | .error failure => .error failure
    | _ => .ok (rapport.invalide numero "Il manque une colonne.", site)

/-- The lines one after the other; the employees created so far stay when one fails. -/
def importerLignes (unicode : Unicode) (tenant : Nat) (actor : Option Nat) (numero : Nat) :
    List (List String) → RapportImport → TrainingSite →
      Except ImportFailure RapportImport × TrainingSite
  | [], rapport, site => (.ok rapport, site)
  | colonnes :: suite, rapport, site =>
      match importerLigne unicode tenant actor numero colonnes rapport site with
      | .ok (rapport, site) => importerLignes unicode tenant actor (numero + 1) suite rapport site
      | .error failure => (.error (.training failure), site)

def importerDesSalaries (unicode : Unicode) (tenant : Nat) (contenu : String) (actor : Option Nat)
    (site : TrainingSite) : Except ImportFailure RapportImport × TrainingSite :=
  match lignes contenu with
  | .error failure => (.error failure, site)
  | .ok lues => importerLignes unicode tenant actor 1 lues .vide site

end RssiService.Training
