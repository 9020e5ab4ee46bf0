import RssiService.Training.EmployeeImports

/-!
# When an import goes through the file

Every line that is neither blank nor a header has exactly one mention, and the
addresses it asks for are known afterwards, so that a second import creates
nobody.  The only lines that stop the import ask for a new employee with a text
that the database does not store.
-/

namespace RssiService.Training

open Foundation Foundation.Template Python

/-! ## The lines that count -/

/-- The lines that are neither blank nor a header, with their numbers and cells. -/
def retenues (unicode : Unicode) (numero : Nat) : List (List String) → List (Nat × List String)
  | [] => []
  | colonnes :: suite =>
      if estVide (cellulesDe colonnes) || estEntete unicode numero (cellulesDe colonnes) then
        retenues unicode (numero + 1) suite
      else (numero, cellulesDe colonnes) :: retenues unicode (numero + 1) suite

theorem retenues_passee {unicode : Unicode} {numero : Nat} {colonnes : List String}
    (suite : List (List String))
    (passee : (estVide (cellulesDe colonnes) ||
      estEntete unicode numero (cellulesDe colonnes)) = true) :
    retenues unicode numero (colonnes :: suite) = retenues unicode (numero + 1) suite :=
  if_pos passee

theorem retenues_retenue {unicode : Unicode} {numero : Nat} {colonnes : List String}
    (suite : List (List String))
    (retenue : (estVide (cellulesDe colonnes) ||
      estEntete unicode numero (cellulesDe colonnes)) = false) :
    retenues unicode numero (colonnes :: suite) =
      (numero, cellulesDe colonnes) :: retenues unicode (numero + 1) suite :=
  if_neg (Bool.not_eq_true _ ▸ retenue)

/-- The name and the address of the employee that the cells of a line ask for. -/
def candidat (unicode : Unicode) : List String → Option (String × String)
  | nom :: adresse :: _ =>
      let email := unicode.lower adresse
      if estAdresse email && nom ≠ "" then some (strip nom, unicode.lower (strip email)) else none
  | _ => none

/-- The company has an employee with that address. -/
def Connue (tenant : Nat) (site : TrainingSite) (email : String) : Prop :=
  ∃ salarie ∈ site.learners, salarie.tenant = tenant ∧ salarie.email = email

/-- What the report says of one line. -/
inductive Mention where
  | cree (salarie : Learner)
  | dejaPresent (email : String)
  | invalide (ligne : Nat) (raison : String)

def RapportImport.noter (rapport : RapportImport) : Mention → RapportImport
  | .cree salarie => rapport.cree salarie
  | .dejaPresent email => rapport.dejaPresent email
  | .invalide ligne raison => rapport.invalide ligne raison

/-- The mention is about the line: the employee has the name and the address of the
line, the known address is the one of the line, or the number is the one of the line,
which asks for nobody. -/
def Concerne (unicode : Unicode) (tenant : Nat) (site : TrainingSite) (ligne : Nat × List String) :
    Mention → Prop
  | .cree salarie =>
      salarie ∈ site.learners ∧ salarie.tenant = tenant ∧
        candidat unicode ligne.2 = some (salarie.fullName, salarie.email)
  | .dejaPresent email =>
      ∃ nom adresse suite, ligne.2 = nom :: adresse :: suite ∧ email = unicode.lower adresse ∧
        Connue tenant site (unicode.lower (strip email))
  | .invalide numero _ => numero = ligne.1 ∧ candidat unicode ligne.2 = none

section Apprenant

variable {unicode : Unicode} {tenant : Nat} {site : TrainingSite}

theorem apprenant?_eq_none {email : String} :
    site.apprenant? tenant email = none ↔ ¬ Connue tenant site email := by
  rw [TrainingSite.apprenant?, List.find?_eq_none]
  constructor
  · rintro none ⟨salarie, member, rfl, rfl⟩
    exact none salarie member (by simp)
  · intro unknown salarie member same
    simp only [Bool.and_eq_true, decide_eq_true_eq] at same
    exact unknown ⟨salarie, member, same.1, same.2⟩

/-- The database stores both texts. -/
def Storable (nom email : String) : Prop :=
  storable maxFullName nom = true ∧ storable maxEmail email = true

theorem creerApprenant_connue (actor : Option Nat) (nom : String) {email : String}
    (known : Connue tenant site (unicode.lower (strip email))) :
    ∃ message, site.creerApprenant unicode tenant nom email actor =
      .error (.inscriptionRefusee message) := by
  rw [TrainingSite.creerApprenant]
  cases found : site.apprenant? tenant (unicode.lower (strip email)) with
  | none => exact absurd known (apprenant?_eq_none.mp found)
  | some existant => exact ⟨_, rfl⟩

theorem creerApprenant_new (actor : Option Nat) {nom email : String}
    (unknown : ¬ Connue tenant site (unicode.lower (strip email)))
    (fits : Storable (strip nom) (unicode.lower (strip email))) :
    ∃ salarie suite, site.creerApprenant unicode tenant nom email actor = .ok (salarie, suite) ∧
      salarie.tenant = tenant ∧ salarie.fullName = strip nom ∧
      salarie.email = unicode.lower (strip email) ∧
      ∀ row, row ∈ suite.learners ↔ row ∈ site.learners ∨ row = salarie := by
  have none := apprenant?_eq_none.mpr unknown
  let build (id : Nat) : Learner :=
    ⟨id, tenant, strip nom, unicode.lower (strip email), true, actor⟩
  refine ⟨build site.learners.next,
    { site with learners := site.learners.create build fun _ => rfl }, ?_, rfl, rfl, rfl, ?_⟩
  · simp only [TrainingSite.creerApprenant, none, fits.1, fits.2, Bool.and_self, if_true]
    rfl
  · intro row
    exact (Table.mem_create : row ∈ site.learners.create build (fun _ => rfl) ↔ _)

theorem creerApprenant_database (actor : Option Nat) {nom email : String}
    (unknown : ¬ Connue tenant site (unicode.lower (strip email)))
    (refused : ¬ Storable (strip nom) (unicode.lower (strip email))) :
    site.creerApprenant unicode tenant nom email actor = .error .database := by
  have none := apprenant?_eq_none.mpr unknown
  rw [Storable, ← Bool.and_eq_true] at refused
  simp only [TrainingSite.creerApprenant, none, if_neg refused]

end Apprenant

/-! ## One line -/

section Ligne

variable {unicode : Unicode} {tenant : Nat} {actor : Option Nat} {numero : Nat}
  {colonnes : List String} {rapport : RapportImport} {site : TrainingSite}

/-- A blank line and a header leave everything as it is. -/
theorem importerLigne_passee
    (passee : (estVide (cellulesDe colonnes) ||
      estEntete unicode numero (cellulesDe colonnes)) = true) :
    importerLigne unicode tenant actor numero colonnes rapport site = .ok (rapport, site) := by
  rw [importerLigne]
  by_cases vide : estVide (cellulesDe colonnes) = true
  · rw [if_pos vide]
  · rw [Bool.not_eq_true] at vide
    rw [vide, Bool.false_or] at passee
    rw [if_neg (by rw [vide]; exact Bool.false_ne_true), if_pos passee]

/-- A line that counts is invalid and asks for nobody, or does what the creation of
its employee does. -/
theorem importerLigne_retenue (tenant : Nat) (actor : Option Nat) (rapport : RapportImport)
    (site : TrainingSite)
    (retenue : (estVide (cellulesDe colonnes) ||
      estEntete unicode numero (cellulesDe colonnes)) = false) :
    (candidat unicode (cellulesDe colonnes) = none ∧ ∃ raison,
      importerLigne unicode tenant actor numero colonnes rapport site =
        .ok (rapport.noter (.invalide numero raison), site)) ∨
    ∃ nom adresse suite, cellulesDe colonnes = nom :: adresse :: suite ∧
      candidat unicode (cellulesDe colonnes) =
        some (strip nom, unicode.lower (strip (unicode.lower adresse))) ∧
      (∀ salarie apres,
        site.creerApprenant unicode tenant nom (unicode.lower adresse) actor =
            .ok (salarie, apres) →
          importerLigne unicode tenant actor numero colonnes rapport site =
            .ok (rapport.cree salarie, apres)) ∧
      (∀ message, site.creerApprenant unicode tenant nom (unicode.lower adresse) actor =
          .error (.inscriptionRefusee message) →
        importerLigne unicode tenant actor numero colonnes rapport site =
          .ok (rapport.dejaPresent (unicode.lower adresse), site)) ∧
      (site.creerApprenant unicode tenant nom (unicode.lower adresse) actor = .error .database →
        importerLigne unicode tenant actor numero colonnes rapport site = .error .database) := by
  rw [Bool.or_eq_false_iff] at retenue
  rw [importerLigne, if_neg (by rw [retenue.1]; exact Bool.false_ne_true),
    if_neg (by rw [retenue.2]; exact Bool.false_ne_true)]
  match cellulesDe colonnes with
  | [] => exact .inl ⟨rfl, _, rfl⟩
  | [seule] => exact .inl ⟨rfl, _, rfl⟩
  | nom :: adresse :: suite =>
      by_cases valide : estAdresse (unicode.lower adresse) = true
      · by_cases sansNom : nom = ""
        · refine .inl ⟨by simp [candidat, sansNom], "Le nom est vide.", ?_⟩
          simp only [valide, Bool.true_eq_false, if_false, if_pos sansNom]
          rfl
        · simp only [valide, Bool.true_eq_false, if_false, if_neg sansNom]
          refine .inr ⟨nom, adresse, suite, rfl, by simp [candidat, valide, sansNom], ?_, ?_, ?_⟩
          · intro salarie apres created
            rw [created]
          · intro message refused
            rw [refused]
          · intro failed
            rw [failed]
      · rw [Bool.not_eq_true] at valide
        refine .inl ⟨by simp [candidat, valide],
          s!"« {unicode.lower adresse} » n'est pas une adresse.", ?_⟩
        simp only [valide, if_true]
        rfl

/-- The line is done: it has one mention, the employees stay, and the address it asks
for is known. -/
structure Traite (unicode : Unicode) (tenant numero : Nat) (cellules : List String)
    (site apres : TrainingSite) (mention : Mention) : Prop where
  concerne : Concerne unicode tenant apres (numero, cellules) mention
  garde : ∀ row ∈ site.learners, row ∈ apres.learners
  connues : ∀ email, Connue tenant apres email ↔
    Connue tenant site email ∨ ∃ nom, candidat unicode cellules = some (nom, email)
  tient : ∀ nom email, candidat unicode cellules = some (nom, email) →
    ¬ Connue tenant site email → Storable nom email

section Demande

variable {cellules : List String} {nom email : String}

theorem eq_of_candidat (demande : candidat unicode cellules = some (nom, email))
    {autre adresse : String} (same : candidat unicode cellules = some (autre, adresse)) :
    autre = nom ∧ adresse = email := by
  rw [demande, Option.some.injEq, Prod.mk.injEq] at same
  exact ⟨same.1.symm, same.2.symm⟩

/-- A line that asks for nobody. -/
theorem traite_invalide (raison : String) (personne : candidat unicode cellules = none) :
    Traite unicode tenant numero cellules site site (.invalide numero raison) := by
  refine ⟨⟨rfl, personne⟩, fun _ member => member, ?_, ?_⟩
  · simp [personne]
  · simp [personne]

/-- A line that asks for a known address. -/
theorem traite_dejaPresent {mention : Mention}
    (concerne : Concerne unicode tenant site (numero, cellules) mention)
    (demande : candidat unicode cellules = some (nom, email)) (known : Connue tenant site email) :
    Traite unicode tenant numero cellules site site mention := by
  refine ⟨concerne, fun _ member => member, ?_, ?_⟩
  · intro adresse
    refine ⟨.inl, fun either => either.elim id ?_⟩
    rintro ⟨autre, same⟩
    exact (eq_of_candidat demande same).2 ▸ known
  · intro autre adresse same unknown
    exact absurd ((eq_of_candidat demande same).2 ▸ known) unknown

/-- A line whose employee the company has at last. -/
theorem traite_cree {salarie : Learner} {apres : TrainingSite}
    (demande : candidat unicode cellules = some (salarie.fullName, salarie.email))
    (fits : Storable salarie.fullName salarie.email) (itsTenant : salarie.tenant = tenant)
    (members : ∀ row, row ∈ apres.learners ↔ row ∈ site.learners ∨ row = salarie) :
    Traite unicode tenant numero cellules site apres (.cree salarie) := by
  refine ⟨⟨(members salarie).mpr (.inr rfl), itsTenant, demande⟩,
    fun row member => (members row).mpr (.inl member), ?_, ?_⟩
  · intro adresse
    constructor
    · rintro ⟨row, member, rowTenant, rfl⟩
      rcases (members row).mp member with old | rfl
      · exact .inl ⟨row, old, rowTenant, rfl⟩
      · exact .inr ⟨_, demande⟩
    · rintro (⟨row, member, rowTenant, rowEmail⟩ | ⟨autre, same⟩)
      · exact ⟨row, (members row).mpr (.inl member), rowTenant, rowEmail⟩
      · exact ⟨salarie, (members salarie).mpr (.inr rfl), itsTenant,
          (eq_of_candidat demande same).2.symm⟩
  · intro autre adresse same _
    obtain ⟨rfl, rfl⟩ := eq_of_candidat demande same
    exact fits

end Demande

/-- A line that counts is done, unless it asks for a new employee whose texts the
database refuses. -/
theorem importerLigne_cases (tenant : Nat) (actor : Option Nat) (rapport : RapportImport)
    (site : TrainingSite)
    (retenue : (estVide (cellulesDe colonnes) ||
      estEntete unicode numero (cellulesDe colonnes)) = false) :
    (∃ mention apres, importerLigne unicode tenant actor numero colonnes rapport site =
        .ok (rapport.noter mention, apres) ∧
      Traite unicode tenant numero (cellulesDe colonnes) site apres mention) ∨
    (importerLigne unicode tenant actor numero colonnes rapport site = .error .database ∧
      ∃ nom email, candidat unicode (cellulesDe colonnes) = some (nom, email) ∧
        ¬ Connue tenant site email ∧ ¬ Storable nom email) := by
  rcases importerLigne_retenue tenant actor rapport site retenue with
    ⟨personne, raison, noted⟩ | ⟨nom, adresse, suite, shape, demande, created, refused, failed⟩
  · exact .inl ⟨_, site, noted, traite_invalide raison personne⟩
  · by_cases known : Connue tenant site (unicode.lower (strip (unicode.lower adresse)))
    · obtain ⟨message, found⟩ := creerApprenant_connue actor nom known
      have concerne : Concerne unicode tenant site (numero, cellulesDe colonnes)
          (.dejaPresent (unicode.lower adresse)) := ⟨nom, adresse, suite, shape, rfl, known⟩
      exact .inl ⟨.dejaPresent (unicode.lower adresse), site, refused message found,
        traite_dejaPresent concerne demande known⟩
    · by_cases fits : Storable (strip nom) (unicode.lower (strip (unicode.lower adresse)))
      · obtain ⟨salarie, apres, done, itsTenant, itsName, itsEmail, members⟩ :=
          creerApprenant_new actor known fits
        rw [← itsName, ← itsEmail] at demande fits
        exact .inl ⟨.cree salarie, apres, created salarie apres done,
          traite_cree demande fits itsTenant members⟩
      · exact .inr ⟨failed (creerApprenant_database actor known fits), _, _, demande, known, fits⟩

end Ligne

/-! ## All the lines -/

/-- Every new employee that the lines ask for has texts that the database stores; an
employee is new when neither the company nor an earlier line has the address. -/
def Tiennent (unicode : Unicode) (connue : String → Prop) (lignes : List (Nat × List String)) :
    Prop :=
  ∀ avant ligne apres, lignes = avant ++ ligne :: apres → ∀ nom email,
    candidat unicode ligne.2 = some (nom, email) → ¬ connue email →
      (∀ autre ∈ avant, ∀ nom', candidat unicode autre.2 ≠ some (nom', email)) → Storable nom email

theorem tiennent_cons {unicode : Unicode} {connue suivante : String → Prop}
    {ligne : Nat × List String} {lignes : List (Nat × List String)}
    (known : ∀ email, suivante email ↔
      connue email ∨ ∃ nom, candidat unicode ligne.2 = some (nom, email)) :
    Tiennent unicode connue (ligne :: lignes) ↔
      (∀ nom email, candidat unicode ligne.2 = some (nom, email) → ¬ connue email →
        Storable nom email) ∧ Tiennent unicode suivante lignes := by
  constructor
  · intro all
    refine ⟨fun nom email demande unknown => ?_, ?_⟩
    · exact all [] ligne lignes rfl nom email demande unknown
        fun autre member => absurd member List.not_mem_nil
    · rintro avant autre apres rfl nom email demande unknown fresh
      rw [known, not_or] at unknown
      refine all (ligne :: avant) autre apres rfl nom email demande unknown.1 ?_
      intro premiere member nom' same
      rcases List.mem_cons.mp member with rfl | later
      · exact unknown.2 ⟨nom', same⟩
      · exact fresh premiere later nom' same
  · rintro ⟨first, rest⟩ avant autre apres split nom email demande unknown fresh
    cases avant with
    | nil =>
        obtain ⟨rfl, rfl⟩ := List.cons.inj split
        exact first nom email demande unknown
    | cons premiere avant =>
        obtain ⟨rfl, rfl⟩ := List.cons.inj split
        refine rest avant autre apres rfl nom email demande ?_
          fun ligne member => fresh ligne (List.mem_cons_of_mem _ member)
        rw [known, not_or]
        refine ⟨unknown, ?_⟩
        rintro ⟨nom', same⟩
        exact fresh _ List.mem_cons_self nom' same

theorem Concerne.mono {unicode : Unicode} {tenant : Nat} {site apres : TrainingSite}
    (garde : ∀ row ∈ site.learners, row ∈ apres.learners) {ligne : Nat × List String}
    {mention : Mention} (concerne : Concerne unicode tenant site ligne mention) :
    Concerne unicode tenant apres ligne mention := by
  cases mention with
  | cree salarie => exact ⟨garde _ concerne.1, concerne.2⟩
  | dejaPresent email =>
      obtain ⟨nom, adresse, suite, shape, same, salarie, member, itsTenant, itsEmail⟩ := concerne
      exact ⟨nom, adresse, suite, shape, same, salarie, garde _ member, itsTenant, itsEmail⟩
  | invalide ligne raison => exact concerne

section Boucle

variable {unicode : Unicode} {tenant : Nat} (actor : Option Nat)

/-- The import goes through lines whose new employees fit: each line has its mention,
and every address that is asked for is known at the end. -/
theorem importerLignes_tiennent (rapport : RapportImport) {numero : Nat}
    {lues : List (List String)} {site : TrainingSite}
    (tiennent : Tiennent unicode (Connue tenant site) (retenues unicode numero lues)) :
    ∃ mentions apres, importerLignes unicode tenant actor numero lues rapport site =
        (.ok (mentions.foldl RapportImport.noter rapport), apres) ∧
      List.Forall₂ (Concerne unicode tenant apres) (retenues unicode numero lues) mentions ∧
      (∀ row ∈ site.learners, row ∈ apres.learners) ∧
      ∀ ligne ∈ retenues unicode numero lues, ∀ nom email,
        candidat unicode ligne.2 = some (nom, email) → Connue tenant apres email := by
  induction lues generalizing numero rapport site with
  | nil =>
      exact ⟨[], site, rfl, .nil, fun _ member => member,
        fun _ member => absurd member List.not_mem_nil⟩
  | cons colonnes suite ih =>
      cases passee : (estVide (cellulesDe colonnes) ||
          estEntete unicode numero (cellulesDe colonnes)) with
      | true =>
          rw [retenues_passee suite passee] at tiennent ⊢
          rw [importerLignes, importerLigne_passee passee]
          exact ih rapport tiennent
      | false =>
          rw [retenues_retenue suite passee] at tiennent ⊢
          rcases importerLigne_cases tenant actor rapport site passee with
            ⟨mention, milieu, step, traite⟩ | ⟨_, nom, email, demande, unknown, refused⟩
          · rw [importerLignes, step]
            obtain ⟨mentions, apres, loop, concernes, garde, connues⟩ :=
              ih (rapport.noter mention) ((tiennent_cons traite.connues).mp tiennent).2
            have stays : ∀ email, Connue tenant milieu email → Connue tenant apres email := by
              rintro email ⟨salarie, member, itsTenant, itsEmail⟩
              exact ⟨salarie, garde _ member, itsTenant, itsEmail⟩
            refine ⟨mention :: mentions, apres, loop, .cons (traite.concerne.mono garde) concernes,
              fun row member => garde row (traite.garde row member), ?_⟩
            intro ligne member nom email demande
            rcases List.mem_cons.mp member with rfl | later
            · exact stays email ((traite.connues email).mpr (.inr ⟨nom, demande⟩))
            · exact connues ligne later nom email demande
          · exact absurd (tiennent [] _ _ rfl nom email demande unknown
              fun autre member => absurd member List.not_mem_nil) refused

/-- The import stops at a new employee who does not fit. -/
theorem importerLignes_refusees (rapport : RapportImport) {numero : Nat}
    {lues : List (List String)} {site : TrainingSite}
    (refuses : ¬ Tiennent unicode (Connue tenant site) (retenues unicode numero lues)) :
    ∃ apres, importerLignes unicode tenant actor numero lues rapport site =
      (.error (.training .database), apres) := by
  induction lues generalizing numero rapport site with
  | nil =>
      refine absurd ?_ refuses
      intro avant ligne apres split
      simp [retenues] at split
  | cons colonnes suite ih =>
      cases passee : (estVide (cellulesDe colonnes) ||
          estEntete unicode numero (cellulesDe colonnes)) with
      | true =>
          rw [retenues_passee suite passee] at refuses
          rw [importerLignes, importerLigne_passee passee]
          exact ih rapport refuses
      | false =>
          rw [retenues_retenue suite passee] at refuses
          rcases importerLigne_cases tenant actor rapport site passee with
            ⟨mention, milieu, step, traite⟩ | ⟨step, _⟩
          · rw [importerLignes, step]
            rw [tiennent_cons traite.connues, not_and] at refuses
            exact ih (rapport.noter mention) (refuses traite.tient)
          · rw [importerLignes, step]
            exact ⟨site, rfl⟩

/-- Where every address is known the import creates nobody. -/
theorem importerLignes_connues (rapport : RapportImport) {numero : Nat}
    {lues : List (List String)} {site : TrainingSite}
    (connues : ∀ ligne ∈ retenues unicode numero lues, ∀ nom email,
      candidat unicode ligne.2 = some (nom, email) → Connue tenant site email) :
    ∃ second, importerLignes unicode tenant actor numero lues rapport site = (.ok second, site) ∧
      second.crees = rapport.crees := by
  induction lues generalizing numero rapport with
  | nil => exact ⟨rapport, rfl, rfl⟩
  | cons colonnes suite ih =>
      cases passee : (estVide (cellulesDe colonnes) ||
          estEntete unicode numero (cellulesDe colonnes)) with
      | true =>
          rw [retenues_passee suite passee] at connues
          rw [importerLignes, importerLigne_passee passee]
          exact ih rapport connues
      | false =>
          rw [retenues_retenue suite passee] at connues
          have later := fun ligne member => connues ligne (List.mem_cons_of_mem _ member)
          rcases importerLigne_retenue tenant actor rapport site passee with
            ⟨_, raison, step⟩ | ⟨nom, adresse, _, _, demande, _, refused, _⟩
          · rw [importerLignes, step]
            exact ih _ later
          · have known := connues _ List.mem_cons_self _ _ demande
            obtain ⟨message, found⟩ := creerApprenant_connue actor nom known
            rw [importerLignes, refused message found]
            exact ih _ later

end Boucle

/-! ## The report -/

/-- Every line has one mention, and the three lists are the mentions of each kind. -/
def Repartit (unicode : Unicode) (tenant : Nat) (site : TrainingSite)
    (lignes : List (Nat × List String)) (rapport : RapportImport) : Prop :=
  ∃ mentions, List.Forall₂ (Concerne unicode tenant site) lignes mentions ∧
    rapport.crees = (mentions.filterMap fun
      | .cree salarie => some (salarie.id, salarie.fullName)
      | _ => none) ∧
    rapport.dejaPresents = (mentions.filterMap fun
      | .dejaPresent email => some email
      | _ => none) ∧
    rapport.invalides = mentions.filterMap fun
      | .invalide ligne raison => some (ligne, raison)
      | _ => none

theorem foldl_noter (mentions : List Mention) (rapport : RapportImport) :
    mentions.foldl RapportImport.noter rapport =
      { crees := rapport.crees ++ mentions.filterMap fun
          | .cree salarie => some (salarie.id, salarie.fullName)
          | _ => none
        dejaPresents := rapport.dejaPresents ++ mentions.filterMap fun
          | .dejaPresent email => some email
          | _ => none
        invalides := rapport.invalides ++ mentions.filterMap fun
          | .invalide ligne raison => some (ligne, raison)
          | _ => none } := by
  induction mentions generalizing rapport with
  | nil => simp
  | cons mention suite ih =>
      rw [List.foldl_cons, ih]
      cases mention <;>
        simp [RapportImport.noter, RapportImport.cree, RapportImport.dejaPresent,
          RapportImport.invalide]

/-! ## The file -/

/-- The first line of the file holds no separator. -/
def SansColonnes (contenu : String) : Prop :=
  ∀ separateur ∈ separateurs, separateur ∉ premiereLigne (texteDuFichier contenu)

theorem mem_separateurDe (ligne : List Char) : separateurDe ligne ∈ separateurs := by
  simp only [separateurDe, separateurs, List.foldl_cons, List.foldl_nil]
  split_ifs <;> decide

theorem count_le_separateurDe {ligne : List Char} {separateur : Char}
    (member : separateur ∈ separateurs) :
    ligne.count separateur ≤ ligne.count (separateurDe ligne) := by
  simp only [separateurDe, separateurs, List.foldl_cons, List.foldl_nil, List.mem_cons,
    List.not_mem_nil, or_false] at member ⊢
  rcases member with rfl | rfl | rfl <;> split_ifs <;> omega

theorem count_separateurDe (ligne : List Char) :
    ligne.count (separateurDe ligne) = 0 ↔ ∀ separateur ∈ separateurs, separateur ∉ ligne := by
  constructor
  · intro none separateur member
    exact List.count_eq_zero.mp (Nat.le_zero.mp (none ▸ count_le_separateurDe member))
  · intro absent
    exact List.count_eq_zero.mpr (absent _ (mem_separateurDe ligne))

/-- What `csv.reader` reads of the file. -/
def Lit (contenu : String) (lues : List (List String)) : Prop :=
  Csv.read (separateurDe (premiereLigne (texteDuFichier contenu))) (texteDuFichier contenu) =
    .ok lues

/-- A file whose line ends all have a line feed is read, up to the limit of a field. -/
theorem exists_lit {contenu : String} (noReturn : '\r' ∉ (texteDuFichier contenu).toList)
    (short : (texteDuFichier contenu).length ≤ Csv.fieldLimit) : ∃ lues, Lit contenu lues :=
  Csv.exists_read noReturn short

theorem lignes_sansColonnes {contenu : String} (sans : SansColonnes contenu) :
    ∃ message, lignes contenu = .error (.importRefuse message) := by
  have none := (count_separateurDe _).mpr sans
  by_cases vide : texteDuFichier contenu = ""
  · refine ⟨"Le fichier est vide.", ?_⟩
    simp only [lignes, if_pos vide]
  · refine ⟨"Aucune colonne détectée. Attendu : un nom et une adresse par ligne, " ++
      "séparés par un point-virgule.", ?_⟩
    simp only [lignes, if_neg vide, if_pos none]

theorem lignes_colonnes {contenu : String} (avec : ¬ SansColonnes contenu) :
    lignes contenu = (Csv.read (separateurDe (premiereLigne (texteDuFichier contenu)))
      (texteDuFichier contenu)).mapError .csv := by
  have filled : texteDuFichier contenu ≠ "" := by
    intro vide
    refine avec fun separateur _ => ?_
    rw [vide]
    exact List.not_mem_nil
  have counted : (premiereLigne (texteDuFichier contenu)).count
      (separateurDe (premiereLigne (texteDuFichier contenu))) ≠ 0 :=
    fun none => avec ((count_separateurDe _).mp none)
  simp only [lignes, if_neg filled, if_neg counted]

theorem lignes_eq_ok {contenu : String} (avec : ¬ SansColonnes contenu)
    {lues : List (List String)} : lignes contenu = .ok lues ↔ Lit contenu lues := by
  rw [lignes_colonnes avec, Lit]
  cases Csv.read (separateurDe (premiereLigne (texteDuFichier contenu)))
    (texteDuFichier contenu) <;> simp [Except.mapError]

/-! ## The import -/

/-- The import refuses the file before it writes anything, or it gives every line that
counts its place in the report, and the same file creates nobody the second time. -/
def ImporteTout (unicode : Unicode) (tenant : Nat) (contenu : String) (actor : Option Nat)
    (site : TrainingSite) : Prop :=
  (∃ message, importerDesSalaries unicode tenant contenu actor site =
    (.error (.importRefuse message), site)) ∨
  ∃ rapport apres lues, importerDesSalaries unicode tenant contenu actor site =
      (.ok rapport, apres) ∧ lignes contenu = .ok lues ∧
    Repartit unicode tenant apres (retenues unicode 1 lues) rapport ∧
    ∃ second, importerDesSalaries unicode tenant contenu actor apres = (.ok second, apres) ∧
      second.crees = []

/-- The first line holds no separator, or `csv.reader` reads the file and every new
employee it asks for has texts that the database stores. -/
def Importable (unicode : Unicode) (tenant : Nat) (contenu : String) (site : TrainingSite) :
    Prop :=
  SansColonnes contenu ∨ ∃ lues, Lit contenu lues ∧
    Tiennent unicode (Connue tenant site) (retenues unicode 1 lues)

/-- An import refuses the file or goes through it exactly when the file is importable. -/
theorem importeTout_iff (unicode : Unicode) (tenant : Nat) (contenu : String) (actor : Option Nat)
    (site : TrainingSite) :
    ImporteTout unicode tenant contenu actor site ↔ Importable unicode tenant contenu site := by
  by_cases sans : SansColonnes contenu
  · obtain ⟨message, refused⟩ := lignes_sansColonnes sans
    refine iff_of_true (.inl ⟨message, ?_⟩) (.inl sans)
    rw [importerDesSalaries, refused]
  constructor
  · rintro (⟨message, refused⟩ | ⟨rapport, apres, lues, returned, read, _⟩)
    · exfalso
      cases read : lignes contenu with
      | error failure =>
          rw [importerDesSalaries, read] at refused
          obtain ⟨same, _⟩ := Prod.mk.inj refused
          rw [lignes_colonnes sans, Except.error.inj same] at read
          cases csv : Csv.read (separateurDe (premiereLigne (texteDuFichier contenu)))
            (texteDuFichier contenu) with
          | error raison => rw [csv] at read; cases read
          | ok lues => rw [csv] at read; cases read
      | ok lues =>
          rw [importerDesSalaries, read] at refused
          by_cases tiennent : Tiennent unicode (Connue tenant site) (retenues unicode 1 lues)
          · obtain ⟨mentions, apres, loop, _⟩ := importerLignes_tiennent actor .vide tiennent
            cases loop.symm.trans refused
          · obtain ⟨apres, stopped⟩ := importerLignes_refusees actor .vide tiennent
            cases stopped.symm.trans refused
    · refine .inr ⟨lues, (lignes_eq_ok sans).mp read, ?_⟩
      by_contra refuses
      obtain ⟨milieu, stopped⟩ := importerLignes_refusees actor .vide refuses
      rw [importerDesSalaries, read] at returned
      cases stopped.symm.trans returned
  · rintro (colonnes | ⟨lues, lit, tiennent⟩)
    · exact absurd colonnes sans
    · obtain ⟨mentions, apres, loop, concernes, _, connues⟩ :=
        importerLignes_tiennent actor .vide tiennent
      obtain ⟨second, again, none⟩ :=
        importerLignes_connues actor .vide connues
      have read := (lignes_eq_ok sans).mpr lit
      refine .inr ⟨mentions.foldl RapportImport.noter .vide, apres, lues, ?_, read,
        ⟨mentions, concernes, ?_, ?_, ?_⟩, second, ?_, none⟩
      · rw [importerDesSalaries, read]
        exact loop
      · rw [foldl_noter]; rfl
      · rw [foldl_noter]; rfl
      · rw [foldl_noter]; rfl
      · rw [importerDesSalaries, read]
        exact again

/-! ## A file that stops the import -/

def asciiTables : Unicode where
  lower := id
  nfkc := id
  printable := fun _ => true

/-- A name that the column does not hold. -/
def longName : List Char := List.replicate 151 'a'

def longNameAddress : List Char := ['a', '@', 'b', '.', 'f', 'r']

def longNameFile : String := String.ofList (longName ++ ';' :: longNameAddress)

/-- Two lines that a carriage return separates. -/
def returnFile : String := "Alex Dubois;alex@exemple.fr\rCamille Martin;camille@exemple.fr"

theorem longNameFile_toList : longNameFile.toList = longName ++ ';' :: longNameAddress :=
  String.toList_ofList

theorem premiereLigne_longName :
    texteDuFichier longNameFile = longNameFile ∧
      premiereLigne longNameFile = longName ++ ';' :: longNameAddress := by
  have same : replaceAll ['\r', '\n'] ['\n'] (longName ++ ';' :: longNameAddress) =
      longName ++ ';' :: longNameAddress := by decide +kernel
  constructor
  · rw [texteDuFichier, longNameFile_toList, same]
    exact strip_ofList (by decide +kernel)
  · rw [premiereLigne, longNameFile_toList]
    decide +kernel

theorem lit_longName :
    Lit longNameFile [[String.ofList longName, String.ofList longNameAddress]] := by
  have separateur : separateurDe (longName ++ ';' :: longNameAddress) = ';' := by decide +kernel
  rw [Lit, premiereLigne_longName.1, premiereLigne_longName.2, separateur, Csv.read,
    longNameFile_toList]
  decide +kernel

theorem retenues_longName :
    retenues asciiTables 1 [[String.ofList longName, String.ofList longNameAddress]] =
      [(1, [String.ofList longName, String.ofList longNameAddress])] := by
  have cells : cellulesDe [String.ofList longName, String.ofList longNameAddress] =
      [String.ofList longName, String.ofList longNameAddress] := by
    rw [cellulesDe, List.map_cons, List.map_singleton, strip_ofList (by decide +kernel),
      strip_ofList (by decide +kernel)]
  have retenue : (estVide [String.ofList longName, String.ofList longNameAddress] ||
      estEntete asciiTables 1 [String.ofList longName, String.ofList longNameAddress]) = false := by
    decide +kernel
  rw [retenues, cells, retenue]
  rfl

theorem candidat_longName :
    candidat asciiTables [String.ofList longName, String.ofList longNameAddress] =
      some (String.ofList longName, String.ofList longNameAddress) := by
  have asks :
      (estAdresse (String.ofList longNameAddress) && String.ofList longName ≠ "") = true := by
    decide +kernel
  show (if estAdresse (String.ofList longNameAddress) && String.ofList longName ≠ "" then
    some (strip (String.ofList longName), strip (String.ofList longNameAddress)) else none) = _
  rw [if_pos asks, strip_ofList (by decide +kernel), strip_ofList (by decide +kernel)]

/-- A name that is too long stops the import at its line, and a carriage return alone
stops it before the first line. -/
theorem importeTout_stopped :
    ¬ ImporteTout asciiTables 1 longNameFile none companySite ∧
      ¬ ImporteTout asciiTables 1 returnFile none companySite := by
  constructor
  · have avec : ¬ SansColonnes longNameFile := by
      intro sans
      have absent := sans ';' (by decide)
      rw [premiereLigne_longName.1, premiereLigne_longName.2] at absent
      exact absent (by decide +kernel)
    have refuses : ¬ Tiennent asciiTables (Connue 1 companySite)
        (retenues asciiTables 1 [[String.ofList longName, String.ofList longNameAddress]]) := by
      rw [retenues_longName]
      intro tiennent
      have fits := tiennent [] _ [] rfl _ _ candidat_longName ?_
        fun autre member => absurd member List.not_mem_nil
      · have short := fits.1
        rw [storable, String.length_ofList] at short
        revert short
        decide +kernel
      · rw [← apprenant?_eq_none]
        decide +kernel
    have read := (lignes_eq_ok avec).mpr lit_longName
    obtain ⟨milieu, stopped⟩ := importerLignes_refusees none .vide refuses
    rintro (⟨message, refused⟩ | ⟨rapport, apres, lues, done, _⟩)
    · rw [importerDesSalaries, read] at refused
      cases stopped.symm.trans refused
    · rw [importerDesSalaries, read] at done
      cases stopped.symm.trans done
  · have returned : (importerDesSalaries asciiTables 1 returnFile none companySite).1 =
        .error (.csv ("new-line character seen in unquoted field - do you need to open the file " ++
          "with newline=''?")) := by decide +kernel
    rintro (⟨message, refused⟩ | ⟨rapport, apres, lues, done, _⟩)
    · rw [refused] at returned
      cases returned
    · rw [done] at returned
      cases returned

end RssiService.Training
