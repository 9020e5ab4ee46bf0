import RssiService.Foundation.Outcome
import RssiService.Python.Integers
import RssiService.Python.TrueDivision
import RssiService.ThreatIntelligence.Findings

/-!
# The details of a finding

The fields of the stored payload that are shown, from a white list for each endpoint, each
with a label and what it implies.
-/

namespace RssiService.ThreatIntelligence

open Foundation Python

/-! ## Formats -/

def moisFr : List String :=
  ["janvier", "février", "mars", "avril", "mai", "juin", "juillet", "août", "septembre",
    "octobre", "novembre", "décembre"]

/-- A date with its month in letters; any other text is itself. -/
def formaterDate (unicode : Unicode) (valeur : Json) : String :=
  let text := valeur.toStr unicode
  match Date.fromIsoFormat? (text.toList.take 10) with
  | none => text
  | some date =>
      let month := monthOf date.ordinal
      let day := date.ordinal - firstOfMonth month + 1
      let name := moisFr.getD (month % 12) ""
      s!"{day} {name} {month / 12 + 1}"

/-- The units of a size, and the power of two that each stands for. -/
def unites : List (Nat × String) := [(30, "Go"), (20, "Mo"), (10, "ko")]

/-- A number of bytes in the greatest unit it reaches; a value that is no number prints as it
is.  `none` is the `OverflowError` of the division, which is not caught. -/
def formaterTaille (unicode : Unicode) (valeur : Json) : Option String :=
  match valeur.toInt? with
  | none => some (valeur.toStr unicode)
  | some octets =>
      match unites.find? fun unite => 2 ^ unite.1 ≤ octets with
      | none => some s!"{octets} octets"
      | some (shift, unite) =>
          (trueQuotient octets.toNat shift).map fun quotient =>
            oneDecimal quotient shift ++ " " ++ unite

def formaterDechiffre (unicode : Unicode) (valeur : Json) : String :=
  if ["1", "True", "true"].contains (valeur.toStr unicode) then "oui, il circule en clair"
  else "non, chiffré"

def formaterTexte (unicode : Unicode) (valeur : Json) : String := strip (valeur.toStr unicode)

/-- The types of file that have a name. -/
def typesDeFichier : List (String × String) :=
  [("application/pdf", "Document PDF"),
    ("application/msword", "Document Word"),
    ("application/vnd.openxmlformats-officedocument.wordprocessingml.document", "Document Word"),
    ("application/vnd.ms-excel", "Tableur Excel"),
    ("application/vnd.openxmlformats-officedocument.spreadsheetml.sheet", "Tableur Excel"),
    ("application/vnd.ms-powerpoint", "Présentation PowerPoint"),
    ("application/vnd.openxmlformats-officedocument.presentationml.presentation",
      "Présentation PowerPoint"),
    ("text/csv", "Fichier de données (CSV)"),
    ("text/plain", "Fichier texte"),
    ("application/zip", "Archive compressée"),
    ("application/x-rar-compressed", "Archive compressée"),
    ("application/json", "Fichier de données"),
    ("application/sql", "Export de base de données")]

def formaterTypeDeFichier (unicode : Unicode) (valeur : Json) : String :=
  (typesDeFichier.lookup (unicode.lower (strip (valeur.toStr unicode)))).getD
    "Type de fichier non identifié"

inductive Formatter where
  | texte
  | date
  | taille
  | dechiffre
  | typeDeFichier
  deriving DecidableEq, Repr

def Formatter.format (unicode : Unicode) (valeur : Json) : Formatter → Option String
  | .texte => some (formaterTexte unicode valeur)
  | .date => some (formaterDate unicode valeur)
  | .taille => formaterTaille unicode valeur
  | .dechiffre => some (formaterDechiffre unicode valeur)
  | .typeDeFichier => some (formaterTypeDeFichier unicode valeur)

/-! ## Implications -/

/-- What the known families do. -/
def glossaireMalveillants : List (String × String) :=
  [("raccoon",
      "un logiciel qui recopie les mots de passe enregistrés dans le navigateur, ainsi que " ++
      "les cookies de connexion et les fichiers de portefeuilles de cryptomonnaie."),
    ("redline",
      "un logiciel qui recopie les mots de passe enregistrés dans le navigateur, les cookies " ++
      "de connexion et les informations de carte bancaire mémorisées."),
    ("vidar",
      "un logiciel qui recopie les mots de passe du navigateur et prend des captures de " ++
      "l'écran du poste infecté."),
    ("lumma",
      "un logiciel qui recopie les mots de passe du navigateur et les jetons de connexion, y " ++
      "compris ceux qui permettent d'entrer sans mot de passe."),
    ("stealc",
      "un logiciel qui recopie les mots de passe et les cookies de connexion enregistrés sur " ++
      "le poste."),
    ("meta",
      "un logiciel qui recopie les mots de passe enregistrés dans le navigateur et les " ++
      "données de connexion des applications installées."),
    ("azorult",
      "un logiciel qui recopie les mots de passe, l'historique de navigation et les fichiers " ++
      "de portefeuilles de cryptomonnaie."),
    ("rhadamanthys",
      "un logiciel qui recopie les mots de passe, les cookies de connexion et les documents " ++
      "du poste infecté.")]

def implicationMalveillantInconnue : String :=
  "un logiciel installé à l'insu de l'utilisateur, qui recopie ce que le poste a mémorisé : " ++
  "mots de passe du navigateur, cookies de connexion, parfois documents."

/-- What a stealer does, from its name. -/
def implicationMalveillant (unicode : Unicode) (valeur : Json) : String :=
  let nom := unicode.lower (valeur.toStr unicode)
  let famille := glossaireMalveillants.find? fun famille => contains nom famille.1
  "C'est " ++ (famille.map Prod.snd).getD implicationMalveillantInconnue

inductive Implication where
  | fixed (text : String)
  | malveillant
  deriving DecidableEq, Repr

def Implication.pour (unicode : Unicode) (valeur : Json) : Implication → String
  | .fixed text => text
  | .malveillant => implicationMalveillant unicode valeur

/-! ## The white lists -/

structure DetailField where
  key : String
  label : String
  implication : Implication
  formatter : Formatter := .texte
  deriving DecidableEq, Repr

def srcIdentifiant : DetailField where
  key := "src"
  label := "Identifiant enregistré sur"
  implication := .fixed
    ("C'est le service sur lequel cet identifiant était utilisé. Si le même mot de passe " ++
     "sert ailleurs, ces autres comptes sont exposés de la même façon.")

def malveillant : DetailField where
  key := "mal"
  label := "Logiciel malveillant identifié"
  implication := .malveillant

def systeme : DetailField where
  key := "os"
  label := "Poste infecté"
  implication := .fixed
    ("Le système du poste depuis lequel les données ont été recopiées. Ce poste doit être " ++
     "nettoyé avant d'être réutilisé pour des accès sensibles : sinon les nouveaux mots de " ++
     "passe repartiront de la même façon.")

def fichierCollecte : DetailField where
  key := "fle"
  label := "Fichier de collecte"
  implication := .fixed
    ("Le fichier dans lequel l'attaquant a regroupé ce qu'il a volé. Deux fuites portant le " ++
     "même nom de fichier viennent du même vol : c'est ce qui permet de savoir si un seul " ++
     "poste est en cause, ou plusieurs.")

def dateDecouverte : DetailField where
  key := "fnd"
  label := "Détecté le"
  implication := .fixed
    ("La date à laquelle la donnée a été repérée en circulation. Elle est postérieure au vol " ++
     "lui-même, parfois de plusieurs mois.")
  formatter := .date

def dateInfection : DetailField where
  key := "inf"
  label := "Poste infecté le"
  implication := .fixed
    ("La date de l'infection. Tout mot de passe saisi sur ce poste depuis cette date doit " ++
     "être considéré comme connu de l'attaquant.")
  formatter := .date

def identifiantMachine : DetailField where
  key := "hid"
  label := "Identifiant du poste"
  implication := .fixed
    ("Un repère technique du poste infecté. Plusieurs fuites portant le même repère viennent " ++
     "d'une seule machine : une seule à traiter, et non plusieurs.")

/-- The white list of an endpoint, in the order of the page. -/
def detailsParEndpoint : SourceEndpoint → List DetailField
  | .stealer =>
      [srcIdentifiant,
        malveillant,
        systeme,
        ⟨"nme", "Nom du poste", .fixed
          ("Le nom que porte l'ordinateur sur le réseau. Il suffit souvent à retrouver de " ++
           "quelle machine il s'agit dans l'entreprise."), .texte⟩,
        fichierCollecte,
        identifiantMachine,
        ⟨"bid", "Identifiant de l'infection", .fixed
          ("Un repère de la campagne d'infection. Utile à votre prestataire pour rapprocher " ++
           "plusieurs postes touchés en même temps."), .texte⟩,
        dateInfection,
        dateDecouverte]
  | .combo =>
      [srcIdentifiant,
        fichierCollecte,
        ⟨"cnt", "Nombre de listes où ce couple circule", .fixed
          ("Plus ce nombre est élevé, plus le couple identifiant/mot de passe a été recopié " ++
           "et testé. Il ne s'agit plus d'un risque théorique."), .texte⟩,
        dateDecouverte]
  | .creds =>
      [srcIdentifiant,
        ⟨"hash", "Mot de passe lisible par l'attaquant", .fixed
          ("Un mot de passe qui circule en clair est utilisable immédiatement, sans aucun " ++
           "travail préalable. Chiffré, il demande un effort — souvent court."), .dechiffre⟩,
        dateDecouverte]
  | .sessions =>
      [⟨"dom", "Service concerné", .fixed
          ("Le site sur lequel ce jeton de connexion ouvre une session. C'est là qu'il faut " ++
           "déconnecter toutes les sessions actives."), .texte⟩,
        ⟨"cookie_name", "Jeton concerné", .fixed
          ("Le nom du jeton de connexion volé. Votre prestataire s'en sert pour confirmer de " ++
           "quel type d'accès il s'agit."), .texte⟩,
        ⟨"expires", "Jeton valable jusqu'au", .fixed
          ("Tant que cette date n'est pas passée, le jeton ouvre le compte sans mot de passe " ++
           "ni code de double authentification. Se déconnecter partout l'invalide " ++
           "immédiatement, sans attendre cette date."), .date⟩,
        malveillant,
        dateInfection,
        dateDecouverte]
  | .nhi =>
      [⟨"platform", "Service concerné", .fixed
          ("Le service auquel cette clé technique donne accès. C'est là qu'il " ++
           "faut la révoquer."), .texte⟩,
        ⟨"source_type", "Trouvée dans", .fixed
          ("L'endroit où la clé a été retrouvée. Une clé publiée par erreur dans du code " ++
           "partagé reste lisible même après correction, dans l'historique."), .texte⟩,
        ⟨"prefix", "Début de la clé", .fixed
          ("Les premiers caractères de la clé, sans le reste. Ils suffisent à l'identifier " ++
           "parmi vos clés actives, sans jamais l'exposer."), .texte⟩,
        ⟨"src", "Origine de la fuite", .fixed
          ("D'où provient cette clé. Une clé récupérée sur un poste infecté implique que ce " ++
           "poste soit nettoyé, en plus de la révocation de la clé."), .texte⟩,
        dateDecouverte]
  | .darkweb =>
      [⟨"name", "Organisation nommée", .fixed
          ("L'entreprise citée dans la publication. Si c'est la vôtre, elle est " ++
           "explicitement désignée, et non simplement mentionnée au passage."), .texte⟩,
        ⟨"data", "Élément cité", .fixed
          ("La donnée de votre entreprise qui apparaît dans la publication. Elle indique ce " ++
           "que l'auteur prétend détenir — et donc par où vérifier."), .texte⟩,
        ⟨"site", "Publié sur", .fixed
          ("L'espace où la publication a été faite. Les sites de rançongiciel y annoncent " ++
           "leurs victimes avant de publier les fichiers."), .texte⟩,
        ⟨"tadesc", "Auteur de la publication", .fixed
          ("Ce que l'on sait du groupe à l'origine de la publication. Cela aide à estimer " ++
           "s'il s'agit d'une menace organisée ou d'un opportuniste."), .texte⟩,
        ⟨"desc", "Description", .fixed
          ("Le texte de la publication, tel qu'il a été relevé. Sa formulation dit souvent " ++
           "s'il s'agit d'une revente, d'une revendication ou " ++
           "d'une simple vantardise."), .texte⟩,
        ⟨"found", "Repéré le", .fixed
          ("La date à laquelle la publication a été relevée. Une mention récente appelle une " ++
           "vérification plus rapide qu'une mention ancienne restée sans suite."), .date⟩]
  | .radar =>
      [⟨"data", "Élément mentionné", .fixed
          ("L'élément de votre entreprise repéré publiquement. C'est ce qu'un attaquant peut " ++
           "lire sans rien forcer, et donc son point de départ."), .texte⟩,
        ⟨"src", "Repéré sur", .fixed
          ("L'espace public où la mention a été relevée. Un forum spécialisé et un réseau " ++
           "social grand public n'appellent pas la même attention."), .texte⟩,
        ⟨"found", "Repéré le", .fixed
          ("La date à laquelle la mention a été relevée. Plusieurs mentions rapprochées dans " ++
           "le temps valent mieux qu'une seule, isolée."), .date⟩]
  | .docs =>
      [⟨"file_name", "Nom du document", .fixed
          ("Le nom du fichier tel qu'il circule. Il suffit souvent à reconnaître de quel " ++
           "document interne il s'agit."), .texte⟩,
        ⟨"content_type", "Type de document", .fixed
          ("La nature du fichier. Un tableur ou une base exportée contient généralement bien " ++
           "plus de données personnelles qu'un document isolé."), .typeDeFichier⟩,
        ⟨"file_size", "Taille", .fixed
          ("Un ordre de grandeur de ce qui a fuité. Plusieurs mégaoctets de tableur " ++
           "représentent des milliers de lignes."), .taille⟩,
        ⟨"company_name", "Organisation concernée", .fixed
          ("L'entreprise à laquelle ce document a été rattaché. Si ce n'est pas la vôtre, le " ++
           "document peut vous concerner en tant que client ou fournisseur de celle qui est " ++
           "nommée."), .texte⟩,
        ⟨"domain_name", "Domaine concerné", .fixed
          ("Le domaine de votre entreprise retrouvé dans le document. C'est ce qui établit " ++
           "le lien avec vous."), .texte⟩,
        ⟨"threat_actor", "Publié par", .fixed
          ("Le groupe qui a mis le document en circulation. Un groupe de rançongiciel publie " ++
           "généralement par lots, après un refus de paiement."), .texte⟩,
        ⟨"leak_date", "Publié le", .fixed
          ("La date de mise en circulation. Au-delà de 72 heures après votre prise de " ++
           "connaissance, le délai de notification à la CNIL est dépassé."), .date⟩,
        ⟨"extraction_timestamp", "Relevé le", .fixed
          ("La date à laquelle la surveillance a relevé ce document. C'est celle à partir de " ++
           "laquelle vous en avez connaissance — donc celle qui fait " ++
           "courir vos obligations."), .date⟩]
  | .asm =>
      [⟨"dom", "Adresse concernée", .fixed
          ("L'adresse internet inventoriée. Une adresse oubliée, qui ne sert plus mais reste " ++
           "accessible, est le service le moins susceptible d'être tenu à jour — donc le " ++
           "plus intéressant pour un attaquant."), .texte⟩,
        ⟨"cname", "Pointe vers", .fixed
          ("La destination réelle de cette adresse. Une adresse proche de la vôtre qui " ++
           "pointe ailleurs est un signe de préparation d'usurpation."), .texte⟩,
        ⟨"found", "Repéré le", .fixed
          ("La date à laquelle cet élément a été inventorié. Une apparition récente signale " ++
           "un changement de votre exposition, pas un état ancien."), .date⟩]
  | .webhook => []

structure FindingDetail where
  label : String
  value : String
  implication : String
  deriving DecidableEq, Repr

/-- `valeur in (None, "", "—", [])`. -/
def isMissing : Json → Bool
  | .null => true
  | .str text => text = "" || text = "—"
  | .arr items => items.isEmpty
  | _ => false

/-- The details of a finding; a missing field is left out. -/
def detailsFor (unicode : Unicode) (finding : BreachFinding) : Option (List FindingDetail) :=
  let champs := (detailsParEndpoint finding.sourceEndpoint).filter fun champ =>
    !isMissing (finding.rawData.get champ.key)
  champs.mapM fun champ =>
    let valeur := finding.rawData.get champ.key
    (champ.formatter.format unicode valeur).map fun value =>
      { label := champ.label, value, implication := champ.implication.pour unicode valeur }

/-! ## When the details are there -/

section Details

variable {unicode : Unicode} {finding : BreachFinding} {valeur : Json}

/-- The first size whose number of gigabytes is out of the range of a float. -/
def maxOctets : Nat := 2 ^ (1024 + 30) - 2 ^ (970 + 30)

/-- The size of a document is missing, no number, or in range. -/
def SizeShown (valeur : Json) : Prop :=
  ∀ octets, valeur.toInt? = some octets → octets.toNat < maxOctets

theorem formaterTaille_ne_none_iff : formaterTaille unicode valeur ≠ none ↔ SizeShown valeur := by
  rw [formaterTaille, SizeShown]
  cases valeur.toInt? with
  | none => exact iff_of_true (by rintro ⟨⟩) (by rintro _ ⟨⟩)
  | some octets =>
      simp only [Option.some.injEq, forall_eq']
      by_cases giga : 2 ^ 30 ≤ octets
      · have found : unites.find? (fun unite => 2 ^ unite.1 ≤ octets) = some (30, "Go") :=
          List.find?_cons_of_pos (decide_eq_true giga)
        simp only [found]
        rw [ne_eq, Option.map_eq_none_iff, maxOctets]
        exact trueQuotient_ne_none_iff octets.toNat 30
      · have below : octets.toNat < 2 ^ 30 := by omega
        have small (shift : Nat) : octets.toNat < 2 ^ (970 + shift) :=
          below.trans_le (Nat.pow_le_pow_right (by decide) (by omega))
        have inRange : octets.toNat < maxOctets := by
          rw [maxOctets]
          exact (trueQuotient_ne_none_iff octets.toNat 30).mp (trueQuotient_ne_none (small 30))
        refine iff_of_true ?_ inRange
        cases unites.find? fun unite => 2 ^ unite.1 ≤ octets with
        | none => exact fun absent => by cases absent
        | some unite =>
            rw [ne_eq, Option.map_eq_none_iff]
            exact trueQuotient_ne_none (small unite.1)

/-- A missing size is no number. -/
theorem sizeShown_of_isMissing (missing : isMissing valeur = true) : SizeShown valeur := by
  have unread : valeur.toInt? = none := by
    cases valeur with
    | str text =>
        rcases Bool.or_eq_true_iff.mp missing with empty | dash
        · rw [of_decide_eq_true empty]
          decide
        · rw [of_decide_eq_true dash]
          decide
    | null | arr _ | obj _ => rfl
    | bool _ | int _ | float _ => cases missing
  intro octets read
  cases unread.symm.trans read

/-- Only the size of a document has a format that can raise. -/
theorem formatter_eq_taille (endpoint : SourceEndpoint) :
    ∀ champ ∈ detailsParEndpoint endpoint, champ.formatter = .taille →
      endpoint = .docs ∧ champ.key = "file_size" := by
  cases endpoint <;> decide

theorem format_ne_none {formatter : Formatter} (other : formatter ≠ .taille) :
    formatter.format unicode valeur ≠ none := by
  cases formatter with
  | taille => exact absurd rfl other
  | texte | date | dechiffre | typeDeFichier => exact fun absent => by cases absent

theorem file_size_listed :
    ∃ champ ∈ detailsParEndpoint .docs, champ.key = "file_size" ∧ champ.formatter = .taille := by
  decide

theorem detailsFor_ne_none_iff :
    detailsFor unicode finding ≠ none ↔
      (finding.sourceEndpoint = .docs → SizeShown (finding.rawData.get "file_size")) := by
  simp only [detailsFor, Outcome.mapM_ne_none_iff, List.mem_filter, ne_eq,
    Option.map_eq_none_iff]
  constructor
  · intro shown document
    obtain ⟨champ, listed, key, size⟩ := file_size_listed
    rw [← document] at listed
    rw [← key]
    cases missing : isMissing (finding.rawData.get champ.key) with
    | true => exact sizeShown_of_isMissing missing
    | false =>
        have formats := shown champ ⟨listed, by rw [missing, Bool.not_false]⟩
        rw [size] at formats
        exact formaterTaille_ne_none_iff.mp formats
  · rintro readable champ ⟨listed, _⟩
    by_cases size : champ.formatter = .taille
    · obtain ⟨document, key⟩ := formatter_eq_taille _ champ listed size
      rw [size, key]
      exact formaterTaille_ne_none_iff.mpr (readable document)
    · exact format_ne_none size

end Details

end RssiService.ThreatIntelligence
