import RssiService.Billing.Entitlements
import RssiService.Foundation.Template
import RssiService.Python.Json

/-!
# The blocks of a screen

The content of a screen is a list of typed blocks that is validated when it is
written.  Its texts may cite variables of a register; what a client reads has
the values of the client in their place, or the fallback text of the block.
-/

namespace RssiService.Training.Blocks

open Foundation.Replacement Foundation.Template Python

/-- What ends the validation or the rendering of a content. -/
inductive Erreur where
  | blocInvalide (problemes : List String)
  | typeError (message : String)
  | attributeError (message : String)
  deriving DecidableEq, Repr

/-! ## Values -/

/-- `type(value).__name__`. -/
def typeName : Json → String
  | .null => "NoneType"
  | .bool _ => "bool"
  | .int _ => "int"
  | .float _ => "float"
  | .str _ => "str"
  | .arr _ => "list"
  | .obj _ => "dict"

/-- `value or []`. -/
def orEmpty (value : Json) : Json := if value.isTruthy then value else .arr []

/-- The items a loop over a value goes through: a text gives its characters and
a dictionary its keys. -/
def iterer : Json → Except Erreur (List Json)
  | .arr items => .ok items
  | .str text => .ok (text.toList.map fun symbol => .str (String.singleton symbol))
  | .obj fields => .ok (fields.map fun field => .str field.1)
  | value => .error (.typeError s!"'{typeName value}' object is not iterable")

/-- `key in value`, for a dictionary. -/
def hasKey (value : Json) (key : String) : Bool :=
  match value with
  | .obj fields => (fields.lookup key).isSome
  | _ => false

/-- `value.get(key, default)`, for a dictionary. -/
def getOr (value : Json) (key : String) (default : Json) : Json :=
  if hasKey value key then value.get key else default

def setField (key : String) (value : Json) : List (String × Json) → List (String × Json)
  | [] => [(key, value)]
  | field :: rest =>
      if field.1 = key then (key, value) :: rest else field :: setField key value rest

/-- `value[key] = new`: a key that is there keeps its place. -/
def setKey (value : Json) (key : String) (new : Json) : Json :=
  match value with
  | .obj fields => .obj (setField key new fields)
  | other => other

/-- `texte.count(part)`. -/
def compte (texte part : String) : Nat := occurrences part.toList texte.toList

/-- `texte.replace(ancien, nouveau)`. -/
def remplacer (texte ancien nouveau : String) : String :=
  String.ofList (replaceAll ancien.toList nouveau.toList texte.toList)

/-! ## The register of variables -/

/-- A variable of the register; a count of accounts or persons is not told when
it is small. -/
structure Variable where
  cle : String
  estUnDecompte : Bool
  feature : String
  deriving DecidableEq, Repr

def seuilDiscretion : Int := 3

def registre : List Variable :=
  [⟨"fuites_ouvertes", true, ""⟩,
    ⟨"fuites_critiques", true, ""⟩,
    ⟨"score_exposition", false, ""⟩,
    ⟨"score_maturite", false, ""⟩,
    ⟨"actifs_surveilles", false, Billing.realtimeMonitoring⟩]

def clesConnues : List String := registre.map Variable.cle

/-- What the register asks of a client: the keys of its plan, and for every
variable its figure, nothing, or the failure of the computation. -/
structure Client where
  hasFeature : String → Bool
  resoudre : String → Except String (Option Int)

structure ValeurIndisponible where
  message : String
  deriving DecidableEq, Repr

/-- The value of a variable for a client. -/
def Client.valeur (client : Client) (cle : String) : Except ValeurIndisponible Int :=
  match registre.find? fun entree => entree.cle = cle with
  | none => .error ⟨s!"Variable inconnue : {cle}"⟩
  | some entree =>
      if entree.feature ≠ "" ∧ client.hasFeature entree.feature = false then
        .error ⟨s!"Hors de l'offre du client : {cle}"⟩
      else
        match client.resoudre cle with
        | .error panne => .error ⟨s!"Calcul impossible pour {cle} : {panne}"⟩
        | .ok none => .error ⟨s!"Aucune donnée pour {cle}"⟩
        | .ok (some brute) =>
            if brute ≤ 0 then .error ⟨s!"Aucune donnée pour {cle}"⟩
            else if entree.estUnDecompte ∧ brute < seuilDiscretion then
              .error ⟨s!"Sous le seuil de discrétion pour {cle}"⟩
            else .ok brute

/-! ## Validation -/

def paragraphe : String := "paragraphe"
def titre : String := "titre"
def liste : String := "liste"
def encadre : String := "encadre"
def image : String := "image"
def citation : String := "citation"

def types : List String := [paragraphe, titre, liste, encadre, image, citation]

def tonsEncadre : List String := ["info", "attention", "exemple"]

def niveauxTitre : List Int := [3, 4]

def prefixeImage : String := "/formation/"

def longueurMaxTexte : Nat := 4000
def longueurMaxCourte : Nat := 300
def maxItemsListe : Nat := 20

def marqueGras : String := "**"

def isNameStart (symbol : Char) : Bool :=
  ('a' ≤ symbol && symbol ≤ 'z') || ('A' ≤ symbol && symbol ≤ 'Z') || symbol = '_'

def isNameSymbol (symbol : Char) : Bool :=
  isNameStart symbol || ('0' ≤ symbol && symbol ≤ '9')

/-- The pattern of a variable: a name in braces. -/
def motifVariable : Delimiters Char where
  opening := '\x7b'
  closing := '\x7d'
  starts := isNameStart
  continues := isNameSymbol
  opening_ne_closing := by decide
  continues_opening := by decide
  continues_closing := by decide
  continues_of_starts := by
    intro symbol starts
    rw [isNameSymbol, starts, Bool.true_or]

/-- The variables a text cites, in order. -/
def variablesDuTexte (texte : String) : List String :=
  (names motifVariable texte.toList).map String.ofList

/-- A text that is not blank and not too long. -/
def texte (valeur : Json) (champ ou : String) (maximum : Nat) : List String :=
  match valeur with
  | .str texte =>
      if strip texte = "" then [s!"{ou} : « {champ} » ne peut pas être vide."]
      else if maximum < texte.length then [s!"{ou} : « {champ} » dépasse {maximum} caractères."]
      else []
  | _ => [s!"{ou} : « {champ} » doit être du texte."]

def validerTexteRiche (texte champ ou : String) (connues : List String) : List String :=
  (if compte texte marqueGras % 2 ≠ 0 then
    [s!"{ou} : « {champ} » contient une marque de gras non fermée ({marqueGras})."]
  else []) ++
  (variablesDuTexte texte).flatMap fun cle =>
    if cle ∈ connues then []
    else
      let disponibles := textOr (String.intercalate ", " connues.mergeSort) "aucune"
      [s!"{ou} : la variable \x7b" ++ cle ++
        s!"\x7d n'existe pas. Variables disponibles : {disponibles}."]

/-- The field a text stands in; the items count from one. -/
inductive Champ where
  | texte
  | source
  | alternative
  | items (rang : Nat)
  deriving DecidableEq, Repr

def Champ.nom : Champ → String
  | .texte => "texte"
  | .source => "source"
  | .alternative => "alternative"
  | .items rang => s!"items[{rang}]"

def texteDe (champ : Champ) : Json → Option (Champ × String)
  | .str texte => some (champ, texte)
  | _ => none

def textesDesItems (rang : Nat) : List Json → List (Champ × String)
  | [] => []
  | item :: suite => (texteDe (.items rang) item).toList ++ textesDesItems (rang + 1) suite

/-- All the texts of a block with the name of their field, whatever its type. -/
def textesDuBloc (bloc : Json) : Except Erreur (List (Champ × String)) :=
  match bloc with
  | .obj _ => do
      let trouves := [Champ.texte, .source, .alternative].filterMap fun champ =>
        texteDe champ (bloc.get champ.nom)
      let items ← iterer (orEmpty (bloc.get "items"))
      return trouves ++ textesDesItems 1 items
  | _ => .error (.attributeError s!"'{typeName bloc}' object has no attribute 'get'")

/-- `niveau in NIVEAUX_TITRE`: a float of the same value is in. -/
def estNiveauTitre : Json → Bool
  | .int niveau => niveau ∈ niveauxTitre
  | .float niveau => niveauxTitre.any fun attendu => niveau = toString attendu ++ ".0"
  | _ => false

def estDansLesTons : Json → Bool
  | .str ton => ton ∈ tonsEncadre
  | _ => false

def isBool : Json → Bool
  | .bool _ => true
  | _ => false

def problemesDesItems (ou : String) (rang : Nat) : List Json → List String
  | [] => []
  | item :: suite =>
      texte item (Champ.items rang).nom ou longueurMaxTexte ++
        problemesDesItems ou (rang + 1) suite

def problemesDeLaListe (items : Json) (ou : String) : List String :=
  match items with
  | .arr (item :: suite) =>
      if maxItemsListe < (item :: suite).length then
        [s!"{ou} : une liste dépasse {maxItemsListe} entrées."]
      else problemesDesItems ou 1 (item :: suite)
  | _ => [s!"{ou} : « items » doit être une liste non vide."]

def problemesDeLaSource (source : Json) (ou : String) : List String :=
  match source with
  | .str source =>
      if strip source = "" then [s!"{ou} : « source » est obligatoire."]
      else if prefixeImage.toList.isPrefixOf source.toList = false ∨ contains source ".." then
        [s!"{ou} : « source » doit commencer par {prefixeImage} — les images sont livrées avec " ++
          "l'application, jamais chargées depuis un site tiers."]
      else []
  | _ => [s!"{ou} : « source » est obligatoire."]

/-- The checks that belong to the type of a block. -/
def problemesDuType (typeBloc : String) (bloc : Json) (ou : String) : List String :=
  (if typeBloc ∈ [paragraphe, encadre, citation] then
    texte (bloc.get "texte") "texte" ou longueurMaxTexte
  else []) ++
  (if typeBloc = titre then
    texte (bloc.get "texte") "texte" ou longueurMaxCourte ++
      (if estNiveauTitre (bloc.get "niveau") then []
      else
        let attendus := String.intercalate " ou " (niveauxTitre.map toString)
        [s!"{ou} : « niveau » doit valoir {attendus} — le titre de l'écran occupe " ++
          "déjà le niveau 2."])
  else []) ++
  (if typeBloc = encadre ∧ estDansLesTons (bloc.get "ton") = false then
    let tons := String.intercalate ", " tonsEncadre
    [s!"{ou} : « ton » doit valoir l'un de : {tons}."]
  else []) ++
  (if typeBloc = citation ∧ hasKey bloc "source" then
    texte (bloc.get "source") "source" ou longueurMaxCourte
  else []) ++
  (if typeBloc = liste then
    problemesDeLaListe (bloc.get "items") ou ++
      (if hasKey bloc "ordonnee" ∧ isBool (bloc.get "ordonnee") = false then
        [s!"{ou} : « ordonnee » doit être vrai ou faux."]
      else [])
  else []) ++
  (if typeBloc = image then
    problemesDeLaSource (bloc.get "source") ou ++
      texte (bloc.get "alternative") "alternative" ou longueurMaxCourte
  else [])

/-- A block that cites a variable has a fallback text without variables. -/
def problemesDuRepli (bloc : Json) (textes : List (Champ × String)) (ou : String) : List String :=
  if (textes.flatMap fun champ => variablesDuTexte champ.2) = [] then []
  else
    texte (bloc.get "repli") "repli" ou longueurMaxTexte ++
      match bloc.get "repli" with
      | .str repli =>
          if variablesDuTexte repli = [] then []
          else
            [s!"{ou} : « repli » ne peut pas contenir de variable — c'est précisément le texte " ++
              "affiché quand les variables ne sont pas disponibles."]
      | _ => []

/-- `bloc.get("type")`, when it is one of the types. -/
def typeConnu (bloc : Json) : Option String :=
  match bloc.get "type" with
  | .str typeBloc => if typeBloc ∈ types then some typeBloc else none
  | _ => none

def validerBloc (unicode : Unicode) (bloc : Json) (position : Nat) :
    Except Erreur (List String) :=
  match bloc with
  | .obj _ =>
      match typeConnu bloc with
      | none =>
          let typeBloc := (bloc.get "type").toStr unicode
          let connus := String.intercalate ", " types
          .ok [s!"bloc {position} : type « {typeBloc} » inconnu. Types acceptés : {connus}."]
      | some typeBloc => do
          let ou := s!"bloc {position} ({typeBloc})"
          let textes ← textesDuBloc bloc
          return problemesDuType typeBloc bloc ou ++
            (textes.flatMap fun champ => validerTexteRiche champ.2 champ.1.nom ou clesConnues) ++
            problemesDuRepli bloc textes ou
  | _ => .ok [s!"bloc {position} : un bloc doit être un objet."]

/-- The problems of all blocks, one after the other. -/
def validerBlocs (unicode : Unicode) (position : Nat) : List Json → Except Erreur (List String)
  | [] => .ok []
  | bloc :: suite => do
      let problemes ← validerBloc unicode bloc position
      let autres ← validerBlocs unicode (position + 1) suite
      return problemes ++ autres

def valider (unicode : Unicode) (blocs : Json) : Except Erreur Json :=
  match blocs with
  | .arr (bloc :: suite) => do
      let problemes ← validerBlocs unicode 1 (bloc :: suite)
      if problemes = [] then return blocs else throw (.blocInvalide problemes)
  | _ => .error (.blocInvalide ["Un écran doit contenir au moins un bloc."])

/-! ## Rendering -/

/-- The order in which a loop goes through a set of texts. -/
structure SetOrder where
  elements : List String → List String
  perm : ∀ keys, (elements keys).Perm keys.dedup

/-- A text with the values in the place of the variables, one after the other. -/
def rendre (valeurs : List (String × Int)) (texte : String) : String :=
  valeurs.foldl
    (fun rendu entree => remplacer rendu ("\x7b" ++ entree.1 ++ "\x7d") (toString entree.2)) texte

/-- One field of a copy of the block is rendered. -/
def remplacerChamp (valeurs : List (String × Int)) (remplace : Json) (champ : Champ × String) :
    Except Erreur Json :=
  let rendu := Json.str (rendre valeurs champ.2)
  match champ.1 with
  | .items rang => do
      let items ← iterer (orEmpty (remplace.get "items"))
      return setKey remplace "items" (.arr (items.set (rang - 1) rendu))
  | simple => return setKey remplace simple.nom rendu

/-- What a client reads in the place of one block. -/
def contextualiserBloc (ordre : SetOrder) (client : Client) (bloc : Json) :
    Except Erreur Json := do
  let champs ← textesDuBloc bloc
  let cles := ordre.elements (champs.flatMap fun champ => variablesDuTexte champ.2)
  if cles = [] then return bloc
  else
    match cles.mapM fun cle => (client.valeur cle).map fun valeur => (cle, valeur) with
    | .error _ =>
        return .obj [("type", .str paragraphe), ("texte", getOr bloc "repli" (.str ""))]
    | .ok valeurs => champs.foldlM (remplacerChamp valeurs) bloc

def contextualiserBlocs (ordre : SetOrder) (client : Client) :
    List Json → Except Erreur (List Json)
  | [] => .ok []
  | bloc :: suite => do
      let rendu ← contextualiserBloc ordre client bloc
      let autres ← contextualiserBlocs ordre client suite
      return rendu :: autres

def contextualiser (ordre : SetOrder) (client : Client) (blocs : Json) : Except Erreur Json := do
  let elements ← iterer (orEmpty blocs)
  return .arr (← contextualiserBlocs ordre client elements)

end RssiService.Training.Blocks
