import RssiService.Assessments.CatalogueWeights
import RssiService.Python.CsvTables
import RssiService.Python.Objects

/-!
# Reading a referential

A referential comes as JSON, in the generic form or in the inherited one of the
ANSSI, or as a spreadsheet with a measure a line.  The command line stops at the
first problem of a file; the console shows all of them, and writes nothing.
-/

namespace RssiService.Assessments.Importers

open Python

/-! ## Errors -/

/-- What no reader of a file catches. -/
inductive Uncaught where
  | attributeError
  | typeError
  | overflowError
  | recursionError
  | csvError (message : String)
  deriving DecidableEq, Repr

/-- `ReferentialImportError`, the `ValueError` of a conversion, or another exception. -/
inductive Fault where
  | refused (message : String)
  | value (message : String)
  | uncaught (exception : Uncaught)
  deriving DecidableEq, Repr

def Fault.ofRaised : Raised → Fault
  | .valueError message => .value message
  | .attributeError => .uncaught .attributeError
  | .typeError => .uncaught .typeError
  | .overflowError => .uncaught .overflowError

/-- The result of an operation on a value. -/
def raising {Result : Type} (operation : Except Raised Result) : Except Fault Result :=
  operation.mapError .ofRaised

/-- What `json.loads` raises. -/
inductive LoadsFault where
  | decode (message : String)
  | value (message : String)
  | recursion
  deriving DecidableEq, Repr

/-- What `float(value)` raises: a `TypeError` or a `ValueError`, or an `OverflowError`. -/
inductive FloatFault where
  | unreadable
  | overflow
  deriving DecidableEq, Repr

/-- What the platform supplies.  A text that is too large for a float is read as
an infinity. -/
structure Platform where
  unicode : Unicode
  loads : String → Except LoadsFault Json
  float : Json → Except FloatFault Float
  printFloat : Float → String
  float_text : ∀ text, float (.str text) ≠ .error .overflow

/-! ## Parsed data -/

def kindValues : List String := ["open", "licensed", "custom"]

def defaultEffort : String := "medium"

def defaultImpact : String := "medium"

def csvColumns : List String :=
  ["domaine_code", "domaine_nom", "domaine_ordre", "mesure_code", "mesure_numero",
    "intitule_officiel", "enonce_clair", "niveau", "poids", "effort", "impact"]

/-- A measure as it is read; what no reader looks at is the value of the file. -/
structure ParsedMeasure where
  code : String
  officialTitle : String
  plainLanguage : String
  number : Json
  level : Json
  weight : Float
  effort : String
  impact : String
  effortImpactDisclaimer : Bool
  sourceLine : Option Nat

structure ParsedDomain where
  code : String
  name : Json
  order : Int
  description : Json
  measures : List ParsedMeasure

structure ParsedReferential where
  slug : Json
  name : Json
  version : String
  description : Json
  publisher : Json
  kind : Json
  sourceUrl : Json
  licenceNotice : Json
  domains : List ParsedDomain

def ParsedReferential.measureCount (parsed : ParsedReferential) : Nat :=
  (parsed.domains.map fun domain => domain.measures.length).sum

variable (platform : Platform)

/-! ## Converters -/

/-- `_float`, with the default that all its callers give. -/
def float (value : Json) (label : String) : Except Fault Float :=
  if value.isBlank then .ok 1.0
  else
    match platform.float value with
    | .error .unreadable =>
        .error (.refused
          (label ++ " : poids illisible (" ++ value.repr platform.unicode ++ ")."))
    | .error .overflow => .error (.uncaught .overflowError)
    | .ok poids =>
        if (Exact.ofFloat poids).le (.finite 0) then
          .error (.refused
            (label ++ " : le poids doit être strictement positif (reçu " ++
              platform.printFloat poids ++ ")."))
        else .ok poids

/-- `_choice`. -/
def choice (value : Json) (choices : List String) (default label champ : String) :
    Except Fault String :=
  if value.isBlank then .ok default
  else
    let valeur := platform.unicode.lower (strip (value.toStr platform.unicode))
    if valeur ∈ choices then .ok valeur
    else
      .error (.refused
        (label ++ " : " ++ champ ++ " « " ++ value.toStr platform.unicode ++
          " » inconnu (valeurs admises : " ++ ", ".intercalate choices ++ ")."))

/-- `ANSSI_LEVEL_WEIGHTS.get(niveau, 1.0)`; a list or a dictionary is no key. -/
def levelWeight (niveau : Json) : Except Fault Float :=
  match niveau with
  | .str level => .ok (anssiLevelWeight level)
  | .arr _ | .obj _ => .error (.uncaught .typeError)
  | .null | .bool _ | .int _ | .float _ => .ok 1.0

/-! ## JSON -/

/-- The inherited form: the weight of a measure is that of its level. -/
def parseInherited (raw : List (String × Json)) (label : String) :
    Except Fault ParsedMeasure := do
  let official ← raising (Json.getOr raw "official" .null).asDict
  let simplified := Json.getOr raw "simplified" (.obj [])
  let rating := Json.getOr raw "product_rating" (.obj [])
  let numero := Json.getOr official "number" .null
  let given := Json.getOr official "code" .null
  let known := if given.isTruthy then given else numero
  let niveau := Json.getOr official "level" (.str "")
  let officialTitle ← raising (Json.getOr official "title" (.str "")).stripped
  let simplified ← raising simplified.asDict
  let plainLanguage ← raising (Json.getOr simplified "question" (.str "")).stripped
  let weight ← levelWeight niveau
  let rating ← raising rating.asDict
  let effort ← choice platform (Json.getOr rating "effort" .null) gradeValues defaultEffort label
    "effort"
  let impact ← choice platform (Json.getOr rating "impact" .null) gradeValues defaultImpact label
    "impact"
  return {
    code := if known.isTruthy then strip (known.toStr platform.unicode) else ""
    officialTitle
    plainLanguage
    number := numero
    level := niveau
    weight
    effort
    impact
    effortImpactDisclaimer := (Json.getOr rating "disclaimer" (.bool true)).isTruthy
    sourceLine := none }

/-- `int(numero) if numero not in (None, "") else None`. -/
def parseNumber (numero : Json) : Except Fault Json :=
  if numero.isBlank then .ok .null
  else (raising (numero.toInt platform.unicode)).map .int

/-- The text of a value, without the blanks around it. -/
def text (value : Json) : String := strip (value.toStr platform.unicode)

def parseGeneric (raw : List (String × Json)) (label : String) : Except Fault ParsedMeasure := do
  let number ← parseNumber platform (Json.getOr raw "number" .null)
  let weight ← float platform (Json.getOr raw "weight" .null) label
  let effort ← choice platform (Json.getOr raw "effort" .null) gradeValues defaultEffort label
    "effort"
  let impact ← choice platform (Json.getOr raw "impact" .null) gradeValues defaultImpact label
    "impact"
  return {
    code := text platform (Json.getOr raw "code" (.str ""))
    officialTitle := text platform (Json.getOr raw "title" (.str ""))
    plainLanguage := text platform
      (Json.getOr raw "statement" (Json.getOr raw "plain_language" (.str "")))
    number
    level := .str (text platform (Json.getOr raw "level" (.str "")))
    weight
    effort
    impact
    effortImpactDisclaimer := (Json.getOr raw "effort_impact_disclaimer" (.bool true)).isTruthy
    sourceLine := none }

/-- The measure is in the inherited form. -/
def isInherited (raw : List (String × Json)) : Bool := (raw.lookup "official").isSome

/-- `_parse_measure`. -/
def parseMeasure (raw : List (String × Json)) (label : String) : Except Fault ParsedMeasure :=
  if isInherited raw then parseInherited platform raw label else parseGeneric platform raw label

/-- The domain that a measure declares, which is its own or that of its official part. -/
def declaredDomain (raw : List (String × Json)) : Except Fault Json := do
  let official ← raising (Json.getOr raw "official" (.obj [])).asDict
  let declare := Json.getOr official "domain" .null
  return if declare.isTruthy then declare else Json.getOr raw "domain" .null

/-- One measure of a domain; a declared domain is the one that it is in. -/
def parseListed (code : String) (mesure : Json) : Except Fault ParsedMeasure := do
  let label := "Domaine « " ++ code ++ " »"
  let raw ← raising mesure.asDict
  let declare ← declaredDomain raw
  if declare.isTruthy && !declare.equals code then
    .error (.refused
      (label ++ " : une mesure déclare le domaine « " ++ declare.toStr platform.unicode ++
        " », qui n'est pas son domaine parent."))
  else parseMeasure platform raw label

/-- One domain, with its position. -/
def parseDomain (ranked : Json × Nat) : Except Fault ParsedDomain := do
  let domaine ← raising ranked.1.asDict
  let code := text platform (Json.getOr domaine "code" (.str ""))
  if code = "" then .error (.refused s!"Domaine n°{ranked.2} : « code » manquant.")
  else do
    let order ← raising ((Json.getOr domaine "order" (.int ranked.2)).toInt platform.unicode)
    let listed ← raising (Json.getOr domaine "measures" (.arr [])).iterate
    let measures ← listed.mapM (parseListed platform code)
    return {
      code
      name := Json.getOr domaine "name" (.str code)
      order
      description := Json.getOr domaine "description" (.str "")
      measures }

/-- The first of the required fields that is missing. -/
def missingField? (data : List (String × Json)) : Option String :=
  ["slug", "name", "version"].find? fun champ => !(Json.getOr data champ .null).isTruthy

/-- The referential of the fields at the root, and of its domains. -/
def readRoot (data : List (String × Json)) : Except Fault ParsedReferential :=
  let domains := Json.getOr data "domains" .null
  if domains.isTruthy = false then
    .error (.refused "Le référentiel ne contient aucun domaine.")
  else do
    let kind ← choice platform (Json.getOr data "kind" .null) kindValues "open" "Référentiel"
      "kind"
    let listed ← raising domains.iterate
    let parsed ← (listed.zipIdx 1).mapM (parseDomain platform)
    return {
      slug := Json.getOr data "slug" .null
      name := Json.getOr data "name" .null
      version := (Json.getOr data "version" .null).toStr platform.unicode
      description := Json.getOr data "description" (.str "")
      publisher := Json.getOr data "publisher" (.str "")
      kind := .str kind
      sourceUrl := Json.getOr data "source_url" (.str "")
      licenceNotice := Json.getOr data "licence_notice" (.str "")
      domains := parsed }

/-- `parse_json` without the validation. -/
def readJson (data : Json) : Except Fault ParsedReferential := do
  let data ← raising data.asDict
  match missingField? data with
  | some champ =>
      .error (.refused ("Champ obligatoire manquant à la racine : « " ++ champ ++ " »."))
  | none => readRoot platform data

/-! ## CSV -/

/-- The metadata of a spreadsheet. -/
abbrev Header := List (String × Json)

/-- A cell as a value: `None` when the row has none. -/
def field (row : Csv.Row) (column : String) : Json :=
  match row.get column with
  | none => .null
  | some cell => .str cell

/-- The required columns that a row leaves empty. -/
def emptyColumns (row : Csv.Row) : List String :=
  ["domaine_code", "mesure_code"].filter fun column => strip (row.cell column) = ""

/-- `int(numero) if numero else None`. -/
def cellNumber (numero : String) : Except Fault Json :=
  if numero = "" then .ok .null
  else (raising (Json.intOfText platform.unicode numero)).map .int

/-- The measure of a row. -/
def parseCells (row : Csv.Row) (line : Nat) : Except Fault ParsedMeasure := do
  let label := s!"Ligne {line}"
  let number ← cellNumber platform (strip (row.cell "mesure_numero"))
  let weight ← float platform (field row "poids") label
  let effort ← choice platform (field row "effort") gradeValues defaultEffort label "effort"
  let impact ← choice platform (field row "impact") gradeValues defaultImpact label "impact"
  return {
    code := strip (row.cell "mesure_code")
    officialTitle := strip (row.cell "intitule_officiel")
    plainLanguage := strip (row.cell "enonce_clair")
    number
    level := .str (strip (row.cell "niveau"))
    weight
    effort
    impact
    effortImpactDisclaimer := true
    sourceLine := some line }

/-- The rank of a domain, by its cell or after some others. -/
def cellOrder (ordre : String) (others : Nat) : Except Fault Int :=
  if ordre = "" then .ok (others + 1) else raising (Json.intOfText platform.unicode ordre)

/-- The domains with the one of a code, which its first row opens. -/
def openDomain (domains : List ParsedDomain) (row : Csv.Row) (code : String) :
    Except Fault (List ParsedDomain) :=
  if domains.any fun domain => domain.code = code then .ok domains
  else do
    let order ← cellOrder platform (row.cell "domaine_ordre") domains.length
    return domains ++ [{
      code
      name := .str (strip (textOr (row.cell "domaine_nom") code))
      order
      description := .str ""
      measures := [] }]

/-- Append a measure to the domain of a code. -/
def appendMeasure (domains : List ParsedDomain) (code : String) (measure : ParsedMeasure) :
    List ParsedDomain :=
  domains.map fun domain =>
    if domain.code = code then { domain with measures := domain.measures ++ [measure] } else domain

/-- One row, with the number of its line. -/
def parseRow (domains : List ParsedDomain) (numbered : Csv.Row × Nat) :
    Except Fault (List ParsedDomain) :=
  let manquantes := emptyColumns numbered.1
  if manquantes ≠ [] then
    .error (.refused
      (s!"Ligne {numbered.2} : colonne(s) obligatoire(s) vide(s) : " ++
        ", ".intercalate manquantes ++ "."))
  else do
    let code := strip (numbered.1.cell "domaine_code")
    let opened ← openDomain platform domains numbered.1 code
    let measure ← parseCells platform numbered.1 numbered.2
    return appendMeasure opened code measure

/-- `parse_csv` without the validation. -/
def readCsv (rows : List Csv.Row) (header : Header) : Except Fault ParsedReferential :=
  match missingField? header with
  | some champ =>
      .error (.refused
        ("Métadonnée obligatoire manquante pour un import CSV : « " ++ champ ++
          " » (option --slug / --name / --ref-version)."))
  | none => do
      let domains ← (rows.zipIdx 2).foldlM (parseRow platform) []
      return {
        slug := Json.getOr header "slug" .null
        name := Json.getOr header "name" .null
        version := (Json.getOr header "version" .null).toStr platform.unicode
        description := Json.getOr header "description" (.str "")
        publisher := Json.getOr header "publisher" (.str "")
        kind := Json.getOr header "kind" (.str "open")
        sourceUrl := Json.getOr header "source_url" (.str "")
        licenceNotice := Json.getOr header "licence_notice" (.str "")
        domains }

/-! ## Validation -/

/-- The texts that a list has more than once, in order. -/
def duplicates (codes : List String) : List String :=
  (codes.filter fun code => 1 < codes.count code).dedup.mergeSort

/-- The checks of one measure; a measure that passes them gives its code. -/
def validateMeasure (domaine : String) (mesure : ParsedMeasure) : Except Fault String :=
  if mesure.code = "" then
    .error (.refused ("Domaine « " ++ domaine ++ " » : une mesure n'a pas de code."))
  else if mesure.officialTitle = "" then
    .error (.refused ("Mesure « " ++ mesure.code ++ " » : intitulé officiel manquant."))
  else if mesure.plainLanguage = "" then
    .error (.refused ("Mesure « " ++ mesure.code ++ " » : énoncé en langage clair manquant."))
  else .ok mesure.code

def validateDomain (domaine : ParsedDomain) : Except Fault (List String) :=
  if domaine.measures = [] then
    .error (.refused ("Le domaine « " ++ domaine.code ++ " » ne contient aucune mesure."))
  else domaine.measures.mapM (validateMeasure domaine.code)

/-- The codes of all the measures, none of them twice. -/
def validateCodes (parsed : ParsedReferential) : Except Fault ParsedReferential := do
  let tousCodes ← parsed.domains.mapM validateDomain
  let doublons := duplicates tousCodes.flatten
  if doublons ≠ [] then
    .error (.refused
      ("Codes de mesure en double dans le référentiel : " ++ ", ".intercalate doublons ++ "."))
  else .ok parsed

/-- `_validate`. -/
def validate (parsed : ParsedReferential) : Except Fault ParsedReferential :=
  let doublonsDomaines := duplicates (parsed.domains.map ParsedDomain.code)
  if parsed.domains = [] then .error (.refused "Le référentiel ne contient aucun domaine.")
  else if doublonsDomaines ≠ [] then
    .error (.refused
      ("Codes de domaine en double : " ++ ", ".intercalate doublonsDomaines ++ "."))
  else validateCodes parsed

def parseJson (data : Json) : Except Fault ParsedReferential :=
  readJson platform data >>= validate

def parseCsv (rows : List Csv.Row) (header : Header) : Except Fault ParsedReferential :=
  readCsv platform rows header >>= validate

/-! ## The command line -/

/-- A text file; its bytes are the text in UTF-8. -/
structure SourceFile where
  suffix : String
  content : String

/-- The text that `utf-8-sig` decodes. -/
def withoutMark (content : List Char) : List Char :=
  match content with
  | symbol :: rest => if symbol = Char.ofNat 0xFEFF then rest else content
  | [] => []

/-- The text of a file opened without `newline`: all its lines end with a line feed. -/
def translated (content : List Char) : List Char :=
  (Csv.universalLines content).flatMap fun line =>
    match line.reverse with
    | '\n' :: '\r' :: rest => rest.reverse ++ ['\n']
    | '\r' :: rest => rest.reverse ++ ['\n']
    | _ => line

/-- The lines that `csv.DictReader` is given of a file. -/
def fileLines (content : String) : List (List Char) :=
  Csv.universalLines (withoutMark content.toList)

/-- What the reader of the records gives. -/
def csvOutcome {Result : Type} (outcome : Except String Result) : Except Fault Result :=
  outcome.mapError fun message => .uncaught (.csvError message)

/-- `read_file` of a spreadsheet; the names of its columns are looked at first. -/
def readCsvFile (content : String) (header : Header) : Except Fault ParsedReferential := do
  let names ← csvOutcome (Csv.firstRecord ',' .reset (fileLines content))
  let manquantes := ["domaine_code", "mesure_code"].filter fun column => column ∉ names.getD []
  if manquantes ≠ [] then
    .error (.refused
      ("Colonnes manquantes dans le tableur : " ++ ", ".intercalate manquantes ++
        ". Colonnes attendues : " ++ ", ".intercalate csvColumns ++ "."))
  else do
    let records ← csvOutcome (Csv.readRecords ',' (fileLines content))
    parseCsv platform (Csv.rows records) header

/-- `read_file` of a JSON file. -/
def readJsonFile (content : String) : Except Fault ParsedReferential :=
  match platform.loads (String.ofList (translated content.toList)) with
  | .error (.decode message) => .error (.refused ("JSON illisible : " ++ message))
  | .error (.value message) => .error (.value message)
  | .error .recursion => .error (.uncaught .recursionError)
  | .ok data => parseJson platform data

/-- `read_file`; without a format the suffix of the path gives it. -/
def readFile (file : Option SourceFile) (path : String) (fmt : Option String) (header : Header) :
    Except Fault ParsedReferential :=
  match file with
  | none => .error (.refused ("Fichier introuvable : " ++ path))
  | some file =>
      let isSheet := platform.unicode.lower file.suffix ∈ [".csv", ".tsv"]
      let deduced := if isSheet then "csv" else "json"
      if textOr (fmt.getD "") deduced = "csv" then readCsvFile platform file.content header
      else readJsonFile platform file.content

/-! ## The console -/

structure Erreur where
  ligne : Option Nat
  message : String
  deriving DecidableEq, Repr

/-- The errors of one measure; the next ones are not looked at without its code. -/
def erreursMesure (domaine : String) (mesure : ParsedMeasure) : List Erreur :=
  if mesure.code = "" then
    [⟨mesure.sourceLine, "Domaine « " ++ domaine ++ " » : une mesure n'a pas de code."⟩]
  else
    (if mesure.officialTitle = "" then
      [⟨mesure.sourceLine, "Mesure « " ++ mesure.code ++ " » : intitule officiel manquant."⟩]
    else []) ++
    if mesure.plainLanguage = "" then
      [⟨mesure.sourceLine,
        "Mesure « " ++ mesure.code ++ " » : enonce en langage clair manquant."⟩]
    else []

def erreursDomaine (domaine : ParsedDomain) : List Erreur :=
  if domaine.measures = [] then
    [⟨none, "Le domaine « " ++ domaine.code ++ " » ne contient aucune mesure."⟩]
  else domaine.measures.flatMap (erreursMesure domaine.code)

/-- The measures that have a code, with their lines. -/
def lignesParCode (parsed : ParsedReferential) : List (String × Option Nat) :=
  parsed.domains.flatMap fun domaine =>
    (domaine.measures.filter fun mesure => mesure.code ≠ "").map fun mesure =>
      (mesure.code, mesure.sourceLine)

/-- `collecter_erreurs`. -/
def collecterErreurs (parsed : ParsedReferential) : List Erreur :=
  if parsed.domains = [] then [⟨none, "Le referentiel ne contient aucun domaine."⟩]
  else
    let lignes := lignesParCode parsed
    ((duplicates (parsed.domains.map ParsedDomain.code)).map fun code =>
      ⟨none, "Code de domaine en double : « " ++ code ++ " »."⟩) ++
    parsed.domains.flatMap erreursDomaine ++
    (duplicates (lignes.map Prod.fst)).map fun code =>
      ⟨(lignes.lookup code).join, "Code de mesure en double : « " ++ code ++ " »."⟩

structure ApercuDomaine where
  code : String
  name : Json
  measureCount : Nat
  measures : List (String × String)

structure Apercu where
  slug : Json
  name : Json
  version : String
  publisher : Json
  kind : Json
  licenceNotice : Json
  domainCount : Nat
  measureCount : Nat
  domains : List ApercuDomaine

def apercu (parsed : ParsedReferential) : Apercu where
  slug := parsed.slug
  name := parsed.name
  version := parsed.version
  publisher := parsed.publisher
  kind := parsed.kind
  licenceNotice := parsed.licenceNotice
  domainCount := parsed.domains.length
  measureCount := (parsed.domains.map fun domaine => domaine.measures.length).sum
  domains := parsed.domains.map fun domaine =>
    { code := domaine.code
      name := domaine.name
      measureCount := domaine.measures.length
      measures := (domaine.measures.take 5).map fun mesure => (mesure.code, mesure.officialTitle) }

/-- What the console shows of a file. -/
structure Analyse where
  erreurs : List Erreur
  apercu : Option Apercu
  parsed : Option ParsedReferential

def Analyse.refused (erreurs : List Erreur) : Analyse := ⟨erreurs, none, none⟩

/-- The separator that the first line has more often; a semicolon of two. -/
def separateur (contenu : String) : Char :=
  let premiere := if strip contenu = "" then [] else Csv.firstLine contenu
  if premiere.count ',' ≤ premiere.count ';' then ';' else ','

/-- The rows that the console reads. -/
def lireLignes (contenu : String) : Except Fault (List Csv.Row) := do
  let records ← csvOutcome (Csv.read (separateur contenu) contenu)
  return Csv.rows records

/-- The rows whose required columns are empty, all of them. -/
def erreursLignes (rows : List Csv.Row) : List Erreur :=
  (rows.zipIdx 2).filterMap fun numbered =>
    let manquantes := emptyColumns numbered.1
    if manquantes ≠ [] then
      some ⟨some numbered.2,
        "Colonne(s) obligatoire(s) vide(s) : " ++ ", ".intercalate manquantes ++ "."⟩
    else none

def chargerJson (contenu : String) : Except Fault Json :=
  match platform.loads contenu with
  | .error (.decode message) | .error (.value message) => .error (.value message)
  | .error .recursion => .error (.uncaught .recursionError)
  | .ok data => .ok data

/-- What is read of a file: the errors of its lines, or the referential. -/
def lire (contenu fmt : String) (header : Header) :
    Except Fault (List Erreur ⊕ ParsedReferential) :=
  if fmt = "json" then do
    let data ← chargerJson platform contenu
    (readJson platform data).map .inr
  else do
    let lignes ← lireLignes contenu
    let erreurs := erreursLignes lignes
    if erreurs ≠ [] then .ok (.inl erreurs)
    else (readCsv platform lignes header).map .inr

/-- `analyser`. -/
def analyser (contenu fmt : String) (header : Option Header) : Except Uncaught Analyse :=
  match lire platform contenu fmt (header.getD []) with
  | .error (.refused message) => .ok (.refused [⟨none, message⟩])
  | .error (.value message) => .ok (.refused [⟨none, "Fichier illisible : " ++ message⟩])
  | .error (.uncaught exception) => .error exception
  | .ok (.inl erreurs) => .ok (.refused erreurs)
  | .ok (.inr parsed) =>
      let erreurs := collecterErreurs parsed
      .ok ⟨erreurs, if erreurs = [] then some (apercu parsed) else none, some parsed⟩

/-! ## The template -/

def exemple : List (String × String) :=
  [("domaine_code", "sensibiliser-former"), ("domaine_nom", "Sensibiliser et former"),
    ("domaine_ordre", "1"), ("mesure_code", "1"), ("mesure_numero", "1"),
    ("intitule_officiel", "Former les equipes aux risques numeriques"),
    ("enonce_clair", "Vos equipes sont-elles formees aux risques numeriques ?"),
    ("niveau", "standard"), ("poids", "1"), ("effort", "low"), ("impact", "high")]

/-- `modele_csv`. -/
def modeleCsv : String :=
  ";".intercalate csvColumns ++ "\n" ++
    ";".intercalate (csvColumns.map fun colonne => (exemple.lookup colonne).getD "") ++ "\n"

end RssiService.Assessments.Importers
