import RssiService.Assessments.SheetReaders

/-!
# The referentials that imports write

A file comes from the command line, with options, or from the console, with a
request.  What is written has its codes, and efforts and impacts among the declared
values, whatever the path; its weights are numbers only when the file gives numbers,
and the console takes the kind of a spreadsheet as the request has it.
-/

namespace RssiService.Assessments.Importers

open Foundation Foundation.Outcome Foundation.Traversal Python

variable (platform : Platform)

/-! ## The command -/

/-- The options of `import_referential`; the kind and the format are among their
choices. -/
structure CommandOptions where
  format : Option { format : String // format ∈ ["json", "csv"] }
  slug : Option String
  name : Option String
  refVersion : Option String
  publisher : String
  description : String
  sourceUrl : String
  licenceNotice : String
  kind : Option { kind : String // kind ∈ kindValues }

/-- An option that is missing is `None`. -/
def optionValue (given : Option String) : Json :=
  match given with
  | none => .null
  | some text => .str text

def CommandOptions.header (options : CommandOptions) : Header :=
  [("slug", optionValue options.slug), ("name", optionValue options.name),
    ("version", optionValue options.refVersion), ("publisher", .str options.publisher),
    ("description", .str options.description), ("source_url", .str options.sourceUrl),
    ("licence_notice", .str options.licenceNotice)] ++
  match options.kind with
  | none => []
  | some kind => [("kind", .str kind.1)]

/-- An option that is given replaces what was read. -/
def overriding (given : String) (read : Json) : Json :=
  if given = "" then read else .str given

def CommandOptions.override (options : CommandOptions) (parsed : ParsedReferential) :
    ParsedReferential :=
  { parsed with
    publisher := overriding options.publisher parsed.publisher
    description := overriding options.description parsed.description
    sourceUrl := overriding options.sourceUrl parsed.sourceUrl
    licenceNotice := overriding options.licenceNotice parsed.licenceNotice
    kind :=
      match options.kind with
      | none => parsed.kind
      | some kind => .str kind.1 }

/-- What the command `import_referential` writes. -/
def handle (file : Option SourceFile) (path : String) (options : CommandOptions) :
    Except Fault ParsedReferential :=
  (readFile platform file path (options.format.map Subtype.val) options.header).map
    options.override

/-! ## The console -/

/-- A request of the console: its data, and the text of its file. -/
structure ImportRequest where
  data : List (String × Json)
  file : Option String

/-- `value or ""`, of which a method of texts is called. -/
def orText (value : Json) : Except Uncaught String :=
  if value.isTruthy then
    match value with
    | .str text => .ok text
    | _ => .error .attributeError
  else .ok ""

/-- The text that is sent, or the one of the file when it is blank. -/
def ImportRequest.contenu (request : ImportRequest) : Except Uncaught String := do
  let contenu ← orText (Json.getOr request.data "content" .null)
  return if strip contenu = "" then request.file.getD contenu else contenu

/-- The format that is asked for, or the one that the text looks like. -/
def ImportRequest.fmt (request : ImportRequest) (contenu : String) : Except Uncaught String := do
  let format ← orText (Json.getOr request.data "format" .null)
  let fmt := platform.unicode.lower (strip format)
  return if fmt ∈ ["json", "csv"] then fmt
    else if (lstripChars isSpace contenu.toList).head? = some '{' then "json"
    else "csv"

/-- The metadata of the request; what is missing is empty. -/
def ImportRequest.entete (request : ImportRequest) : Header :=
  ["slug", "name", "version", "publisher", "kind", "source_url", "licence_notice",
    "description"].map fun champ => (champ, Json.getOr request.data champ (.str ""))

/-- The text and the format that are analysed; a blank text is not. -/
def ImportRequest.read (request : ImportRequest) : Except Uncaught (Option (String × String)) := do
  let contenu ← request.contenu
  if strip contenu = "" then return none
  else
    let fmt ← request.fmt platform contenu
    return some (contenu, fmt)

/-- `post`, up to the confirmation. -/
def post (request : ImportRequest) : Except Uncaught (Option Analyse) := do
  match ← request.read platform with
  | none => return none
  | some (contenu, fmt) =>
      let resultat ← analyser platform contenu fmt (some request.entete)
      return some resultat

/-! ## Imports -/

inductive Upload where
  | command (file : SourceFile) (path : String) (options : CommandOptions)
  | console (request : ImportRequest)

/-- The upload is accepted, and the referential is the one that it writes. -/
def Upload.Writes (upload : Upload) (parsed : ParsedReferential) : Prop :=
  match upload with
  | .command file path options => handle platform (some file) path options = .ok parsed
  | .console request =>
      ∃ resultat, post platform request = .ok (some resultat) ∧ resultat.erreurs = [] ∧
        resultat.parsed = some parsed

/-- What scores rely on. -/
structure ParsedReferential.WellFormed (parsed : ParsedReferential) : Prop where
  kind : ∃ kind ∈ kindValues, parsed.kind = .str kind
  effort : ∀ domaine ∈ parsed.domains, ∀ mesure ∈ domaine.measures, mesure.effort ∈ gradeValues
  impact : ∀ domaine ∈ parsed.domains, ∀ mesure ∈ domaine.measures, mesure.impact ∈ gradeValues
  weight : ∀ domaine ∈ parsed.domains, ∀ mesure ∈ domaine.measures,
    (Exact.ofFloat mesure.weight).IsPositive
  coded : ∀ domaine ∈ parsed.domains, ∀ mesure ∈ domaine.measures, mesure.code ≠ ""
  codes_nodup : parsed.codes.Nodup
  filled : ∀ domaine ∈ parsed.domains, domaine.measures ≠ []

/-- The weight is missing, or is read as a number. -/
def FiniteWeight (value : Json) : Prop :=
  value.isBlank = true ∨
    ∃ poids, platform.float value = .ok poids ∧ (Exact.ofFloat poids).IsFinite

/-- The weights that a JSON file gives; the inherited form has none. -/
def jsonWeights (data : Json) : List Json :=
  ((items? (Json.getOr (fields data) "domains" .null)).getD []).flatMap fun domaine =>
    (((items? (domainMeasures domaine)).getD []).filter fun mesure =>
      !isInherited (fields mesure)).map fun mesure => Json.getOr (fields mesure) "weight" .null

/-- The weights of a text in JSON. -/
def textWeights (contenu : String) : List Json :=
  match platform.loads contenu with
  | .ok data => jsonWeights data
  | .error _ => []

/-- The weights of the rows of a spreadsheet. -/
def rowWeights (rows : Option (List Csv.Row)) : List Json :=
  (rows.getD []).map fun row => field row "poids"

/-- The file is read as a spreadsheet. -/
def readsSheet (suffix : String) (fmt : Option String) : Bool :=
  textOr (fmt.getD "")
    (if platform.unicode.lower suffix ∈ [".csv", ".tsv"] then "csv" else "json") = "csv"

/-- The weights that an upload gives. -/
def Upload.weights (upload : Upload) : List Json :=
  match upload with
  | .command file _ options =>
      if readsSheet platform file.suffix (options.format.map Subtype.val) then
        rowWeights (fileRows file.content)
      else textWeights platform (String.ofList (translated file.content.toList))
  | .console request =>
      match request.read platform with
      | .ok (some (contenu, fmt)) =>
          if fmt = "json" then textWeights platform contenu else rowWeights (consoleRows contenu)
      | .ok none | .error _ => []

/-- The kind that is asked for with a spreadsheet of the console is a declared one. -/
def Upload.KindDeclared (upload : Upload) : Prop :=
  match upload with
  | .command _ _ _ => True
  | .console request =>
      ∀ contenu, request.read platform = .ok (some (contenu, "csv")) →
        ∃ kind ∈ kindValues, Json.getOr request.data "kind" (.str "") = .str kind

/-! ## Measures -/

/-- The effort and the impact are declared values. -/
structure ParsedMeasure.Graded (mesure : ParsedMeasure) : Prop where
  effort : mesure.effort ∈ gradeValues
  impact : mesure.impact ∈ gradeValues

section Measures

variable {platform} {raw : List (String × Json)} {mesure : ParsedMeasure} {code label : String}

theorem isPositive_weightValue_iff {value : Json} (reads : WeightReads platform value) :
    (Exact.ofFloat (weightValue platform value)).IsPositive ↔ FiniteWeight platform value := by
  rw [weightValue, FiniteWeight]
  cases blank : value.isBlank with
  | true => exact iff_of_true isPositive_one (.inl rfl)
  | false =>
      rw [WeightReads, blank] at reads
      obtain ⟨poids, read, refused⟩ := reads.resolve_left Bool.false_ne_true
      rw [read]
      constructor
      · intro positive
        exact .inr ⟨poids, rfl, positive.isFinite⟩
      · rintro (impossible | ⟨_, ⟨⟩, finite⟩)
        · cases impossible
        · exact isPositive_of_finite finite refused

theorem mem_of_choice {value : Json} {champ valeur : String}
    (chosen : choice platform value gradeValues "medium" label champ = .ok valeur) :
    valeur ∈ gradeValues := by
  obtain ⟨admitted, rfl⟩ := choice_eq_ok_iff.mp chosen
  exact choiceValue_mem admitted (by decide)

theorem isPositive_levelWeight {niveau : Json} {weight : Float}
    (read : levelWeight niveau = .ok weight) : (Exact.ofFloat weight).IsPositive := by
  cases niveau with
  | str level =>
      cases read
      exact isPositive_anssiLevelWeight level
  | arr items => cases read
  | obj fields => cases read
  | null | bool _ | int _ | float _ =>
      cases read
      exact isPositive_one

/-- A measure of the inherited form has the weight of its level. -/
theorem parseInherited_eq_ok (done : parseInherited platform raw label = .ok mesure) :
    mesure.Graded ∧ (Exact.ofFloat mesure.weight).IsPositive := by
  obtain ⟨official, _, done⟩ := bind_eq_ok.mp done
  obtain ⟨officialTitle, _, done⟩ := bind_eq_ok.mp done
  obtain ⟨simplified, _, done⟩ := bind_eq_ok.mp done
  obtain ⟨plainLanguage, _, done⟩ := bind_eq_ok.mp done
  obtain ⟨weight, level, done⟩ := bind_eq_ok.mp done
  obtain ⟨rating, _, done⟩ := bind_eq_ok.mp done
  obtain ⟨effort, chosen, done⟩ := bind_eq_ok.mp done
  obtain ⟨impact, preferred, done⟩ := bind_eq_ok.mp done
  cases done
  exact ⟨⟨mem_of_choice chosen, mem_of_choice preferred⟩, isPositive_levelWeight level⟩

theorem parseGeneric_eq_ok (done : parseGeneric platform raw label = .ok mesure) :
    mesure.Graded ∧ ((Exact.ofFloat mesure.weight).IsPositive ↔
      FiniteWeight platform (Json.getOr raw "weight" .null)) := by
  obtain ⟨number, _, done⟩ := bind_eq_ok.mp done
  obtain ⟨weight, given, done⟩ := bind_eq_ok.mp done
  obtain ⟨effort, chosen, done⟩ := bind_eq_ok.mp done
  obtain ⟨impact, preferred, done⟩ := bind_eq_ok.mp done
  cases done
  obtain ⟨reads, rfl⟩ := float_eq_ok_iff.mp given
  exact ⟨⟨mem_of_choice chosen, mem_of_choice preferred⟩, isPositive_weightValue_iff reads⟩

theorem parseListed_eq_ok {given : Json}
    (done : parseListed platform code given = .ok mesure) :
    mesure.Graded ∧ ((Exact.ofFloat mesure.weight).IsPositive ↔
      (isInherited (fields given) = false →
        FiniteWeight platform (Json.getOr (fields given) "weight" .null))) := by
  obtain ⟨raw, dict, done⟩ := bind_eq_ok.mp done
  obtain ⟨declare, _, done⟩ := bind_eq_ok.mp done
  obtain ⟨_, rfl⟩ := raising_asDict_eq_ok_iff.mp dict
  split at done
  · cases done
  · rw [parseMeasure] at done
    split at done
    · rename_i inherited
      obtain ⟨graded, positive⟩ := parseInherited_eq_ok done
      refine ⟨graded, iff_of_true positive fun generic => ?_⟩
      exact absurd (inherited.symm.trans generic) Bool.noConfusion
    · rename_i generic
      obtain ⟨graded, finite⟩ := parseGeneric_eq_ok done
      rw [Bool.not_eq_true] at generic
      exact ⟨graded, finite.trans (imp_iff_right generic).symm⟩

end Measures

/-! ## JSON -/

section Files

variable {platform} {parsed : ParsedReferential} {data : Json}

theorem forall_jsonWeights_iff {P : Json → Prop} : (∀ value ∈ jsonWeights data, P value) ↔
    ∀ domaine ∈ (items? (Json.getOr (fields data) "domains" .null)).getD [],
      ∀ mesure ∈ (items? (domainMeasures domaine)).getD [], isInherited (fields mesure) = false →
        P (Json.getOr (fields mesure) "weight" .null) := by
  rw [jsonWeights, List.forall_mem_flatMap]
  refine forall_congr' fun domaine => imp_congr_right fun _ => ?_
  rw [List.forall_mem_map]
  simp only [List.mem_filter, Bool.not_eq_true', and_imp]

theorem parseDomain_eq_ok {ranked : Json × Nat} {domaine : ParsedDomain}
    (done : parseDomain platform ranked = .ok domaine) :
    (∀ mesure ∈ domaine.measures, mesure.Graded) ∧
      ((∀ mesure ∈ domaine.measures, (Exact.ofFloat mesure.weight).IsPositive) ↔
        ∀ mesure ∈ (items? (domainMeasures ranked.1)).getD [], isInherited (fields mesure) = false →
          FiniteWeight platform (Json.getOr (fields mesure) "weight" .null)) := by
  obtain ⟨found, dict, done⟩ := bind_eq_ok.mp done
  obtain ⟨_, rfl⟩ := raising_asDict_eq_ok_iff.mp dict
  dsimp only at done
  split at done
  · cases done
  · obtain ⟨order, _, done⟩ := bind_eq_ok.mp done
    obtain ⟨listed, items, done⟩ := bind_eq_ok.mp done
    obtain ⟨measures, all, done⟩ := bind_eq_ok.mp done
    cases done
    rw [domainMeasures, raising_iterate_eq_ok_iff.mp items, Option.getD_some]
    refine ⟨?_, forall_mapM_iff (fun _ _ read => (parseListed_eq_ok read).2) all⟩
    have graded := forall_mapM_iff (P := ParsedMeasure.Graded) (Q := fun _ => True)
      (fun _ _ read => iff_true_intro (parseListed_eq_ok read).1) all
    exact graded.mpr fun _ _ => trivial

theorem readJson_eq_ok (done : readJson platform data = .ok parsed) :
    ((∃ kind ∈ kindValues, parsed.kind = .str kind) ∧
        ∀ domaine ∈ parsed.domains, ∀ mesure ∈ domaine.measures, mesure.Graded) ∧
      ((∀ domaine ∈ parsed.domains, ∀ mesure ∈ domaine.measures,
          (Exact.ofFloat mesure.weight).IsPositive) ↔
        ∀ value ∈ jsonWeights data, FiniteWeight platform value) := by
  obtain ⟨found, dict, done⟩ := bind_eq_ok.mp done
  obtain ⟨_, rfl⟩ := raising_asDict_eq_ok_iff.mp dict
  split at done
  · cases done
  · rw [readRoot] at done
    split at done
    · cases done
    · obtain ⟨kind, chosen, done⟩ := bind_eq_ok.mp done
      obtain ⟨listed, items, done⟩ := bind_eq_ok.mp done
      obtain ⟨domains, all, done⟩ := bind_eq_ok.mp done
      cases done
      obtain ⟨admitted, rfl⟩ := choice_eq_ok_iff.mp chosen
      refine ⟨⟨⟨_, choiceValue_mem admitted (by decide), rfl⟩, ?_⟩, ?_⟩
      · have graded := forall_mapM_iff
          (P := fun domaine : ParsedDomain => ∀ mesure ∈ domaine.measures, mesure.Graded)
          (Q := fun _ => True) (fun _ _ read => iff_true_intro (parseDomain_eq_ok read).1) all
        exact graded.mpr fun _ _ => trivial
      · rw [forall_jsonWeights_iff, raising_iterate_eq_ok_iff.mp items, Option.getD_some]
        rw [← forall_mem_zipIdx_iff listed 1]
        exact forall_mapM_iff (fun _ _ read => (parseDomain_eq_ok read).2) all

/-- What is valid and graded is well formed when its kind and its weights are. -/
theorem wellFormed_iff (valid : parsed.Valid)
    (graded : ∀ domaine ∈ parsed.domains, ∀ mesure ∈ domaine.measures, mesure.Graded) :
    parsed.WellFormed ↔ (∃ kind ∈ kindValues, parsed.kind = .str kind) ∧
      ∀ domaine ∈ parsed.domains, ∀ mesure ∈ domaine.measures,
        (Exact.ofFloat mesure.weight).IsPositive := by
  constructor
  · exact fun wellFormed => ⟨wellFormed.kind, wellFormed.weight⟩
  · rintro ⟨kind, weight⟩
    exact {
      kind
      effort := fun domaine listed mesure given => (graded domaine listed mesure given).effort
      impact := fun domaine listed mesure given => (graded domaine listed mesure given).impact
      weight
      coded := fun domaine listed mesure given =>
        ((valid.complete domaine listed).complete mesure given).coded
      codes_nodup := valid.codes_nodup
      filled := fun domaine listed => (valid.complete domaine listed).filled }

theorem wellFormed_readJson_iff (read : readJson platform data = .ok parsed)
    (valid : parsed.Valid) :
    parsed.WellFormed ↔ ∀ value ∈ jsonWeights data, FiniteWeight platform value := by
  obtain ⟨⟨kind, graded⟩, weights⟩ := readJson_eq_ok read
  rw [wellFormed_iff valid graded, and_iff_right kind, weights]

/-! ## Spreadsheets -/

variable {header : Header} {rows : List Csv.Row}

theorem wellFormed_sheetOf_iff (importable : Importable platform header rows) :
    (sheetOf platform header rows).WellFormed ↔
      (∃ kind ∈ kindValues, Json.getOr header "kind" (.str "open") = .str kind) ∧
        ∀ value ∈ rowWeights (some rows), FiniteWeight platform value := by
  have reads := rowReads_of_rowsRead importable.read
  have graded : ∀ domaine ∈ (sheetOf platform header rows).domains,
      ∀ mesure ∈ domaine.measures, mesure.Graded := by
    refine forall_sheetOf_iff.mpr fun numbered listed => ?_
    have row := reads numbered.1 (List.fst_mem_of_mem_zipIdx listed)
    exact ⟨choiceValue_mem row.effort (by decide), choiceValue_mem row.impact (by decide)⟩
  rw [wellFormed_iff (importable_iff.mp importable).2 graded, forall_sheetOf_iff, rowWeights,
    Option.getD_some, List.forall_mem_map, ← forall_mem_zipIdx_iff rows 2]
  refine and_congr_right fun _ => forall_congr' fun numbered => imp_congr_right fun listed => ?_
  exact isPositive_weightValue_iff (reads numbered.1 (List.fst_mem_of_mem_zipIdx listed)).weight

end Files

/-! ## The command -/

section Command

variable {platform} {parsed : ParsedReferential} {options : CommandOptions}

/-- The kind of the options is a declared one, and so is the kind when they have none. -/
theorem kind_header : ∃ kind ∈ kindValues,
    Json.getOr options.header "kind" (.str "open") = .str kind := by
  cases given : options.kind with
  | none =>
      refine ⟨"open", by decide, ?_⟩
      rw [CommandOptions.header, given]
      rfl
  | some kind =>
      refine ⟨kind.1, kind.2, ?_⟩
      rw [CommandOptions.header, given]
      rfl

/-- The options leave the domains as they are. -/
theorem wellFormed_override_iff (declared : ∃ kind ∈ kindValues, parsed.kind = .str kind) :
    (options.override parsed).WellFormed ↔ parsed.WellFormed := by
  have kept : ∃ kind ∈ kindValues, (options.override parsed).kind = .str kind := by
    rw [CommandOptions.override]
    cases options.kind with
    | none => exact declared
    | some kind => exact ⟨kind.1, kind.2, rfl⟩
  constructor
  · rintro ⟨_, effort, impact, weight, coded, nodup, filled⟩
    exact ⟨declared, effort, impact, weight, coded, nodup, filled⟩
  · rintro ⟨_, effort, impact, weight, coded, nodup, filled⟩
    exact ⟨kept, effort, impact, weight, coded, nodup, filled⟩

theorem readFile_eq (file : SourceFile) (path : String) (fmt : Option String) (header : Header) :
    readFile platform (some file) path fmt header =
      if readsSheet platform file.suffix fmt then readCsvFile platform file.content header
      else readJsonFile platform file.content := by
  rw [readFile, readsSheet]
  by_cases sheet : platform.unicode.lower file.suffix ∈ [".csv", ".tsv"]
  · simp [sheet]
  · simp [sheet]

theorem parseJson_eq_ok_iff {data : Json} : parseJson platform data = .ok parsed ↔
    readJson platform data = .ok parsed ∧ parsed.Valid := by
  constructor
  · intro done
    obtain ⟨found, read, checked⟩ := bind_eq_ok.mp done
    obtain ⟨valid, rfl⟩ := validate_eq_ok_iff.mp checked
    exact ⟨read, valid⟩
  · rintro ⟨read, valid⟩
    exact bind_eq_ok.mpr ⟨parsed, read, validate_eq_ok_iff.mpr ⟨valid, rfl⟩⟩

theorem wellFormed_textWeights_iff {contenu : String} {data : Json}
    (loaded : platform.loads contenu = .ok data) (read : readJson platform data = .ok parsed)
    (valid : parsed.Valid) :
    parsed.WellFormed ↔ ∀ value ∈ textWeights platform contenu, FiniteWeight platform value := by
  rw [textWeights, loaded]
  exact wellFormed_readJson_iff read valid

/-- What the command reads has a declared kind, and is well formed when the weights of
the file are numbers. -/
theorem wellFormed_readFile_iff {file : SourceFile} {path : String} {fmt : Option String}
    (read : readFile platform (some file) path fmt options.header = .ok parsed) :
    (∃ kind ∈ kindValues, parsed.kind = .str kind) ∧ (parsed.WellFormed ↔
      ∀ value ∈ if readsSheet platform file.suffix fmt then rowWeights (fileRows file.content)
        else textWeights platform (String.ofList (translated file.content.toList)),
          FiniteWeight platform value) := by
  rw [readFile_eq] at read
  split at read
  · rename_i sheet
    rw [if_pos sheet]
    obtain ⟨rows, cut, importable, rfl⟩ := readCsvFile_eq_ok_iff.mp read
    rw [cut, wellFormed_sheetOf_iff importable, and_iff_right kind_header]
    exact ⟨kind_header, Iff.rfl⟩
  · rename_i sheet
    rw [if_neg sheet]
    rw [readJsonFile] at read
    split at read
    · cases read
    · cases read
    · cases read
    · rename_i data loaded
      obtain ⟨found, valid⟩ := parseJson_eq_ok_iff.mp read
      exact ⟨(readJson_eq_ok found).1.1, wellFormed_textWeights_iff loaded found valid⟩

theorem wellFormed_handle_iff {file : SourceFile} {path : String}
    (written : handle platform (some file) path options = .ok parsed) :
    parsed.WellFormed ↔
      ∀ value ∈ (Upload.command file path options).weights platform,
        FiniteWeight platform value := by
  obtain ⟨read, done, rfl⟩ := map_eq_ok.mp written
  obtain ⟨declared, finite⟩ := wellFormed_readFile_iff done
  rw [wellFormed_override_iff declared]
  exact finite

end Command

/-! ## The console -/

section Console

variable {platform} {request : ImportRequest} {contenu fmt : String} {parsed : ParsedReferential}

/-- The format is one of the two. -/
theorem fmt_of_read (read : request.read platform = .ok (some (contenu, fmt))) :
    fmt = "json" ∨ fmt = "csv" := by
  obtain ⟨text, _, read⟩ := bind_eq_ok.mp read
  split at read
  · cases read
  · obtain ⟨found, asked, read⟩ := bind_eq_ok.mp read
    cases read
    obtain ⟨format, _, asked⟩ := bind_eq_ok.mp asked
    dsimp only at asked
    split at asked
    · rename_i listed
      cases asked
      simpa using listed
    · split at asked
      · cases asked
        exact .inl rfl
      · cases asked
        exact .inr rfl

theorem kind_entete :
    Json.getOr request.entete "kind" (.str "open") = Json.getOr request.data "kind" (.str "") :=
  rfl

theorem wellFormed_analyser_json_iff {resultat : Analyse} {header : Header}
    (analysed : analyser platform contenu "json" (some header) = .ok resultat)
    (clean : resultat.erreurs = []) (found : resultat.parsed = some parsed) :
    parsed.WellFormed ↔ ∀ value ∈ textWeights platform contenu, FiniteWeight platform value := by
  rw [analyser, Option.getD_some, lire, if_pos rfl] at analysed
  split at analysed
  · cases analysed
    cases found
  · cases analysed
    cases found
  · cases analysed
  · cases analysed
    cases found
  · rename_i read done
    cases analysed
    cases found
    obtain ⟨data, loaded, done⟩ := bind_eq_ok.mp done
    obtain ⟨_, made, same⟩ := map_eq_ok.mp done
    cases same
    exact wellFormed_textWeights_iff (chargerJson_eq_ok_iff.mp loaded) made
      (collecterErreurs_eq_nil_iff.mp clean)

theorem wellFormed_post_iff
    (written : (Upload.console request).Writes platform parsed) :
    parsed.WellFormed ↔
      (∀ value ∈ (Upload.console request).weights platform, FiniteWeight platform value) ∧
        (Upload.console request).KindDeclared platform := by
  obtain ⟨resultat, posted, clean, found⟩ := written
  obtain ⟨read, asked, posted⟩ := bind_eq_ok.mp posted
  cases read with
  | none => cases posted
  | some both =>
      obtain ⟨contenu, fmt⟩ := both
      obtain ⟨_, analysed, same⟩ := bind_eq_ok.mp posted
      cases same
      rw [Upload.weights, asked]
      rcases fmt_of_read asked with rfl | rfl
      · have declared : (Upload.console request).KindDeclared platform := by
          intro other impossible
          rw [asked] at impossible
          have same := (Prod.mk.inj (Option.some.inj (Except.ok.inj impossible))).2
          exact absurd same (by decide)
        rw [and_iff_left declared]
        exact wellFormed_analyser_json_iff analysed clean found
      · obtain ⟨rows, cut, importable, rfl⟩ := analyser_eq_ok_iff.mp ⟨analysed, clean⟩
        cases found
        have declared : (Upload.console request).KindDeclared platform ↔
            ∃ kind ∈ kindValues, Json.getOr request.data "kind" (.str "") = .str kind := by
          constructor
          · exact fun declared => declared contenu asked
          · exact fun declared _ _ => declared
        rw [wellFormed_sheetOf_iff importable, declared, kind_entete, and_comm]
        dsimp only
        rw [if_neg (by decide), cut]

end Console

/-- What an upload writes is well formed exactly when each weight that it gives is read
as a finite number, and the console is sent one of the declared kinds with a
spreadsheet. -/
theorem writes_wellFormed_iff (platform : Platform) {upload : Upload} {parsed : ParsedReferential}
    (written : upload.Writes platform parsed) :
    parsed.WellFormed ↔ (∀ value ∈ upload.weights platform, FiniteWeight platform value) ∧
      upload.KindDeclared platform := by
  cases upload with
  | command file path options =>
      rw [wellFormed_handle_iff written]
      exact (and_iff_left trivial).symm
  | console request => exact wellFormed_post_iff written

/-! A spreadsheet of one row, with a weight that is a number or `nan`. -/

section Samples

def sampleSheet (poids : String) : String :=
  "domaine_code,mesure_code,intitule_officiel,enonce_clair,poids\na,b,c,d," ++ poids ++ "\n"

def sampleOptions : CommandOptions :=
  { format := none, slug := some "s", name := some "n", refVersion := some "1", publisher := ""
    description := "", sourceUrl := "", licenceNotice := "", kind := none }

def sampleUpload (poids : String) : Upload :=
  .command ⟨".csv", sampleSheet poids⟩ "sample.csv" sampleOptions

theorem weights_sampleUpload {poids : String} {row : Csv.Row}
    (cut : fileRows (sampleSheet poids) = some [row]) :
    (sampleUpload poids).weights samplePlatform = [field row "poids"] := by
  rw [sampleUpload, Upload.weights]
  dsimp only
  rw [cut, if_pos (by decide +kernel)]
  rfl

theorem written_sampleUpload (poids : String)
    (read : (handle samplePlatform (some ⟨".csv", sampleSheet poids⟩) "sample.csv"
      sampleOptions).toOption.isSome = true) :
    ∃ parsed, (sampleUpload poids).Writes samplePlatform parsed := by
  cases done : handle samplePlatform (some ⟨".csv", sampleSheet poids⟩) "sample.csv"
      sampleOptions with
  | error fault =>
      rw [done] at read
      cases read
  | ok parsed => exact ⟨parsed, done⟩

/-- A weight of one. -/
theorem writes_wellFormed_iff_one : ∃ parsed, (sampleUpload "1").Writes samplePlatform parsed ∧
    parsed.WellFormed := by
  obtain ⟨parsed, written⟩ := written_sampleUpload "1" (by decide +kernel)
  refine ⟨parsed, written, (writes_wellFormed_iff samplePlatform written).mpr ⟨?_, trivial⟩⟩
  have cut : fileRows (sampleSheet "1") = some [⟨[("domaine_code", some "a"),
      ("mesure_code", some "b"), ("intitule_officiel", some "c"), ("enonce_clair", some "d"),
      ("poids", some "1")]⟩] := by decide +kernel
  rw [weights_sampleUpload cut, List.forall_mem_singleton]
  exact .inr ⟨1.0, rfl, isPositive_one.isFinite⟩

/-- No comparison refuses the weight that is not a number. -/
theorem nan_weight_written : ¬ ∀ upload parsed, Upload.Writes samplePlatform upload parsed →
    parsed.WellFormed := by
  intro all
  obtain ⟨parsed, written⟩ := written_sampleUpload "nan" (by decide +kernel)
  have finite := (wellFormed_handle_iff written).mp (all _ parsed written)
  have cut : fileRows (sampleSheet "nan") = some [⟨[("domaine_code", some "a"),
      ("mesure_code", some "b"), ("intitule_officiel", some "c"), ("enonce_clair", some "d"),
      ("poids", some "nan")]⟩] := by decide +kernel
  have weight : FiniteWeight samplePlatform (.str "nan") := by
    refine finite _ ?_
    rw [← sampleUpload, weights_sampleUpload cut]
    exact List.mem_singleton_self _
  rcases weight with impossible | ⟨poids, read, value, number⟩
  · cases impossible
  · cases read
    have unreal : Exact.ofFloat nan = .nan := by decide +kernel
    cases unreal.symm.trans number

end Samples

end RssiService.Assessments.Importers
