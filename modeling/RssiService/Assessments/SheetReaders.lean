import RssiService.Assessments.SheetRows

/-!
# The two readers of a spreadsheet

The command line cuts a file at commas, drops its byte order mark and ends a line
at a carriage return; the console deduces what separates the cells and takes the
text as it is.  Once the rows are cut, both import them alike.
-/

namespace RssiService.Assessments.Importers

open Foundation Foundation.Outcome Foundation.Traversal Python

variable (platform : Platform)

/-! ## Rows that can be imported -/

/-- The referential of some rows. -/
def sheetOf (header : Header) (rows : List Csv.Row) : ParsedReferential where
  slug := Json.getOr header "slug" .null
  name := Json.getOr header "name" .null
  version := (Json.getOr header "version" .null).toStr platform.unicode
  description := Json.getOr header "description" (.str "")
  publisher := Json.getOr header "publisher" (.str "")
  kind := Json.getOr header "kind" (.str "open")
  sourceUrl := Json.getOr header "source_url" (.str "")
  licenceNotice := Json.getOr header "licence_notice" (.str "")
  domains := (readings platform [] 2 rows).foldl addReading []

/-- The metadata are there, and there are rows, which are all read, complete and about
different measures. -/
structure Importable (header : Header) (rows : List Csv.Row) : Prop where
  header : ∀ champ ∈ ["slug", "name", "version"], (Json.getOr header champ .null).isTruthy = true
  filled : rows ≠ []
  read : RowsRead platform [] rows
  complete : ∀ row ∈ rows,
    strip (row.cell "intitule_officiel") ≠ "" ∧ strip (row.cell "enonce_clair") ≠ ""
  distinct : (rows.map fun row => strip (row.cell "mesure_code")).Nodup

section Import

variable {platform} {header : Header} {rows : List Csv.Row} {parsed : ParsedReferential}

theorem readCsv_eq_ok_iff : readCsv platform rows header = .ok parsed ↔
    ((∀ champ ∈ ["slug", "name", "version"],
        (Json.getOr header champ .null).isTruthy = true) ∧ RowsRead platform [] rows) ∧
      parsed = sheetOf platform header rows := by
  rw [readCsv, ← missingField?_eq_none_iff]
  cases missingField? header with
  | some champ => exact iff_of_false (by rintro ⟨⟩) (by rintro ⟨⟨⟨⟩, _⟩, _⟩)
  | none =>
      rw [and_iff_right rfl]
      constructor
      · intro done
        obtain ⟨domains, loop, done⟩ := bind_eq_ok.mp done
        obtain ⟨read, rfl⟩ := foldlM_parseRow_eq_ok_iff.mp loop
        exact ⟨read, (Except.ok.inj done).symm⟩
      · rintro ⟨read, rfl⟩
        exact bind_eq_ok.mpr ⟨_, foldlM_parseRow_eq_ok_iff.mpr ⟨read, rfl⟩, rfl⟩

theorem map_entry_readings (seen : List String) (line : Nat) :
    (readings platform seen line rows).map Reading.entry =
      (rows.zipIdx line).map fun numbered =>
        (rowDomain numbered.1, rowMeasure platform numbered.1 numbered.2) := by
  induction rows generalizing seen line with
  | nil => rfl
  | cons row rest ih => exact congrArg _ (ih (seeDomain seen row) (line + 1))

/-- The measures of a spreadsheet are those of its rows. -/
theorem entries_sheetOf : (entries (sheetOf platform header rows).domains).Perm
    ((rows.zipIdx 2).map fun numbered =>
      (rowDomain numbered.1, rowMeasure platform numbered.1 numbered.2)) := by
  rw [← map_entry_readings []]
  have nodup : (codesOf []).Nodup := List.nodup_nil
  exact entries_foldl_addReading 2 nodup

theorem entries_map_code (domains : List ParsedDomain) :
    (entries domains).map (fun entry => entry.2.code) =
      domains.flatMap fun domain => domain.measures.map ParsedMeasure.code := by
  rw [entries, List.map_flatMap]
  exact List.flatMap_congr fun domain _ => List.map_map

theorem forall_entries_iff {domains : List ParsedDomain} {P : ParsedMeasure → Prop} :
    (∀ entry ∈ entries domains, P entry.2) ↔
      ∀ domain ∈ domains, ∀ measure ∈ domain.measures, P measure := by
  simp only [entries, List.mem_flatMap, List.mem_map]
  constructor
  · intro all domain listed measure given
    exact all (domain.code, measure) ⟨domain, listed, measure, given, rfl⟩
  · rintro all _ ⟨domain, listed, measure, given, rfl⟩
    exact all domain listed measure given

/-- What holds of the measures of a spreadsheet holds of each row. -/
theorem forall_sheetOf_iff {P : ParsedMeasure → Prop} :
    (∀ domain ∈ (sheetOf platform header rows).domains, ∀ measure ∈ domain.measures, P measure) ↔
      ∀ numbered ∈ rows.zipIdx 2, P (rowMeasure platform numbered.1 numbered.2) := by
  rw [← forall_entries_iff, ← List.forall_mem_map (f := fun numbered : Csv.Row × Nat =>
    (rowDomain numbered.1, rowMeasure platform numbered.1 numbered.2))
    (P := fun entry => P entry.2)]
  exact forall_congr' fun entry => imp_congr_left entries_sheetOf.mem_iff

theorem rowReads_of_rowsRead {seen : List String} (read : RowsRead platform seen rows) :
    ∀ row ∈ rows, RowReads platform row := by
  induction rows generalizing seen with
  | nil => exact fun row absent => absurd absent List.not_mem_nil
  | cons row rest ih => exact List.forall_mem_cons.mpr ⟨read.1.1, ih read.2⟩

theorem codes_sheetOf : (sheetOf platform header rows).codes.Perm
    (rows.map fun row => strip (row.cell "mesure_code")) := by
  have found : ((entries (sheetOf platform header rows).domains).map fun entry =>
      entry.2.code).Perm _ := entries_sheetOf.map fun entry => entry.2.code
  rw [entries_map_code, List.map_map] at found
  have cells : (rows.zipIdx 2).map (fun numbered => strip (numbered.1.cell "mesure_code")) =
      rows.map fun row => strip (row.cell "mesure_code") := by
    calc
      (rows.zipIdx 2).map (fun numbered => strip (numbered.1.cell "mesure_code")) =
          ((rows.zipIdx 2).map Prod.fst).map fun row => strip (row.cell "mesure_code") := by
        rw [List.map_map]
        rfl
      _ = rows.map fun row => strip (row.cell "mesure_code") := by rw [List.zipIdx_map_fst]
  exact found.trans (List.Perm.of_eq cells)

theorem domains_ne_nil_iff : (sheetOf platform header rows).domains ≠ [] ↔ rows ≠ [] := by
  constructor
  · rintro some rfl
    exact some rfl
  · intro some none
    have found : (entries (sheetOf platform header rows).domains).length = _ :=
      entries_sheetOf.length_eq
    rw [none, List.length_map, List.length_zipIdx] at found
    exact some (List.eq_nil_of_length_eq_zero found.symm)

/-- Rows that are read make a valid referential when each of them is complete and
their measures are different. -/
theorem sheetOf_valid_iff (read : RowsRead platform [] rows) :
    (sheetOf platform header rows).Valid ↔ rows ≠ [] ∧
      (∀ row ∈ rows,
        strip (row.cell "intitule_officiel") ≠ "" ∧ strip (row.cell "enonce_clair") ≠ "") ∧
      (rows.map fun row => strip (row.cell "mesure_code")).Nodup := by
  have complete : (∀ domain ∈ (sheetOf platform header rows).domains,
      ∀ measure ∈ domain.measures, measure.Complete) ↔ ∀ row ∈ rows,
        strip (row.cell "intitule_officiel") ≠ "" ∧ strip (row.cell "enonce_clair") ≠ "" := by
    rw [forall_sheetOf_iff, ← forall_mem_zipIdx_iff rows 2]
    refine forall_congr' fun numbered => imp_congr_right fun listed => ?_
    have coded := (rowReads_of_rowsRead read numbered.1 (List.fst_mem_of_mem_zipIdx listed)).code
    constructor
    · exact fun whole => ⟨whole.titled, whole.worded⟩
    · exact fun texts => ⟨coded, texts.1, texts.2⟩
  have filled : ∀ domain ∈ (sheetOf platform header rows).domains, domain.measures ≠ [] :=
    filled_foldl_addReading fun domain absent => absurd absent List.not_mem_nil
  have domains : (codesOf []).Nodup := List.nodup_nil
  constructor
  · intro valid
    exact ⟨domains_ne_nil_iff.mp valid.filled,
      complete.mp fun domain listed => (valid.complete domain listed).complete,
      codes_sheetOf.nodup_iff.mp valid.codes_nodup⟩
  · rintro ⟨some, texts, nodup⟩
    have whole := complete.mpr texts
    exact ⟨domains_ne_nil_iff.mpr some, codesOf_foldl_addReading 2 domains,
      fun domain listed => ⟨filled domain listed, whole domain listed⟩,
      codes_sheetOf.nodup_iff.mpr nodup⟩

/-- What the rows make is imported exactly when they can be. -/
theorem importable_iff : Importable platform header rows ↔
    ((∀ champ ∈ ["slug", "name", "version"],
        (Json.getOr header champ .null).isTruthy = true) ∧ RowsRead platform [] rows) ∧
      (sheetOf platform header rows).Valid := by
  constructor
  · rintro ⟨given, filled, read, complete, distinct⟩
    exact ⟨⟨given, read⟩, (sheetOf_valid_iff read).mpr ⟨filled, complete, distinct⟩⟩
  · rintro ⟨⟨given, read⟩, valid⟩
    obtain ⟨filled, complete, distinct⟩ := (sheetOf_valid_iff read).mp valid
    exact ⟨given, filled, read, complete, distinct⟩

theorem parseCsv_eq_ok_iff : parseCsv platform rows header = .ok parsed ↔
    Importable platform header rows ∧ parsed = sheetOf platform header rows := by
  rw [parseCsv, importable_iff]
  constructor
  · intro done
    obtain ⟨found, read, checked⟩ := bind_eq_ok.mp done
    obtain ⟨given, rfl⟩ := readCsv_eq_ok_iff.mp read
    obtain ⟨valid, rfl⟩ := validate_eq_ok_iff.mp checked
    exact ⟨⟨given, valid⟩, rfl⟩
  · rintro ⟨⟨given, valid⟩, rfl⟩
    exact bind_eq_ok.mpr ⟨_, readCsv_eq_ok_iff.mpr ⟨given, rfl⟩,
      validate_eq_ok_iff.mpr ⟨valid, rfl⟩⟩

/-! ## Same readings -/

/-- The measures come in the order of their lines. -/
theorem pairwise_readings (seen : List String) (line : Nat) :
    ((readings platform seen line rows).map Reading.entry).Pairwise fun first second =>
      first.2.sourceLine.getD 0 < second.2.sourceLine.getD 0 := by
  have lines : (rows.zipIdx line).Pairwise fun first second => first.2 < second.2 := by
    apply List.pairwise_map.mp
    rw [List.zipIdx_map_snd]
    exact List.pairwise_lt_range'
  rw [map_entry_readings, List.pairwise_map]
  exact lines

/-- A reading is known by its measure and by what it opens. -/
theorem reading_ext {first second : Reading} (entry : first.entry = second.entry)
    (opening : first.opening = second.opening) : first = second := by
  obtain ⟨domain, head, measure⟩ := first
  obtain ⟨domain', head', measure'⟩ := second
  obtain ⟨rfl, rfl⟩ : domain = domain' ∧ measure = measure' := Prod.mk.inj entry
  have heads : head = head' := by
    refine Option.map_injective ?_ opening
    rintro ⟨name, order⟩ ⟨name', order'⟩ same
    obtain ⟨_, sameHead⟩ := Prod.mk.inj same
    obtain ⟨sameName, sameOrder⟩ := Prod.mk.inj sameHead
    exact congrArg₂ Prod.mk (Json.str.inj sameName) sameOrder
  rw [heads]

theorem opening_readingOf (seen : List String) (row : Csv.Row) (line : Nat) :
    (readingOf platform seen row line).opening =
      if rowDomain row ∈ seen then none
      else some (rowDomain row, .str (strip (textOr (row.cell "domaine_nom") (rowDomain row))),
        orderValue seen.length (row.cell "domaine_ordre")) := by
  rw [Reading.opening, readingOf]
  split <;> rfl

/-- Which rows open a domain is known by the codes of the rows. -/
theorem readings_eq_of_entries {others : List Csv.Row} {seen : List String} {line : Nat}
    (entry : (readings platform seen line rows).map Reading.entry =
      (readings platform seen line others).map Reading.entry)
    (opening : (readings platform seen line rows).filterMap Reading.opening =
      (readings platform seen line others).filterMap Reading.opening) :
    readings platform seen line rows = readings platform seen line others := by
  induction rows generalizing others seen line with
  | nil =>
      cases others with
      | nil => rfl
      | cons other others => cases entry
  | cons row rows ih =>
      cases others with
      | nil => cases entry
      | cons other others =>
          rw [readings, readings, List.map_cons, List.map_cons, List.cons.injEq] at entry
          obtain ⟨first, later⟩ := entry
          have domain : rowDomain row = rowDomain other := (Prod.mk.inj first).1
          have next : seeDomain seen row = seeDomain seen other := by
            rw [seeDomain, seeDomain, domain]
          rw [readings, readings, List.filterMap_cons, List.filterMap_cons, opening_readingOf,
            opening_readingOf, domain] at opening
          rw [readings, readings]
          by_cases known : rowDomain other ∈ seen
          · rw [if_pos known, if_pos known, next] at opening
            rw [next] at later ⊢
            have same : readingOf platform seen row line = readingOf platform seen other line := by
              apply reading_ext first
              rw [opening_readingOf, opening_readingOf, domain, if_pos known, if_pos known]
            rw [same, ih later opening]
          · rw [if_neg known, if_neg known, next] at opening
            obtain ⟨head, opening⟩ := List.cons.inj opening
            rw [next] at later ⊢
            have same : readingOf platform seen row line = readingOf platform seen other line := by
              apply reading_ext first
              rw [opening_readingOf, opening_readingOf, domain, if_neg known, if_neg known, head]
            rw [same, ih later opening]

/-- The referential of some rows determines what each of them gives. -/
theorem readings_eq_of_sheetOf {others : List Csv.Row}
    (same : sheetOf platform header rows = sheetOf platform header others) :
    readings platform [] 2 rows = readings platform [] 2 others := by
  have domains : (readings platform [] 2 rows).foldl addReading [] =
      (readings platform [] 2 others).foldl addReading [] :=
    congrArg ParsedReferential.domains same
  have nodup : (codesOf []).Nodup := List.nodup_nil
  apply readings_eq_of_entries
  · have found : ((readings platform [] 2 rows).map Reading.entry).Perm
        ((readings platform [] 2 others).map Reading.entry) := by
      refine (entries_foldl_addReading 2 nodup).symm.trans ?_
      rw [codesOf, List.map_nil, domains]
      exact entries_foldl_addReading 2 nodup
    refine found.eq_of_pairwise (fun _ _ _ _ before after => ?_) (pairwise_readings [] 2)
      (pairwise_readings [] 2)
    exact absurd before (Nat.lt_asymm after)
  · have opened : heads ((readings platform [] 2 rows).foldl addReading []) = _ :=
      heads_foldl_addReading
    rw [domains, heads_foldl_addReading] at opened
    exact opened.symm

end Import

/-! ## The readers -/

/-- The rows that the command line cuts a file into. -/
def fileRows (content : String) : Option (List Csv.Row) :=
  (Csv.readRecords ',' (fileLines content)).toOption.map Csv.rows

/-- The rows that the console cuts a text into. -/
def consoleRows (content : String) : Option (List Csv.Row) :=
  (Csv.read (separateur content) content).toOption.map Csv.rows

/-- The rows are cut, and can be imported. -/
def ImportableRows (header : Header) (found : Option (List Csv.Row)) : Prop :=
  ∃ rows, found = some rows ∧ Importable platform header rows

/-- The rows can be imported from neither reading, or from both with the same values. -/
def ImportAlike (header : Header) (first second : Option (List Csv.Row)) : Prop :=
  ¬ ImportableRows platform header first ∧ ¬ ImportableRows platform header second ∨
    (ImportableRows platform header first ∧ ImportableRows platform header second) ∧
      first.map (readings platform [] 2) = second.map (readings platform [] 2)

/-- The command line accepts what the console finds no error in, and both give the
same referential. -/
def ReadersAgree (content path suffix : String) (header : Header) : Prop :=
  ((∃ parsed, readFile platform (some ⟨suffix, content⟩) path (some "csv") header = .ok parsed) ↔
      ∃ analyse, analyser platform content "csv" (some header) = .ok analyse ∧
        analyse.erreurs = []) ∧
    ∀ parsed analyse,
      readFile platform (some ⟨suffix, content⟩) path (some "csv") header = .ok parsed →
        analyser platform content "csv" (some header) = .ok analyse →
          analyse.parsed = some parsed

section Readers

variable {platform} {content : String} {header : Header} {rows : List Csv.Row}
  {parsed : ParsedReferential}

/-- A cell that is not empty stands under a name. -/
theorem mem_of_cell_ne {names : List String} {record : List String} {column : String}
    (given : (Csv.Row.mk (Csv.underNames names record)).cell column ≠ "") : column ∈ names := by
  by_contra absent
  have unnamed : ∀ pair ∈ (Csv.underNames names record).reverse, pair.1 ≠ column := by
    have names_eq : (Csv.underNames names record).map Prod.fst = names := by
      clear given absent
      induction names generalizing record with
      | nil => cases record <;> rfl
      | cons name names ih =>
          cases record with
          | nil => exact congrArg _ ih
          | cons cell record => exact congrArg _ ih
    intro pair listed same
    refine absent ?_
    rw [← names_eq, ← same]
    exact List.mem_map_of_mem (List.mem_reverse.mp listed)
  have missing : (Csv.underNames names record).reverse.lookup column = none := by
    rw [List.lookup_eq_none_iff]
    intro pair listed
    simpa using fun same => unnamed pair listed same.symm
  rw [Csv.Row.cell, Csv.Row.get, missing] at given
  exact given rfl

/-- Rows that are read have the required columns. -/
theorem named_of_rowReads {records : List (List String)} {row : Csv.Row}
    (listed : row ∈ Csv.rows records) (reads : RowReads platform row) :
    ["domaine_code", "mesure_code"].filter (fun column => column ∉ records.head?.getD []) = [] := by
  cases records with
  | nil => cases listed
  | cons names records =>
      obtain ⟨record, _, rfl⟩ := List.mem_map.mp listed
      have given (column : String)
          (filled : strip ((Csv.Row.mk (Csv.underNames names record)).cell column) ≠ "") :
          column ∈ names := by
        apply mem_of_cell_ne
        intro empty
        rw [empty] at filled
        exact filled rfl
      have domain := given "domaine_code" reads.domain
      have measure := given "mesure_code" reads.code
      simp [domain, measure]

theorem readCsvFile_eq_ok_iff : readCsvFile platform content header = .ok parsed ↔
    ∃ rows, fileRows content = some rows ∧ Importable platform header rows ∧
      parsed = sheetOf platform header rows := by
  rw [readCsvFile, fileRows]
  cases read : Csv.readRecords ',' (fileLines content) with
  | error message =>
      refine iff_of_false (fun done => ?_) (by rintro ⟨rows, ⟨⟩, _⟩)
      obtain ⟨names, _, done⟩ := bind_eq_ok.mp done
      dsimp only at done
      split at done
      · cases done
      · cases done
  | ok records =>
      have agreed : (∃ rows,
          (Except.ok records : Except String _).toOption.map Csv.rows = some rows ∧
            Importable platform header rows ∧ parsed = sheetOf platform header rows) ↔
          parseCsv platform (Csv.rows records) header = .ok parsed := by
        rw [parseCsv_eq_ok_iff]
        constructor
        · rintro ⟨_, ⟨⟩, importable⟩
          exact importable
        · exact fun importable => ⟨_, rfl, importable⟩
      rw [agreed, Csv.firstRecord_of_readRecords read]
      constructor
      · intro done
        obtain ⟨names, _, done⟩ := bind_eq_ok.mp done
        dsimp only at done
        split at done
        · cases done
        · exact done
      · intro done
        obtain ⟨⟨_, filled, reads, _, _⟩, _⟩ := parseCsv_eq_ok_iff.mp done
        obtain ⟨row, listed⟩ := List.exists_mem_of_ne_nil _ filled
        have named := named_of_rowReads listed (rowReads_of_rowsRead reads row listed)
        refine bind_eq_ok.mpr ⟨records.head?, rfl, ?_⟩
        dsimp only
        rw [named, if_neg (not_not.mpr rfl)]
        exact done

theorem erreursLignes_eq_nil (reads : ∀ row ∈ rows, RowReads platform row) :
    erreursLignes rows = [] := by
  rw [erreursLignes, List.filterMap_eq_nil_iff]
  intro numbered listed
  have row := reads numbered.1 (List.fst_mem_of_mem_zipIdx listed)
  have none := emptyColumns_eq_nil_iff.mpr ⟨row.domain, row.code⟩
  dsimp only
  rw [none, if_neg (not_not.mpr rfl)]

/-- The console reads a spreadsheet when its metadata are there and its rows are read. -/
theorem lire_eq_inr_iff : lire platform content "csv" header = .ok (.inr parsed) ↔
    ∃ rows, consoleRows content = some rows ∧ readCsv platform rows header = .ok parsed := by
  rw [lire, if_neg (by decide), lireLignes, consoleRows]
  cases Csv.read (separateur content) content with
  | error message => exact iff_of_false (by rintro ⟨⟩) (by rintro ⟨rows, ⟨⟩, _⟩)
  | ok records =>
      constructor
      · intro done
        obtain ⟨rows, cut, done⟩ := bind_eq_ok.mp done
        dsimp only at done
        split at done
        · cases done
        · obtain ⟨read, found, same⟩ := map_eq_ok.mp done
          cases Sum.inr.inj same
          exact ⟨rows, congrArg some (Except.ok.inj cut), found⟩
      · rintro ⟨rows, cut, done⟩
        cases cut
        have reads := rowReads_of_rowsRead (readCsv_eq_ok_iff.mp done).1.2
        refine bind_eq_ok.mpr ⟨Csv.rows records, rfl, ?_⟩
        dsimp only
        rw [erreursLignes_eq_nil reads, if_neg (not_not.mpr rfl), done]
        rfl

/-- What is refused of a file has an error. -/
theorem lire_inl_ne_nil {erreurs : List Erreur}
    (refused : lire platform content "csv" header = .ok (.inl erreurs)) : erreurs ≠ [] := by
  rw [lire, if_neg (by decide)] at refused
  obtain ⟨rows, _, done⟩ := bind_eq_ok.mp refused
  dsimp only at done
  split at done
  · rename_i some
    cases done
    exact some
  · obtain ⟨read, _, same⟩ := map_eq_ok.mp done
    cases same

theorem analyser_eq_ok_iff {analyse : Analyse} :
    (analyser platform content "csv" (some header) = .ok analyse ∧ analyse.erreurs = []) ↔
      ∃ rows, consoleRows content = some rows ∧ Importable platform header rows ∧
        analyse = ⟨[], some (apercu (sheetOf platform header rows)),
          some (sheetOf platform header rows)⟩ := by
  have accepted : (∃ rows, consoleRows content = some rows ∧ Importable platform header rows ∧
      analyse = ⟨[], some (apercu (sheetOf platform header rows)),
        some (sheetOf platform header rows)⟩) ↔
      ∃ read, lire platform content "csv" header = .ok (.inr read) ∧ read.Valid ∧
        analyse = ⟨[], some (apercu read), some read⟩ := by
    constructor
    · rintro ⟨rows, cut, importable, same⟩
      obtain ⟨given, valid⟩ := importable_iff.mp importable
      exact ⟨_, lire_eq_inr_iff.mpr ⟨rows, cut, readCsv_eq_ok_iff.mpr ⟨given, rfl⟩⟩, valid, same⟩
    · rintro ⟨read, found, valid, same⟩
      obtain ⟨rows, cut, done⟩ := lire_eq_inr_iff.mp found
      obtain ⟨given, rfl⟩ := readCsv_eq_ok_iff.mp done
      exact ⟨rows, cut, importable_iff.mpr ⟨given, valid⟩, same⟩
  rw [accepted, analyser, Option.getD_some]
  cases found : lire platform content "csv" header with
  | error fault =>
      refine iff_of_false ?_ (by rintro ⟨read, ⟨⟩, _⟩)
      cases fault with
      | refused message =>
          rintro ⟨⟨⟩, ⟨⟩⟩
      | value message => rintro ⟨⟨⟩, ⟨⟩⟩
      | uncaught exception => rintro ⟨⟨⟩, _⟩
  | ok read =>
      cases read with
      | inl erreurs =>
          refine iff_of_false ?_ (by rintro ⟨read, ⟨⟩, _⟩)
          rintro ⟨⟨⟩, none⟩
          exact lire_inl_ne_nil found none
      | inr read =>
          constructor
          · rintro ⟨⟨⟩, none⟩
            have valid := collecterErreurs_eq_nil_iff.mp none
            refine ⟨read, rfl, valid, ?_⟩
            dsimp only at none ⊢
            rw [none, if_pos rfl]
          · rintro ⟨_, ⟨⟩, valid, rfl⟩
            have none := collecterErreurs_eq_nil_iff.mpr valid
            dsimp only
            rw [none, if_pos rfl]
            exact ⟨rfl, rfl⟩

theorem readFile_csv_eq (platform : Platform) (content path suffix : String) (header : Header) :
    readFile platform (some ⟨suffix, content⟩) path (some "csv") header =
      readCsvFile platform content header := by
  rw [readFile]
  exact if_pos rfl

/-- A referential depends on its rows by what they give. -/
theorem sheetOf_congr {others : List Csv.Row}
    (same : readings platform [] 2 rows = readings platform [] 2 others) :
    sheetOf platform header rows = sheetOf platform header others := by
  rw [sheetOf, sheetOf, same]

theorem readersAgree_iff (path suffix : String) :
    ReadersAgree platform content path suffix header ↔
      ImportAlike platform header (fileRows content) (consoleRows content) := by
  have file : (∃ parsed, readFile platform (some ⟨suffix, content⟩) path (some "csv") header =
      .ok parsed) ↔ ImportableRows platform header (fileRows content) := by
    rw [readFile_csv_eq]
    constructor
    · rintro ⟨parsed, done⟩
      obtain ⟨rows, cut, importable, _⟩ := readCsvFile_eq_ok_iff.mp done
      exact ⟨rows, cut, importable⟩
    · rintro ⟨rows, cut, importable⟩
      exact ⟨_, readCsvFile_eq_ok_iff.mpr ⟨rows, cut, importable, rfl⟩⟩
  have console : (∃ analyse, analyser platform content "csv" (some header) = .ok analyse ∧
      analyse.erreurs = []) ↔ ImportableRows platform header (consoleRows content) := by
    constructor
    · rintro ⟨analyse, done⟩
      obtain ⟨rows, cut, importable, _⟩ := analyser_eq_ok_iff.mp done
      exact ⟨rows, cut, importable⟩
    · rintro ⟨rows, cut, importable⟩
      exact ⟨_, analyser_eq_ok_iff.mpr ⟨rows, cut, importable, rfl⟩⟩
  rw [ReadersAgree, ImportAlike, file, console]
  constructor
  · rintro ⟨both, same⟩
    by_cases accepted : ImportableRows platform header (fileRows content)
    · obtain ⟨rows, cut, importable⟩ := accepted
      obtain ⟨others, found, possible⟩ := both.mp ⟨rows, cut, importable⟩
      have read := readCsvFile_eq_ok_iff.mpr ⟨rows, cut, importable, rfl⟩
      have analysed := (analyser_eq_ok_iff.mpr ⟨others, found, possible, rfl⟩).1
      rw [← readFile_csv_eq platform content path suffix header] at read
      have agreed := readings_eq_of_sheetOf (Option.some.inj (same _ _ read analysed))
      refine .inr ⟨⟨⟨rows, cut, importable⟩, others, found, possible⟩, ?_⟩
      rw [cut, found, Option.map_some, Option.map_some, agreed]
    · exact .inl ⟨accepted, fun possible => accepted (both.mpr possible)⟩
  · rintro (⟨refused, impossible⟩ | ⟨⟨accepted, possible⟩, agreed⟩)
    · refine ⟨iff_of_false refused impossible, fun parsed analyse done _ => ?_⟩
      exact absurd (file.mp ⟨parsed, done⟩) refused
    · refine ⟨iff_of_true accepted possible, fun parsed analyse done analysed => ?_⟩
      rw [readFile_csv_eq] at done
      obtain ⟨rows, cut, _, rfl⟩ := readCsvFile_eq_ok_iff.mp done
      obtain ⟨others, found, importable⟩ := possible
      have whole := (analyser_eq_ok_iff.mpr ⟨others, found, importable, rfl⟩).1
      rw [cut, found, Option.map_some, Option.map_some, Option.some.injEq] at agreed
      rw [Except.ok.inj (analysed.symm.trans whole), sheetOf_congr agreed]

theorem withoutMark_of_unmarked {text : List Char}
    (unmarked : text.head? ≠ some (Char.ofNat 0xFEFF)) : withoutMark text = text := by
  cases text with
  | nil => rfl
  | cons symbol rest => exact if_neg fun same => unmarked (congrArg some same)

/-- A text without a byte order mark or a carriage return is cut alike at commas. -/
theorem fileRows_eq_consoleRows (unmarked : content.toList.head? ≠ some (Char.ofNat 0xFEFF))
    (noReturn : '\r' ∉ content.toList) (comma : separateur content = ',') :
    fileRows content = consoleRows content := by
  rw [fileRows, consoleRows, comma, Csv.read_eq, fileLines, withoutMark_of_unmarked unmarked,
    Csv.universalLines_of_noReturn noReturn]

theorem importAlike_self (found : Option (List Csv.Row)) :
    ImportAlike platform header found found := by
  by_cases importable : ImportableRows platform header found
  · exact .inr ⟨⟨importable, importable⟩, rfl⟩
  · exact .inl ⟨importable, importable⟩

/-! ## The template -/

/-- The line of the template that names the columns. -/
def modeleNames : String := ";".intercalate csvColumns

theorem toList_modeleNames :
    modeleNames.toList = [';'].intercalate (csvColumns.map String.toList) := by
  rw [modeleNames, String.toList_intercalate]
  rfl

theorem modeleNames_line : ∀ symbol ∈ modeleNames.toList, symbol ≠ '\n' ∧ symbol ≠ '\r' := by
  -- As a Boolean the check is one pass over the symbols.
  have within : modeleNames.toList.all (fun symbol => symbol != '\n' && symbol != '\r') := by
    rw [toList_modeleNames]
    decide +kernel
  intro symbol mem
  have apart := List.all_eq_true.mp within symbol mem
  rw [Bool.and_eq_true, bne_iff_ne, bne_iff_ne] at apart
  exact apart

/-- Cut at commas, the names of the template are one. -/
theorem firstRecord_modele (later : List (List Char)) :
    Csv.firstRecord ',' .reset ((modeleNames.toList ++ ['\n']) :: later) =
      .ok (some [modeleNames]) := by
  have ended : ((modeleNames.toList ++ ['\n']).map some ++ [none]).foldlM
      (Csv.Reader.processChar ',') .reset = .ok ⟨.startRecord, [], [modeleNames]⟩ := by
    rw [toList_modeleNames]
    decide +kernel
  rw [Csv.firstRecord, ended]
  rfl

/-- A copy of the template keeps its columns, whatever is filled in below. -/
theorem readCsvFile_modele (rest : String) :
    readCsvFile platform (modeleNames ++ "\n" ++ rest) header ≠ .ok parsed := by
  have cut : fileLines (modeleNames ++ "\n" ++ rest) =
      (modeleNames.toList ++ ['\n']) :: Csv.universalLines rest.toList := by
    have whole : (modeleNames ++ "\n" ++ rest).toList =
        modeleNames.toList ++ '\n' :: rest.toList := by
      rw [String.toList_append, String.toList_append, List.append_assoc]
      rfl
    have unmarked : (modeleNames.toList ++ '\n' :: rest.toList).head? ≠
        some (Char.ofNat 0xFEFF) := by
      have first : modeleNames.toList.head? = some 'd' := by decide +kernel
      rw [List.head?_append, first, Option.some_or]
      decide
    rw [fileLines, whole, withoutMark_of_unmarked unmarked]
    exact Csv.universalLines_line modeleNames_line
  rw [readCsvFile, cut, firstRecord_modele]
  rintro ⟨⟩

end Readers

/-- Both readers accept a spreadsheet and give the same referential exactly when the
rows that they cut it into can be imported alike.  So they do of a text without a
byte order mark or a carriage return that has more commas than semicolons in its
first line; and no copy of the template is accepted by the command line. -/
theorem readersAgree_iff_importAlike (platform : Platform) (content path suffix : String)
    (header : Header) :
    (ReadersAgree platform content path suffix header ↔
        ImportAlike platform header (fileRows content) (consoleRows content)) ∧
      (content.toList.head? ≠ some (Char.ofNat 0xFEFF) → '\r' ∉ content.toList →
        separateur content = ',' → ReadersAgree platform content path suffix header) ∧
      ∀ rest, content = modeleNames ++ "\n" ++ rest → ∀ parsed,
        readFile platform (some ⟨suffix, content⟩) path (some "csv") header ≠ .ok parsed := by
  refine ⟨readersAgree_iff path suffix, fun unmarked noReturn comma => ?_, ?_⟩
  · rw [readersAgree_iff, fileRows_eq_consoleRows unmarked noReturn comma]
    exact importAlike_self _
  · rintro rest rfl parsed done
    rw [readFile_csv_eq] at done
    exact readCsvFile_modele rest done

/-- The metadata that the template is tried with. -/
def modeleHeader : Header :=
  [("slug", .str "modele"), ("name", .str "Modele"), ("version", .str "1")]

/-- The line of the template that is filled in. -/
def modeleValues : List String := csvColumns.map fun colonne => (exemple.lookup colonne).getD ""

theorem toList_modeleCsv : modeleCsv.toList =
    modeleNames.toList ++ '\n' :: ([';'].intercalate (modeleValues.map String.toList) ++ ['\n']) := by
  simp only [modeleCsv, modeleNames, modeleValues, String.toList_append,
    String.toList_intercalate, List.append_assoc]
  rfl

theorem separateur_modele : separateur modeleCsv = ';' := by
  rw [separateur, Csv.firstLine, strip, toList_modeleCsv, toList_modeleNames]
  decide +kernel

/-- Cut at semicolons, the template is the row of its example. -/
theorem lireLignes_modele :
    lireLignes modeleCsv = .ok [⟨exemple.map fun cell => (cell.1, some cell.2)⟩] := by
  have records : Csv.readRecords ';' (Csv.lines modeleCsv.toList) =
      .ok [csvColumns, modeleValues] := by
    rw [toList_modeleCsv, toList_modeleNames]
    decide +kernel
  rw [lireLignes, separateur_modele, Csv.read_eq, records]
  rfl

theorem analyser_modele : ∃ analyse,
    analyser samplePlatform modeleCsv "csv" (some modeleHeader) = .ok analyse ∧
      analyse.erreurs = [] := by
  have found (outcome : Except Uncaught Analyse)
      (none : outcome.toOption.map Analyse.erreurs = some []) :
      ∃ analyse, outcome = .ok analyse ∧ analyse.erreurs = [] := by
    cases outcome with
    | error exception => cases none
    | ok analyse => exact ⟨analyse, rfl, Option.some.inj none⟩
  refine found _ ?_
  rw [analyser, lire, lireLignes_modele]
  decide +kernel

/-- The console finds no error in the template, and the command line refuses it. -/
theorem modele_read_apart :
    ¬ ReadersAgree samplePlatform modeleCsv "modele.csv" ".csv" modeleHeader := by
  intro agree
  obtain ⟨parsed, done⟩ := agree.1.mpr analyser_modele
  rw [readFile_csv_eq, modeleCsv, ← modeleNames, String.append_assoc] at done
  exact readCsvFile_modele _ done

end RssiService.Assessments.Importers
