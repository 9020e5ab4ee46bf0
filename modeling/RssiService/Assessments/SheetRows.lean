import RssiService.Assessments.UncaughtReads

/-!
# The rows of a spreadsheet

A spreadsheet is read row by row: each row gives a measure, and the first row of a
domain opens it.  What the rows give, one after the other, determines the domains
that are read and is determined by them.
-/

namespace RssiService.Assessments.Importers

open Foundation Foundation.Outcome Foundation.Traversal Python

variable (platform : Platform)

/-! ## The values of the cells -/

def weightValue (value : Json) : Float :=
  if value.isBlank then 1.0
  else
    match platform.float value with
    | .ok poids => poids
    | .error _ => nan

def choiceValue (value : Json) (default : String) : String :=
  if value.isBlank then default
  else platform.unicode.lower (strip (value.toStr platform.unicode))

def numberValue (numero : String) : Json :=
  match intOf numero with
  | some value => .int value
  | none => .null

/-- The rank that a cell gives to the domain that comes after some others. -/
def orderValue (others : Nat) (ordre : String) : Int :=
  if ordre = "" then others + 1 else (intOf ordre).getD 0

/-- A cell is empty or is an integer. -/
def CountedCell (cell : String) : Prop := cell = "" ∨ (intOf cell).isSome = true

section Values

variable {platform}

theorem float_eq_ok_iff {value : Json} {label : String} {weight : Float} :
    float platform value label = .ok weight ↔
      WeightReads platform value ∧ weight = weightValue platform value := by
  rw [float, WeightReads, weightValue]
  cases blank : value.isBlank with
  | true =>
      rw [if_pos rfl, if_pos rfl, Except.ok.injEq, eq_comm]
      exact (and_iff_right (.inl rfl)).symm
  | false =>
      rw [if_neg Bool.false_ne_true, if_neg Bool.false_ne_true, or_iff_right Bool.false_ne_true]
      cases platform.float value with
      | error fault => cases fault <;> simp
      | ok poids =>
          dsimp only
          split
          · simp_all
          · rename_i positive
            rw [Except.ok.injEq, eq_comm]
            refine (and_iff_right ⟨poids, rfl, ?_⟩).symm
            exact Bool.not_eq_true _ ▸ positive

theorem choice_eq_ok_iff {value : Json} {choices : List String}
    {default label champ valeur : String} :
    choice platform value choices default label champ = .ok valeur ↔
      Admitted platform choices value ∧ valeur = choiceValue platform value default := by
  rw [choice, Admitted, choiceValue]
  cases blank : value.isBlank with
  | true =>
      rw [if_pos rfl, if_pos rfl, Except.ok.injEq, eq_comm]
      exact (and_iff_right (.inl rfl)).symm
  | false =>
      rw [if_neg Bool.false_ne_true, if_neg Bool.false_ne_true, or_iff_right Bool.false_ne_true]
      dsimp only
      split
      · rename_i listed
        rw [Except.ok.injEq, eq_comm, and_iff_right listed]
      · rename_i unknown
        exact iff_of_false (by rintro ⟨⟩) fun both => unknown both.1

/-- What is chosen is one of the choices. -/
theorem choiceValue_mem {value : Json} {choices : List String} {default : String}
    (admitted : Admitted platform choices value) (usual : default ∈ choices) :
    choiceValue platform value default ∈ choices := by
  rw [choiceValue]
  rcases admitted with blank | listed
  · rwa [if_pos blank]
  · split
    · exact usual
    · exact listed

theorem intOfText_eq_ok_iff {unicode : Unicode} {text : String} {value : Int} :
    Json.intOfText unicode text = .ok value ↔ intOf text = some value := by
  rw [Json.intOfText, intOf]
  cases numeral text with
  | none => simp
  | some written =>
      rw [Option.bind_some]
      dsimp only
      split <;> simp

theorem cellNumber_eq_ok_iff {numero : String} {number : Json} :
    cellNumber platform numero = .ok number ↔
      CountedCell numero ∧ number = numberValue numero := by
  rw [cellNumber, CountedCell, numberValue]
  split
  · rename_i empty
    have unread : intOf numero = none := by
      rw [empty]
      rfl
    rw [Except.ok.injEq, eq_comm, unread]
    exact (and_iff_right (.inl empty)).symm
  · rename_i given
    rw [or_iff_right given, raising, map_eq_ok]
    simp only [mapError_eq_ok_iff, intOfText_eq_ok_iff]
    cases intOf numero <;> simp [eq_comm]

theorem cellOrder_eq_ok_iff {ordre : String} {others : Nat} {order : Int} :
    cellOrder platform ordre others = .ok order ↔
      CountedCell ordre ∧ order = orderValue others ordre := by
  rw [cellOrder, CountedCell, orderValue]
  split
  · rename_i empty
    rw [Except.ok.injEq, eq_comm]
    exact (and_iff_right (.inl empty)).symm
  · rename_i given
    rw [or_iff_right given, raising, mapError_eq_ok_iff, intOfText_eq_ok_iff]
    cases intOf ordre <;> simp [eq_comm]

end Values

/-! ## One row -/

/-- The code of the domain of a row. -/
def rowDomain (row : Csv.Row) : String := strip (row.cell "domaine_code")

/-- The measure that a row gives. -/
def rowMeasure (row : Csv.Row) (line : Nat) : ParsedMeasure where
  code := strip (row.cell "mesure_code")
  officialTitle := strip (row.cell "intitule_officiel")
  plainLanguage := strip (row.cell "enonce_clair")
  number := numberValue (strip (row.cell "mesure_numero"))
  level := .str (strip (row.cell "niveau"))
  weight := weightValue platform (field row "poids")
  effort := choiceValue platform (field row "effort") defaultEffort
  impact := choiceValue platform (field row "impact") defaultImpact
  effortImpactDisclaimer := true
  sourceLine := some line

/-- The row names its domain and its measure, and its values are read. -/
structure RowReads (row : Csv.Row) : Prop where
  domain : rowDomain row ≠ ""
  code : strip (row.cell "mesure_code") ≠ ""
  number : CountedCell (strip (row.cell "mesure_numero"))
  weight : WeightReads platform (field row "poids")
  effort : Admitted platform gradeValues (field row "effort")
  impact : Admitted platform gradeValues (field row "impact")

/-- What a row gives; the first of a domain also gives its name and its rank. -/
structure Reading where
  domain : String
  head : Option (String × Int)
  measure : ParsedMeasure

/-- The codes that the rows have given, with the one of a further row. -/
def seeDomain (seen : List String) (row : Csv.Row) : List String :=
  if rowDomain row ∈ seen then seen else seen ++ [rowDomain row]

def readingOf (seen : List String) (row : Csv.Row) (line : Nat) : Reading where
  domain := rowDomain row
  head :=
    if rowDomain row ∈ seen then none
    else some (strip (textOr (row.cell "domaine_nom") (rowDomain row)),
      orderValue seen.length (row.cell "domaine_ordre"))
  measure := rowMeasure platform row line

def readings (seen : List String) (line : Nat) : List Csv.Row → List Reading
  | [] => []
  | row :: rest =>
      readingOf platform seen row line :: readings (seeDomain seen row) (line + 1) rest

/-- All the rows are read. -/
def RowsRead (seen : List String) : List Csv.Row → Prop
  | [] => True
  | row :: rest =>
      (RowReads platform row ∧
        (rowDomain row ∉ seen → CountedCell (row.cell "domaine_ordre"))) ∧
      RowsRead (seeDomain seen row) rest

/-- The domains with the one that a reading opens. -/
def openReading (domains : List ParsedDomain) (reading : Reading) : List ParsedDomain :=
  match reading.head with
  | none => domains
  | some (name, order) =>
      domains ++ [{
        code := reading.domain
        name := .str name
        order
        description := .str ""
        measures := [] }]

def addReading (domains : List ParsedDomain) (reading : Reading) : List ParsedDomain :=
  appendMeasure (openReading domains reading) reading.domain reading.measure

def codesOf (domains : List ParsedDomain) : List String := domains.map ParsedDomain.code

section Rows

variable {platform} {domains after : List ParsedDomain} {row : Csv.Row} {line : Nat}

theorem emptyColumns_eq_nil_iff : emptyColumns row = [] ↔
    rowDomain row ≠ "" ∧ strip (row.cell "mesure_code") ≠ "" := by
  rw [emptyColumns, List.filter_eq_nil_iff, rowDomain]
  simp

theorem parseCells_eq_ok_iff {measure : ParsedMeasure} :
    parseCells platform row line = .ok measure ↔
      (CountedCell (strip (row.cell "mesure_numero")) ∧ WeightReads platform (field row "poids") ∧
        Admitted platform gradeValues (field row "effort") ∧
        Admitted platform gradeValues (field row "impact")) ∧
      measure = rowMeasure platform row line := by
  rw [parseCells]
  constructor
  · intro done
    obtain ⟨number, counted, done⟩ := bind_eq_ok.mp done
    obtain ⟨weight, weighed, done⟩ := bind_eq_ok.mp done
    obtain ⟨effort, chosen, done⟩ := bind_eq_ok.mp done
    obtain ⟨impact, chosen', done⟩ := bind_eq_ok.mp done
    obtain ⟨numberReads, sameNumber⟩ := cellNumber_eq_ok_iff.mp counted
    obtain ⟨weightReads, sameWeight⟩ := float_eq_ok_iff.mp weighed
    obtain ⟨effortAdmitted, sameEffort⟩ := choice_eq_ok_iff.mp chosen
    obtain ⟨impactAdmitted, sameImpact⟩ := choice_eq_ok_iff.mp chosen'
    refine ⟨⟨numberReads, weightReads, effortAdmitted, impactAdmitted⟩, ?_⟩
    rw [← Except.ok.inj done, sameNumber, sameWeight, sameEffort, sameImpact]
    rfl
  · rintro ⟨⟨number, weight, effort, impact⟩, rfl⟩
    rw [cellNumber_eq_ok_iff.mpr ⟨number, rfl⟩, float_eq_ok_iff.mpr ⟨weight, rfl⟩,
      choice_eq_ok_iff.mpr ⟨effort, rfl⟩, choice_eq_ok_iff.mpr ⟨impact, rfl⟩]
    rfl

theorem any_code_iff {code : String} :
    (domains.any fun domain => domain.code = code) = true ↔ code ∈ codesOf domains := by
  rw [List.any_eq_true, codesOf, List.mem_map]
  simp

theorem openDomain_eq_ok_iff (line : Nat) :
    openDomain platform domains row (rowDomain row) = .ok after ↔
      (rowDomain row ∉ codesOf domains → CountedCell (row.cell "domaine_ordre")) ∧
        after = openReading domains (readingOf platform (codesOf domains) row line) := by
  rw [openDomain, openReading, readingOf]
  by_cases seen : rowDomain row ∈ codesOf domains
  · rw [if_pos (any_code_iff.mpr seen), if_pos seen, Except.ok.injEq, eq_comm]
    exact (and_iff_right fun unseen => absurd seen unseen).symm
  · rw [if_neg fun known => seen (any_code_iff.mp known), if_neg seen, forall_prop_of_true seen]
    constructor
    · intro done
      obtain ⟨order, ranked, done⟩ := bind_eq_ok.mp done
      obtain ⟨counted, rfl⟩ := cellOrder_eq_ok_iff.mp ranked
      refine ⟨counted, (Except.ok.inj done).symm.trans ?_⟩
      rw [codesOf, List.length_map]
    · rintro ⟨counted, rfl⟩
      refine bind_eq_ok.mpr ⟨_, cellOrder_eq_ok_iff.mpr ⟨counted, rfl⟩, ?_⟩
      rw [codesOf, List.length_map]
      rfl

theorem parseRow_eq_ok_iff :
    parseRow platform domains (row, line) = .ok after ↔
      (RowReads platform row ∧
        (rowDomain row ∉ codesOf domains → CountedCell (row.cell "domaine_ordre"))) ∧
      after = addReading domains (readingOf platform (codesOf domains) row line) := by
  rw [parseRow]
  dsimp only
  split
  · rename_i empty
    refine iff_of_false (by rintro ⟨⟩) ?_
    rintro ⟨⟨reads, _⟩, _⟩
    exact empty (emptyColumns_eq_nil_iff.mpr ⟨reads.domain, reads.code⟩)
  · rename_i named
    have named := emptyColumns_eq_nil_iff.mp (not_not.mp named)
    constructor
    · intro done
      obtain ⟨opened, opens, done⟩ := bind_eq_ok.mp done
      obtain ⟨measure, cells, done⟩ := bind_eq_ok.mp done
      obtain ⟨ranked, rfl⟩ := (openDomain_eq_ok_iff line).mp opens
      obtain ⟨⟨number, weight, effort, impact⟩, rfl⟩ := parseCells_eq_ok_iff.mp cells
      exact ⟨⟨⟨named.1, named.2, number, weight, effort, impact⟩, ranked⟩,
        (Except.ok.inj done).symm⟩
    · rintro ⟨⟨reads, ranked⟩, rfl⟩
      have cells : parseCells platform row line = .ok (rowMeasure platform row line) :=
        parseCells_eq_ok_iff.mpr ⟨⟨reads.number, reads.weight, reads.effort, reads.impact⟩, rfl⟩
      refine bind_eq_ok.mpr ⟨_, (openDomain_eq_ok_iff line).mpr ⟨ranked, rfl⟩, ?_⟩
      rw [cells]
      rfl

theorem codesOf_appendMeasure {code : String} {measure : ParsedMeasure} :
    codesOf (appendMeasure domains code measure) = codesOf domains := by
  rw [codesOf, appendMeasure, List.map_map]
  refine List.map_congr_left fun domain _ => ?_
  rw [Function.comp_apply]
  split <;> rfl

theorem codesOf_openReading :
    codesOf (openReading domains (readingOf platform (codesOf domains) row line)) =
      seeDomain (codesOf domains) row := by
  rw [openReading, readingOf, seeDomain]
  by_cases seen : rowDomain row ∈ codesOf domains
  · rw [if_pos seen, if_pos seen]
  · rw [if_neg seen, if_neg seen]
    exact List.map_append

theorem codesOf_addReading :
    codesOf (addReading domains (readingOf platform (codesOf domains) row line)) =
      seeDomain (codesOf domains) row := by
  rw [addReading, codesOf_appendMeasure, codesOf_openReading]

/-- All the rows, one after the other. -/
theorem foldlM_parseRow_eq_ok_iff {rows : List Csv.Row} :
    (rows.zipIdx line).foldlM (parseRow platform) domains = .ok after ↔
      RowsRead platform (codesOf domains) rows ∧
        after = (readings platform (codesOf domains) line rows).foldl addReading domains := by
  induction rows generalizing domains line with
  | nil =>
      rw [RowsRead, true_and]
      exact ⟨fun done => (Except.ok.inj done).symm, fun same => congrArg Except.ok same.symm⟩
  | cons row rest ih =>
      rw [List.zipIdx_cons, List.foldlM_cons, RowsRead, readings, List.foldl_cons]
      constructor
      · intro done
        obtain ⟨next, step, later⟩ := bind_eq_ok.mp done
        obtain ⟨reads, rfl⟩ := parseRow_eq_ok_iff.mp step
        obtain ⟨readRest, whole⟩ := ih.mp later
        rw [codesOf_addReading] at readRest whole
        exact ⟨⟨reads, readRest⟩, whole⟩
      · rintro ⟨⟨reads, readRest⟩, whole⟩
        refine bind_eq_ok.mpr ⟨_, parseRow_eq_ok_iff.mpr ⟨reads, rfl⟩, ih.mpr ?_⟩
        rw [codesOf_addReading]
        exact ⟨readRest, whole⟩

end Rows

/-! ## The domains of a spreadsheet -/

/-- The measures of some domains, each with the code of its domain. -/
def entries (domains : List ParsedDomain) : List (String × ParsedMeasure) :=
  domains.flatMap fun domain => domain.measures.map (domain.code, ·)

def Reading.entry (reading : Reading) : String × ParsedMeasure := (reading.domain, reading.measure)

/-- What stands of the domains before their measures. -/
def heads (domains : List ParsedDomain) : List (String × Json × Int) :=
  domains.map fun domain => (domain.code, domain.name, domain.order)

def Reading.opening (reading : Reading) : Option (String × Json × Int) :=
  reading.head.map fun head => (reading.domain, .str head.1, head.2)

section Domains

variable {platform} {domains : List ParsedDomain} {row : Csv.Row} {line : Nat}

theorem entries_cons (domain : ParsedDomain) (rest : List ParsedDomain) :
    entries (domain :: rest) = domain.measures.map (domain.code, ·) ++ entries rest :=
  List.flatMap_cons

theorem appendMeasure_of_absent {code : String} {measure : ParsedMeasure}
    (absent : code ∉ codesOf domains) : appendMeasure domains code measure = domains := by
  refine (List.map_congr_left fun domain listed => ?_).trans (List.map_id domains)
  exact if_neg fun same => absent (List.mem_map.mpr ⟨domain, listed, same⟩)

/-- A measure goes to the one domain of its code. -/
theorem entries_appendMeasure {code : String} {measure : ParsedMeasure}
    (nodup : (codesOf domains).Nodup) (known : code ∈ codesOf domains) :
    (entries (appendMeasure domains code measure)).Perm (entries domains ++ [(code, measure)]) := by
  induction domains with
  | nil => cases known
  | cons domain rest ih =>
      have apart := List.nodup_cons.mp nodup
      by_cases same : domain.code = code
      · have others : appendMeasure rest code measure = rest :=
          appendMeasure_of_absent (same ▸ apart.1)
        have first : entries (appendMeasure (domain :: rest) code measure) =
            domain.measures.map (domain.code, ·) ++ ((code, measure) :: entries rest) := by
          rw [appendMeasure, List.map_cons, if_pos same, ← appendMeasure, others, entries_cons,
            List.map_append, List.append_assoc, ← same]
          rfl
        rw [first, entries_cons, List.append_assoc]
        exact (List.perm_append_singleton _ _).symm.append_left _
      · have later : code ∈ codesOf rest :=
          (List.mem_cons.mp known).resolve_left fun equal => same equal.symm
        have first : entries (appendMeasure (domain :: rest) code measure) =
            domain.measures.map (domain.code, ·) ++ entries (appendMeasure rest code measure) := by
          rw [appendMeasure, List.map_cons, if_neg same, ← appendMeasure, entries_cons]
        rw [first, entries_cons, List.append_assoc]
        exact (ih apart.2 later).append_left _

theorem nodup_seeDomain {seen : List String} (nodup : seen.Nodup) : (seeDomain seen row).Nodup := by
  rw [seeDomain]
  split
  · exact nodup
  · rename_i unseen
    rw [List.nodup_append]
    refine ⟨nodup, List.nodup_singleton _, ?_⟩
    rintro code inside other isLast rfl
    exact unseen (List.mem_singleton.mp isLast ▸ inside)

theorem mem_seeDomain {seen : List String} : rowDomain row ∈ seeDomain seen row := by
  rw [seeDomain]
  split
  · assumption
  · exact List.mem_append_right _ (List.mem_singleton_self _)

theorem entries_openReading {reading : Reading} :
    entries (openReading domains reading) = entries domains := by
  rw [openReading]
  split
  · rfl
  · rw [entries, List.flatMap_append]
    exact List.append_nil _

theorem entries_addReading (nodup : (codesOf domains).Nodup) :
    (entries (addReading domains (readingOf platform (codesOf domains) row line))).Perm
      (entries domains ++ [(rowDomain row, rowMeasure platform row line)]) := by
  have same : entries (openReading domains (readingOf platform (codesOf domains) row line)) =
      entries domains := entries_openReading
  rw [← same]
  apply entries_appendMeasure
  · rw [codesOf_openReading]
    exact nodup_seeDomain nodup
  · rw [codesOf_openReading]
    exact mem_seeDomain

theorem heads_addReading {reading : Reading} :
    heads (addReading domains reading) = heads domains ++ reading.opening.toList := by
  have kept (others : List ParsedDomain) (code : String) (measure : ParsedMeasure) :
      heads (appendMeasure others code measure) = heads others := by
    rw [heads, appendMeasure, List.map_map]
    refine List.map_congr_left fun domain _ => ?_
    rw [Function.comp_apply]
    split <;> rfl
  rw [addReading, kept, openReading, Reading.opening]
  cases reading.head with
  | none => exact (List.append_nil _).symm
  | some head => exact List.map_append

/-- The measures of the domains are those of the rows. -/
theorem entries_foldl_addReading {rows : List Csv.Row} (line : Nat)
    (nodup : (codesOf domains).Nodup) :
    (entries ((readings platform (codesOf domains) line rows).foldl addReading domains)).Perm
      (entries domains ++ (readings platform (codesOf domains) line rows).map Reading.entry) := by
  induction rows generalizing domains line with
  | nil => exact List.Perm.of_eq (List.append_nil _).symm
  | cons row rest ih =>
      have next : (codesOf (addReading domains
          (readingOf platform (codesOf domains) row line))).Nodup :=
        codesOf_addReading ▸ nodup_seeDomain nodup
      have later := ih (line + 1) next
      rw [codesOf_addReading] at later
      refine later.trans ?_
      rw [readings, List.map_cons]
      refine ((entries_addReading nodup).append_right _).trans ?_
      rw [List.append_assoc]
      rfl

/-- The domains are those that the rows open, in order. -/
theorem heads_foldl_addReading {found : List Reading} :
    heads (found.foldl addReading domains) = heads domains ++ found.filterMap Reading.opening := by
  induction found generalizing domains with
  | nil => exact (List.append_nil _).symm
  | cons reading rest ih =>
      rw [List.foldl_cons, ih, heads_addReading, List.append_assoc, List.filterMap_cons]
      cases reading.opening <;> rfl

theorem codesOf_foldl_addReading {rows : List Csv.Row} (line : Nat)
    (nodup : (codesOf domains).Nodup) :
    (codesOf ((readings platform (codesOf domains) line rows).foldl addReading domains)).Nodup := by
  induction rows generalizing domains line with
  | nil => exact nodup
  | cons row rest ih =>
      have next : (codesOf (addReading domains
          (readingOf platform (codesOf domains) row line))).Nodup :=
        codesOf_addReading ▸ nodup_seeDomain nodup
      have later := ih (line + 1) next
      rwa [codesOf_addReading] at later

/-- A domain is opened with the measure of its row. -/
theorem filled_addReading {reading : Reading} (filled : ∀ domain ∈ domains, domain.measures ≠ []) :
    ∀ domain ∈ addReading domains reading, domain.measures ≠ [] := by
  intro domain listed
  obtain ⟨source, opened, rfl⟩ := List.mem_map.mp listed
  split
  · exact List.append_ne_nil_of_right_ne_nil _ (List.cons_ne_nil _ _)
  · rename_i other
    rw [openReading] at opened
    split at opened
    · exact filled source opened
    · rcases List.mem_append.mp opened with old | new
      · exact filled source old
      · rw [List.mem_singleton.mp new] at other
        exact absurd rfl other

theorem filled_foldl_addReading {found : List Reading}
    (filled : ∀ domain ∈ domains, domain.measures ≠ []) :
    ∀ domain ∈ found.foldl addReading domains, domain.measures ≠ [] := by
  induction found generalizing domains with
  | nil => exact filled
  | cons reading rest ih => exact ih (filled_addReading filled)

end Domains

end RssiService.Assessments.Importers
