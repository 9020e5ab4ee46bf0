import RssiService.Assessments.ImportChecks
import RssiService.Assessments.SettledScopes
import RssiService.Foundation.Repetition

/-!
# Importing a file again

An import writes a referential, its domains and its measures, each under its own
code, in one transaction.  The second import of a file finds every row as the first
one left it.
-/

namespace RssiService.Assessments

open Foundation Foundation.Outcome Foundation.Repetition Foundation.Traversal Python

/-! ## The columns -/

/-- What the store raises of a value that a column does not take. -/
structure DataError where
  message : String
  deriving DecidableEq, Repr

/-- What the columns store of the values of a file, the codes apart, which are stored
as they are. -/
structure Columns where
  referential : Importers.ParsedReferential → Except DataError ReferentialSheet
  domain : Importers.ParsedDomain → Except DataError (String × String × Nat)
  measure : Importers.ParsedMeasure → Except DataError MeasureSheet

variable (columns : Columns) (unicode : Unicode)

def Columns.storedMeasure (mesure : Importers.ParsedMeasure) : Except DataError ParsedMeasure :=
  (columns.measure mesure).map fun sheet => ⟨mesure.code, sheet⟩

def Columns.storedDomain (domaine : Importers.ParsedDomain) : Except DataError ParsedDomain := do
  let (name, description, order) ← columns.domain domaine
  let measures ← domaine.measures.mapM columns.storedMeasure
  return { code := domaine.code, name, order, description, measures }

/-- The file as its rows are stored; the slug is looked up as a text. -/
def Columns.stored (parsed : Importers.ParsedReferential) :
    Except DataError ParsedReferential := do
  let sheet ← columns.referential parsed
  let domains ← parsed.domains.mapM columns.storedDomain
  return { slug := parsed.slug.toStr unicode, sheet, domains }

/-! ## Imports -/

inductive ImportFailure where
  | refused (error : ReferentialImportError)
  | store (error : DataError)
  deriving DecidableEq, Repr

/-- The referential of a slug has another owner. -/
def Database.ownedByOther (db : Database) (slug : String) (ownerTenant : Option Nat) : Bool :=
  (db.referentials.rows.find? fun row => row.slug = slug).any fun row =>
    row.ownerTenant ≠ ownerTenant

/-- The owner is looked at before anything is written, so before the store raises. -/
def importParsed (db : Database) (parsed : Importers.ParsedReferential) (activate : Bool)
    (ownerTenant : Option Nat) : Except ImportFailure (Database × ImportReport) :=
  match columns.stored unicode parsed with
  | .ok stored => (importReferential db stored activate ownerTenant).mapError .refused
  | .error error =>
      let slug := parsed.slug.toStr unicode
      if db.ownedByOther slug ownerTenant then
        .error (.refused (.refused
          ("Le référentiel « " ++ slug ++ " » appartient à un autre propriétaire : " ++
            "il ne peut pas être remplacé par cet import.")))
      else .error (.store error)

/-- `import_referential`: a failure takes back what the transaction wrote. -/
def importAtomically (db : Database) (parsed : Importers.ParsedReferential) (activate : Bool)
    (ownerTenant : Option Nat) : Database × Except ImportFailure ImportReport :=
  match importParsed columns unicode db parsed activate ownerTenant with
  | .error failure => (db, .error failure)
  | .ok (after, report) => (after, .ok report)

/-- What an import did: it made or changed each measure of the file, kept the others,
and left the answers alone. -/
structure Imports (before after : Database) (parsed : Importers.ParsedReferential)
    (report : ImportReport) : Prop where
  counted : report.created + report.updated = parsed.measureCount
  measures : report.measures = parsed.measureCount
  grown : after.measures.rows.length = before.measures.rows.length + report.created
  kept : ∀ row ∈ before.measures, ∃ other ∈ after.measures, other.id = row.id ∧
    other.referential = row.referential ∧ other.code = row.code
  orphans : ∀ code, code ∈ report.orphans ↔
    (∃ row ∈ before.measures, row.referential = report.referential.id ∧ row.code = code) ∧
      code ∉ parsed.codes
  orphans_nodup : report.orphans.Nodup
  answers : after.answers = before.answers

/-! ## One write -/

theorem Database.with_measures (db : Database) {measures : Table Measure}
    (same : measures = db.measures)
    (listed : ∀ item ∈ db.items, ∃ measure ∈ measures, ident measure = item.measure) :
    { db with measures, listed } = db := by
  subst same
  rfl

theorem Database.with_domains (db : Database) {domains : Table Domain}
    (same : domains = db.domains) : { db with domains } = db := by
  subst same
  rfl

theorem Database.with_referentials (db : Database) {referentials : Table Referential}
    (same : referentials = db.referentials)
    (assessed : ∀ assessment ∈ db.assessments,
      ∃ row ∈ referentials, ident row = assessment.referential) :
    { db with referentials, assessed } = db := by
  subst same
  rfl

section Writes

variable {db : Database} {referential domain : Nat}

/-- The domain of a referential under a code. -/
def Database.domainOf? (db : Database) (referential : Nat) (code : String) : Option Domain :=
  db.domains.rows.find? fun row => row.referential = referential && row.code = code

/-- One measure, written. -/
def writeMeasure (referential domain : Nat) (db : Database) (ranked : ParsedMeasure × Nat) :
    Database :=
  (db.importMeasure referential domain ranked.2 ranked.1).1

/-- The measure is as the file has it. -/
def HoldsMeasure (referential domain : Nat) (ranked : ParsedMeasure × Nat) (db : Database) :
    Prop :=
  ∃ row, db.measureOf? referential ranked.1.code = some row ∧ row.domain = domain ∧
    row.order = ranked.2 ∧ row.sheet = ranked.1.sheet

theorem holdsMeasure_writeMeasure (db : Database) (ranked : ParsedMeasure × Nat) :
    HoldsMeasure referential domain ranked (writeMeasure referential domain db ranked) := by
  refine ⟨_, Table.search_updateOrCreate _ (fun _ => rfl) (fun _ => by simp), ?_⟩
  rw [Table.written]
  split
  · exact ⟨rfl, rfl, rfl⟩
  · exact ⟨rfl, rfl, rfl⟩

theorem measureOf?_writeMeasure {ranked : ParsedMeasure × Nat} {code : String}
    (apart : code ≠ ranked.1.code) :
    (writeMeasure referential domain db ranked).measureOf? referential code =
      db.measureOf? referential code := by
  refine Table.search_updateOrCreate_of_unseen ?_ ?_ ?_
  · intro row chosen
    simp only [Bool.and_eq_true, decide_eq_true_eq] at chosen
    simp [chosen.2, apart.symm]
  · intro row chosen
    simp only [Bool.and_eq_true, decide_eq_true_eq] at chosen
    simp [chosen.2, apart.symm]
  · intro key
    simp [apart.symm]

theorem HoldsMeasure.writeMeasure {ranked other : ParsedMeasure × Nat} {elsewhere : Nat}
    (apart : ranked.1.code ≠ other.1.code) (holds : HoldsMeasure referential domain ranked db) :
    HoldsMeasure referential domain ranked (writeMeasure referential elsewhere db other) := by
  rw [HoldsMeasure, measureOf?_writeMeasure apart]
  exact holds

theorem writeMeasure_eq_self (db : Database) {ranked : ParsedMeasure × Nat}
    (holds : HoldsMeasure referential domain ranked db) :
    writeMeasure referential domain db ranked = db := by
  obtain ⟨row, found, rfl, rank, sheet⟩ := holds
  refine db.with_measures ?_ _
  refine Table.updateOrCreate_eq_self found ?_
  rw [← rank, ← sheet]

/-- The measures of a domain, written in the order of the file. -/
def writeMeasures (referential domain : Nat) (db : Database) (parsed : ParsedDomain) : Database :=
  (parsed.measures.zipIdx 1).foldl (writeMeasure referential domain) db

/-- One domain with its measures, written. -/
def writeDomain (referential : Nat) (db : Database) (parsed : ParsedDomain) : Database :=
  writeMeasures referential (db.saveDomain referential parsed).2.id
    (db.saveDomain referential parsed).1 parsed

/-- The domain and its measures are as the file has them. -/
def HoldsDomain (referential : Nat) (parsed : ParsedDomain) (db : Database) : Prop :=
  ∃ row, db.domainOf? referential parsed.code = some row ∧
    (row.name = parsed.name ∧ row.description = parsed.description ∧ row.order = parsed.order) ∧
    ∀ ranked ∈ parsed.measures.zipIdx 1, HoldsMeasure referential row.id ranked db

def ParsedDomain.codes (parsed : ParsedDomain) : List String :=
  parsed.measures.map ParsedMeasure.code

/-- The domains have different codes, and no measure in common. -/
def ParsedDomain.Apart (first second : ParsedDomain) : Prop :=
  first.code ≠ second.code ∧ List.Disjoint first.codes second.codes

theorem domains_writeMeasures (parsed : ParsedDomain) :
    (writeMeasures referential domain db parsed).domains = db.domains := by
  rw [writeMeasures]
  generalize parsed.measures.zipIdx 1 = ranked
  induction ranked generalizing db with
  | nil => rfl
  | cons first rest ih => exact ih

theorem domainOf?_writeDomain (db : Database) (parsed : ParsedDomain) (code : String) :
    (writeDomain referential db parsed).domainOf? referential code =
      (db.saveDomain referential parsed).1.domainOf? referential code := by
  rw [Database.domainOf?, writeDomain, domains_writeMeasures]
  rfl

theorem domainOf?_saveDomain (db : Database) (parsed : ParsedDomain) :
    (db.saveDomain referential parsed).1.domainOf? referential parsed.code =
      some (db.saveDomain referential parsed).2 :=
  Table.search_updateOrCreate _ (fun _ => rfl) fun _ => by simp

theorem domainOf?_saveDomain_of_ne {parsed : ParsedDomain} {code : String}
    (apart : code ≠ parsed.code) :
    (db.saveDomain referential parsed).1.domainOf? referential code =
      db.domainOf? referential code := by
  refine Table.search_updateOrCreate_of_unseen ?_ ?_ ?_
  · intro row chosen
    simp only [Bool.and_eq_true, decide_eq_true_eq] at chosen
    simp [chosen.2, apart.symm]
  · intro row chosen
    simp only [Bool.and_eq_true, decide_eq_true_eq] at chosen
    simp [chosen.2, apart.symm]
  · intro key
    simp [apart.symm]

theorem holdsDomain_writeDomain (db : Database) {parsed : ParsedDomain}
    (nodup : parsed.codes.Nodup) :
    HoldsDomain referential parsed (writeDomain referential db parsed) := by
  refine ⟨(db.saveDomain referential parsed).2, ?_, ?_, ?_⟩
  · rw [domainOf?_writeDomain, domainOf?_saveDomain]
  · rw [Database.saveDomain, Table.written]
    split
    · exact ⟨rfl, rfl, rfl⟩
    · exact ⟨rfl, rfl, rfl⟩
  · have apart : (parsed.measures.zipIdx 1).Pairwise fun first second =>
        first.1.code ≠ second.1.code := by
      have codes : ((parsed.measures.zipIdx 1).map fun ranked => ranked.1.code) = parsed.codes := by
        rw [ParsedDomain.codes, ← List.zipIdx_map_fst 1 parsed.measures, List.map_map]
        simp
      rw [← codes] at nodup
      exact List.pairwise_map.mp nodup
    exact marks_foldl (fun state ranked _ => holdsMeasure_writeMeasure state ranked)
      (fun _ _ apart _ holds => holds.writeMeasure apart) apart _

theorem HoldsDomain.writeDomain {parsed other : ParsedDomain} (apart : parsed.Apart other)
    (holds : HoldsDomain referential parsed db) :
    HoldsDomain referential parsed (writeDomain referential db other) := by
  obtain ⟨row, found, head, measures⟩ := holds
  refine ⟨row, ?_, head, fun ranked listed => ?_⟩
  · rw [domainOf?_writeDomain, domainOf?_saveDomain_of_ne apart.1, found]
  · have saved : HoldsMeasure referential row.id ranked (db.saveDomain referential other).1 :=
      measures ranked listed
    refine mark_foldl (fun state later given holds => holds.writeMeasure fun same => ?_) saved
    have mine : ranked.1.code ∈ parsed.codes :=
      List.mem_map_of_mem (List.fst_mem_of_mem_zipIdx listed)
    have theirs : later.1.code ∈ other.codes :=
      List.mem_map_of_mem (List.fst_mem_of_mem_zipIdx given)
    exact apart.2 mine (same ▸ theirs)

theorem writeDomain_eq_self (db : Database) {parsed : ParsedDomain}
    (holds : HoldsDomain referential parsed db) : writeDomain referential db parsed = db := by
  obtain ⟨row, found, ⟨name, description, order⟩, measures⟩ := holds
  have saved : db.saveDomain referential parsed = (db, row) := by
    have unchanged : { row with
        name := parsed.name, description := parsed.description, order := parsed.order } = row := by
      rw [← name, ← description, ← order]
    refine Prod.ext (db.with_domains ?_) ?_
    · exact Table.updateOrCreate_eq_self found unchanged
    · rw [Database.saveDomain]
      dsimp only
      rw [Table.written, ← Database.domainOf?, found]
      exact unchanged
  rw [writeDomain, saved]
  exact foldl_eq_self (fun state ranked holds => writeMeasure_eq_self state holds) measures

end Writes

/-! ## The run -/

/-- The writes of an import, from the row of the referential on. -/
def importRun (db : Database) (parsed : ParsedReferential) (activate : Bool)
    (ownerTenant : Option Nat) : Importing :=
  let (saved, referential) := db.saveReferential parsed ownerTenant activate
  parsed.domains.foldl (Importing.domain referential.id) { db := saved, created := 0, updated := 0 }

/-- The codes of a referential that a file leaves out. -/
def Database.orphans (db : Database) (referential : Nat) (parsed : ParsedReferential) :
    List String :=
  let knownBefore := (db.measures.rows.filter fun row => row.referential = referential).map
    Measure.code
  let seen := parsed.domains.flatMap fun domain => domain.measures.map ParsedMeasure.code
  (knownBefore.filter (· ∉ seen)).dedup.mergeSort

def importReport (db : Database) (parsed : ParsedReferential) (activate : Bool)
    (ownerTenant : Option Nat) : ImportReport :=
  let referential := (db.saveReferential parsed ownerTenant activate).2
  { referential
    domains := parsed.domains.length
    measures := parsed.measureCount
    created := (importRun db parsed activate ownerTenant).created
    updated := (importRun db parsed activate ownerTenant).updated
    orphans := db.orphans referential.id parsed }

theorem importReferential_eq (db : Database) (parsed : ParsedReferential) (activate : Bool)
    (ownerTenant : Option Nat) :
    importReferential db parsed activate ownerTenant =
      if db.ownedByOther parsed.slug ownerTenant then
        .error (.refused
          ("Le référentiel « " ++ parsed.slug ++ " » appartient à un autre propriétaire : " ++
            "il ne peut pas être remplacé par cet import."))
      else
        .ok ((importRun db parsed activate ownerTenant).db,
          importReport db parsed activate ownerTenant) := rfl

section Runs

variable {referential : Nat}

theorem db_measures (domain : Nat) (state : Importing) (ranked : List (ParsedMeasure × Nat)) :
    (ranked.foldl (Importing.measure referential domain) state).db =
      ranked.foldl (writeMeasure referential domain) state.db := by
  induction ranked generalizing state with
  | nil => rfl
  | cons first rest ih => exact ih _

theorem db_domains (state : Importing) (domains : List ParsedDomain) :
    (domains.foldl (Importing.domain referential) state).db =
      domains.foldl (writeDomain referential) state.db := by
  induction domains generalizing state with
  | nil => rfl
  | cons parsed rest ih =>
      have first : (state.domain referential parsed).db = writeDomain referential state.db parsed :=
        db_measures ..
      rw [List.foldl_cons, List.foldl_cons, ih, first]

/-- Between two states some measures were counted, and the table grew by those that
were created. -/
structure Counts (count : Nat) (first last : Importing) : Prop where
  total : last.created + last.updated = first.created + first.updated + count
  grown : last.db.measures.rows.length + first.created =
    first.db.measures.rows.length + last.created

theorem Counts.trans {count more : Nat} {first middle last : Importing}
    (near : Counts count first middle) (far : Counts more middle last) :
    Counts (count + more) first last where
  total := by
    rw [far.total, near.total, Nat.add_assoc]
  grown := by
    have before := near.grown
    have after := far.grown
    omega

theorem counts_measure (referential domain : Nat) (state : Importing)
    (ranked : ParsedMeasure × Nat) :
    Counts 1 state (state.measure referential domain ranked) := by
  have grown : (writeMeasure referential domain state.db ranked).measures.rows.length =
      state.db.measures.rows.length +
        if (state.db.measureOf? referential ranked.1.code).isNone then 1 else 0 :=
    Table.length_updateOrCreate
  have kept : (state.measure referential domain ranked).db =
      writeMeasure referential domain state.db ranked := rfl
  have created : (state.measure referential domain ranked).created = state.created +
      if (state.db.measureOf? referential ranked.1.code).isNone then 1 else 0 := rfl
  have updated : (state.measure referential domain ranked).updated = state.updated +
      if (state.db.measureOf? referential ranked.1.code).isNone then 0 else 1 := rfl
  constructor
  · rw [created, updated]
    split <;> omega
  · rw [kept, grown, created]
    omega

theorem counts_measures (referential domain : Nat) (state : Importing)
    (ranked : List (ParsedMeasure × Nat)) :
    Counts ranked.length state (ranked.foldl (Importing.measure referential domain) state) := by
  induction ranked generalizing state with
  | nil => exact ⟨rfl, rfl⟩
  | cons first rest ih =>
      have counted := (counts_measure referential domain state first).trans (ih _)
      rwa [Nat.add_comm] at counted

theorem counts_domains (referential : Nat) (state : Importing) (domains : List ParsedDomain) :
    Counts (domains.map fun domain => domain.measures.length).sum state
      (domains.foldl (Importing.domain referential) state) := by
  induction domains generalizing state with
  | nil => exact ⟨rfl, rfl⟩
  | cons parsed rest ih =>
      rw [List.map_cons, List.sum_cons, List.foldl_cons]
      refine Counts.trans ?_ (ih _)
      have counted := counts_measures referential (state.db.saveDomain referential parsed).2.id
        { state with db := (state.db.saveDomain referential parsed).1 }
        (parsed.measures.zipIdx 1)
      rw [List.length_zipIdx] at counted
      exact ⟨counted.total, counted.grown⟩

/-! ## The file as it is stored -/

variable {columns} {unicode} {parsed : Importers.ParsedReferential} {stored : ParsedReferential}

theorem code_storedMeasure {mesure : Importers.ParsedMeasure} {row : ParsedMeasure}
    (done : columns.storedMeasure mesure = .ok row) : row.code = mesure.code := by
  obtain ⟨sheet, _, rfl⟩ := map_eq_ok.mp done
  rfl

theorem codes_storedDomain {domaine : Importers.ParsedDomain} {row : ParsedDomain}
    (done : columns.storedDomain domaine = .ok row) :
    row.code = domaine.code ∧ row.codes = domaine.measures.map Importers.ParsedMeasure.code := by
  obtain ⟨⟨name, description, order⟩, _, done⟩ := bind_eq_ok.mp done
  obtain ⟨measures, all, done⟩ := bind_eq_ok.mp done
  cases done
  exact ⟨rfl, map_eq_of_mapM (fun _ _ => code_storedMeasure) all⟩

/-- The codes of a file are stored as they are. -/
theorem codes_stored (done : columns.stored unicode parsed = .ok stored) :
    stored.domains.map ParsedDomain.code = parsed.domainCodes ∧
      stored.domains.map ParsedDomain.codes =
        parsed.domains.map fun domaine => domaine.measures.map Importers.ParsedMeasure.code := by
  obtain ⟨sheet, _, done⟩ := bind_eq_ok.mp done
  obtain ⟨domains, all, done⟩ := bind_eq_ok.mp done
  cases done
  exact ⟨map_eq_of_mapM (fun _ _ read => (codes_storedDomain read).1) all,
    map_eq_of_mapM (fun _ _ read => (codes_storedDomain read).2) all⟩

theorem seen_stored (done : columns.stored unicode parsed = .ok stored) :
    (stored.domains.flatMap fun domain => domain.measures.map ParsedMeasure.code) =
      parsed.codes := by
  rw [Importers.ParsedReferential.codes, List.flatMap_def, List.flatMap_def]
  exact congrArg List.flatten (codes_stored done).2

theorem measureCount_stored (done : columns.stored unicode parsed = .ok stored) :
    stored.measureCount = parsed.measureCount := by
  have lengths := congrArg (List.map List.length) (codes_stored done).2
  rw [List.map_map, List.map_map] at lengths
  rw [ParsedReferential.measureCount, Importers.ParsedReferential.measureCount]
  refine congrArg List.sum ?_
  simpa [Function.comp_def, ParsedDomain.codes] using lengths

/-- The domains of a valid file are apart, and the measures of each. -/
theorem apart_stored (valid : parsed.Valid) (done : columns.stored unicode parsed = .ok stored) :
    (∀ domain ∈ stored.domains, domain.codes.Nodup) ∧
      stored.domains.Pairwise ParsedDomain.Apart := by
  obtain ⟨domains, _⟩ := codes_stored done
  have codes : (stored.domains.flatMap ParsedDomain.codes).Nodup :=
    (seen_stored done).symm ▸ valid.codes_nodup
  have distinct : (stored.domains.map ParsedDomain.code).Nodup :=
    domains ▸ valid.domainCodes_nodup
  obtain ⟨each, disjoint⟩ := List.nodup_flatMap.mp codes
  exact ⟨each, (List.pairwise_map.mp distinct).and disjoint⟩

end Runs

/-! ## Once more -/

section Again

variable {db after : Database} {stored : ParsedReferential} {activate : Bool}
  {ownerTenant : Option Nat} {report : ImportReport}

theorem referentials_writeDomain (referential : Nat) (db : Database) (parsed : ParsedDomain) :
    (writeDomain referential db parsed).referentials = db.referentials := by
  have measures (domain : Nat) (ranked : List (ParsedMeasure × Nat)) (saved : Database) :
      (ranked.foldl (writeMeasure referential domain) saved).referentials = saved.referentials := by
    induction ranked generalizing saved with
    | nil => rfl
    | cons first rest ih => exact ih _
  exact measures ..

theorem referentials_writeDomains (referential : Nat) (db : Database)
    (domains : List ParsedDomain) :
    (domains.foldl (writeDomain referential) db).referentials = db.referentials := by
  induction domains generalizing db with
  | nil => rfl
  | cons parsed rest ih => exact (ih _).trans (referentials_writeDomain referential db parsed)

/-- Domains that are apart are all as the file has them, after they are written. -/
theorem holds_writeDomains (referential : Nat) (db : Database) {domains : List ParsedDomain}
    (each : ∀ domain ∈ domains, domain.codes.Nodup) (apart : domains.Pairwise ParsedDomain.Apart) :
    ∀ domain ∈ domains,
      HoldsDomain referential domain (domains.foldl (writeDomain referential) db) := by
  refine marks_foldl ?_ ?_ apart db
  · intro state domain listed
    exact holdsDomain_writeDomain state (each domain listed)
  · intro domain other distinct state holds
    exact holds.writeDomain distinct

/-- The row of the slug, after it is saved. -/
theorem find?_saveReferential (db : Database) (stored : ParsedReferential) (activate : Bool)
    (ownerTenant : Option Nat) :
    ((db.saveReferential stored ownerTenant activate).1.referentials.rows.find? fun row =>
      row.slug = stored.slug) = some (db.saveReferential stored ownerTenant activate).2 :=
  Table.search_updateOrCreate _ (fun _ => rfl) fun _ => by simp

theorem row_saveReferential (db : Database) (stored : ParsedReferential) (activate : Bool)
    (ownerTenant : Option Nat) :
    let row := (db.saveReferential stored ownerTenant activate).2
    row.ownerTenant = ownerTenant ∧ row.sheet = stored.sheet ∧ row.isActive = activate := by
  rw [Database.saveReferential]
  dsimp only
  rw [Table.written]
  split
  · exact ⟨rfl, rfl, rfl⟩
  · exact ⟨rfl, rfl, rfl⟩

/-- Saving a referential that is there changes nothing. -/
theorem saveReferential_eq_self {row : Referential}
    (found : (after.referentials.rows.find? fun row => row.slug = stored.slug) = some row)
    (owner : row.ownerTenant = ownerTenant) (sheet : row.sheet = stored.sheet)
    (active : row.isActive = activate) :
    after.saveReferential stored ownerTenant activate = (after, row) := by
  have unchanged : { row with
      ownerTenant, sheet := stored.sheet, isActive := activate } = row := by
    rw [← owner, ← sheet, ← active]
  refine Prod.ext (after.with_referentials ?_ _) ?_
  · exact Table.updateOrCreate_eq_self found unchanged
  · rw [Database.saveReferential]
    dsimp only
    rw [Table.written, found]
    exact unchanged

/-- What an import leaves is what it writes: once more it changes nothing. -/
theorem importRun_again (each : ∀ domain ∈ stored.domains, domain.codes.Nodup)
    (apart : stored.domains.Pairwise ParsedDomain.Apart) (db : Database) (activate : Bool)
    (ownerTenant : Option Nat) :
    let after := (importRun db stored activate ownerTenant).db
    after.ownedByOther stored.slug ownerTenant = false ∧
      (importRun after stored activate ownerTenant).db = after := by
  have found := find?_saveReferential db stored activate ownerTenant
  obtain ⟨owner, sheet, active⟩ := row_saveReferential db stored activate ownerTenant
  rw [importRun, db_domains]
  generalize db.saveReferential stored ownerTenant activate = saved at *
  have marks := holds_writeDomains saved.2.id saved.1 each apart
  rw [← referentials_writeDomains saved.2.id saved.1 stored.domains] at found
  dsimp only
  generalize stored.domains.foldl (writeDomain saved.2.id) saved.1 = after at *
  refine ⟨?_, ?_⟩
  · rw [Database.ownedByOther, found, Option.any_some, owner]
    simp
  · rw [importRun, saveReferential_eq_self found owner sheet active, db_domains]
    exact foldl_eq_self (fun state _ holds => writeDomain_eq_self state holds) marks

theorem counts_importRun (db : Database) (stored : ParsedReferential) (activate : Bool)
    (ownerTenant : Option Nat) :
    Counts stored.measureCount { db, created := 0, updated := 0 }
      (importRun db stored activate ownerTenant) := by
  have counted := counts_domains (db.saveReferential stored ownerTenant activate).2.id
    { db := (db.saveReferential stored ownerTenant activate).1, created := 0, updated := 0 }
    stored.domains
  exact ⟨counted.total, counted.grown⟩

theorem importReferential_again (each : ∀ domain ∈ stored.domains, domain.codes.Nodup)
    (apart : stored.domains.Pairwise ParsedDomain.Apart)
    (done : importReferential db stored activate ownerTenant = .ok (after, report)) :
    ∃ again, importReferential after stored activate ownerTenant = .ok (after, again) ∧
      again.created = 0 ∧ again.updated = stored.measureCount := by
  rw [importReferential_eq] at done
  split at done
  · cases done
  · obtain ⟨rfl, rfl⟩ := Prod.mk.inj (Except.ok.inj done)
    obtain ⟨free, stays⟩ := importRun_again each apart db activate ownerTenant
    generalize (importRun db stored activate ownerTenant).db = after at *
    have counted := counts_importRun after stored activate ownerTenant
    have created := counted.grown
    rw [stays] at created
    have none : (importRun after stored activate ownerTenant).created = 0 :=
      (Nat.add_left_cancel created).symm
    have updated := counted.total
    rw [none, Nat.zero_add] at updated
    refine ⟨importReport after stored activate ownerTenant, ?_, none,
      updated.trans (Nat.zero_add _)⟩
    rw [importReferential_eq, free, if_neg Bool.false_ne_true, stays]

/-! ## What an import does -/

theorem mem_orphans_iff (db : Database) (referential : Nat) (stored : ParsedReferential)
    (code : String) : code ∈ db.orphans referential stored ↔
      (∃ row ∈ db.measures, row.referential = referential ∧ row.code = code) ∧
        code ∉ stored.domains.flatMap fun domain => domain.measures.map ParsedMeasure.code := by
  rw [Database.orphans, List.mem_mergeSort, List.mem_dedup, List.mem_filter, decide_eq_true_eq]
  refine and_congr_left fun _ => ?_
  simp only [List.mem_map, List.mem_filter, decide_eq_true_eq, and_assoc, Table.mem_def]

theorem imports_importReferential {columns : Columns} {unicode : Unicode}
    {parsed : Importers.ParsedReferential} (read : columns.stored unicode parsed = .ok stored)
    (done : importReferential db stored activate ownerTenant = .ok (after, report)) :
    Imports db after parsed report := by
  have settled := enlarged_importReferential db stored activate ownerTenant
  rw [importReferential_eq] at done
  split at done
  · cases done
  · obtain ⟨rfl, rfl⟩ := Prod.mk.inj (Except.ok.inj done)
    have counted := counts_importRun db stored activate ownerTenant
    rw [measureCount_stored read] at counted
    exact {
      counted := counted.total.trans (Nat.zero_add _)
      measures := measureCount_stored read
      grown := counted.grown
      kept := by
        intro row inside
        obtain ⟨added, signed, _⟩ := settled.added
        have listed : row.signature ∈ db.signatures := List.mem_map_of_mem inside
        have still := List.mem_append_left (added.map
          (Prod.mk (db.saveReferential stored ownerTenant activate).2.id)) listed
        rw [← signed] at still
        obtain ⟨other, found, same⟩ := List.mem_map.mp still
        obtain ⟨referential, same⟩ := Prod.mk.inj same
        obtain ⟨code, key⟩ := Prod.mk.inj same
        exact ⟨other, found, key, referential, code⟩
      orphans := by
        intro code
        rw [← seen_stored read]
        exact mem_orphans_iff ..
      orphans_nodup := (List.mergeSort_perm ..).nodup_iff.mpr (List.nodup_dedup _)
      answers := answers_importDomains .. }

end Again

section Sample

/-- The columns of the texts of a file. -/
def sampleColumns : Columns where
  referential parsed :=
    .ok
      { name := parsed.name.toStr ⟨id, id, fun _ => true⟩
        version := parsed.version
        description := ""
        publisher := ""
        kind := "open"
        sourceUrl := ""
        licenceNotice := "" }
  domain domaine := .ok (domaine.name.toStr ⟨id, id, fun _ => true⟩, "", domaine.order.toNat)
  measure mesure :=
    .ok
      { number := none
        officialTitle := mesure.officialTitle
        plainLanguage := mesure.plainLanguage
        level := ""
        weight := mesure.weight
        effort := mesure.effort
        impact := mesure.impact
        effortImpactDisclaimer := mesure.effortImpactDisclaimer }

def sampleParsed : Importers.ParsedReferential where
  slug := .str "s"
  name := .str "n"
  version := "1"
  description := .str ""
  publisher := .str ""
  kind := .str "open"
  sourceUrl := .str ""
  licenceNotice := .str ""
  domains :=
    [{ code := "a"
       name := .str "a"
       order := 1
       description := .str ""
       measures :=
        [{ code := "b"
           officialTitle := "c"
           plainLanguage := "d"
           number := .null
           level := .str ""
           weight := 1.0
           effort := "medium"
           impact := "medium"
           effortImpactDisclaimer := true
           sourceLine := some 2 }] }]

theorem validate_sampleParsed : Importers.validate sampleParsed = .ok sampleParsed := by
  refine Importers.validate_eq_ok_iff.mpr ⟨?_, rfl⟩
  exact {
    filled := List.cons_ne_nil _ _
    domainCodes_nodup := List.nodup_singleton _
    complete := by
      refine List.forall_mem_singleton.mpr ⟨List.cons_ne_nil _ _, ?_⟩
      exact List.forall_mem_singleton.mpr ⟨by decide, by decide, by decide⟩
    codes_nodup := List.nodup_singleton _ }

end Sample

end RssiService.Assessments
