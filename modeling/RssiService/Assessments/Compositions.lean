import Mathlib.Data.List.Sort
import RssiService.Assessments.ScopeChanges

/-!
# Composing a questionnaire again

A composition that is known is rewritten, emptied and filled in three
statements, and the columns of the store bound what each of them takes.
-/

namespace RssiService.Assessments

open Foundation Python

/-! ## The columns -/

/-- No null character, which the store refuses in a text. -/
def storedText (text : String) : Bool := !text.toList.contains (Char.ofNat 0)

/-- The row of a composition fits in its columns. -/
def SubsetSheet.fits (sheet : SubsetSheet) (slug : String) : Bool :=
  slug.length ≤ 100 && sheet.name.length ≤ 200 && storedText slug && storedText sheet.name &&
    storedText sheet.description

/-- The last rank that the column of a composed measure takes. -/
def maxRank : Nat := 32767

/-- `create_subset` against the columns: a text that does not fit stops it in its first
statement, a rank that does not fit in its last. -/
def createStoredSubset (db : Database) (referential : Referential) (slug : String)
    (sheet : SubsetSheet) (measureCodes : List String) :
    Database × Except CompositionFailure MeasureSubset :=
  match checkComposition db referential slug measureCodes sheet.ownerTenant with
  | .error error => (db, .error (.refused error))
  | .ok () =>
      if sheet.fits slug then
        if measureCodes.length ≤ maxRank then
          createSubset db referential slug sheet.name measureCodes sheet.description
            sheet.ownerTenant sheet.createdBy
        else
          let saved := db.saveSubset referential.id slug sheet
          (saved.1.dropItems saved.2.id, .error .integrity)
      else (db, .error .integrity)

/-! ## What a call comes to -/

/-- The row of a composition and its measures, in order, are as they were. -/
structure CompositionKept (db after : Database) (referential : Nat) (slug : String) : Prop where
  row : after.subsetOf? referential slug = db.subsetOf? referential slug
  measures : ∀ row, db.subsetOf? referential slug = some row →
    after.subsetMeasureIds row.id = db.subsetMeasureIds row.id

/-- A composition lists, in order, the measures that have the codes. -/
def Lists (db : Database) (referential : Nat) (subset : MeasureSubset)
    (measureCodes : List String) : Prop :=
  ∃ measures : List Measure, measures.map Measure.code = measureCodes ∧
    (∀ measure ∈ measures, measure ∈ db.measures ∧ measure.referential = referential) ∧
    db.subsetMeasureIds subset.id = measures.map Measure.id

/-- A call that fails leaves the composition, and one that succeeds gives the listed measures. -/
structure Composes (db after : Database) (referential : Nat) (slug : String)
    (measureCodes : List String) (outcome : Except CompositionFailure MeasureSubset) : Prop where
  failed : ∀ failure, outcome = .error failure → CompositionKept db after referential slug
  succeeded : ∀ subset, outcome = .ok subset →
    after.subsetOf? referential slug = some subset ∧ Lists after referential subset measureCodes

/-- The call is refused before it writes, or the codes do not repeat and are not too many, or the
composition was empty and had the fields that it is given. -/
def ComposesCleanly (db : Database) (referential : Referential) (slug : String)
    (sheet : SubsetSheet) (measureCodes : List String) : Prop :=
  checkComposition db referential slug measureCodes sheet.ownerTenant ≠ .ok () ∨
    sheet.fits slug = false ∨ (measureCodes.Nodup ∧ measureCodes.length ≤ maxRank) ∨
    ∃ row, db.subsetOf? referential.id slug = some row ∧ sheet.rewrite row = row ∧
      db.subsetMeasureIds row.id = []

/-! ## Codes and measures -/

section Codes

variable {db : Database} {referential : Nat} {code : String} {measure : Measure}

theorem measureOf?_spec (found : db.measureOf? referential code = some measure) :
    measure ∈ db.measures ∧ measure.referential = referential ∧ measure.code = code := by
  have mine := List.find?_some found
  rw [Bool.and_eq_true, decide_eq_true_eq, decide_eq_true_eq] at mine
  exact ⟨List.mem_of_find?_eq_some found, mine⟩

theorem known_of_checkComposition {row : Referential} {slug : String} {measureCodes : List String}
    {ownerTenant : Option Nat}
    (checked : checkComposition db row slug measureCodes ownerTenant = .ok ()) :
    ∀ code ∈ measureCodes, ∃ measure, db.measureOf? row.id code = some measure := by
  rw [checkComposition] at checked
  split at checked
  · cases checked
  · dsimp only at checked
    split at checked
    · cases checked
    · rename_i known
      intro code listed
      have absent := List.filter_eq_nil_iff.mp (not_not.mp known) code listed
      exact Option.ne_none_iff_exists'.mp (by simpa using absent)

/-- The chosen measures have the codes that name them, in order. -/
theorem map_code_chosen {measureCodes : List String}
    (known : ∀ code ∈ measureCodes, ∃ measure, db.measureOf? referential code = some measure) :
    (db.chosen referential measureCodes).map Measure.code = measureCodes := by
  induction measureCodes with
  | nil => rfl
  | cons code rest ih =>
      obtain ⟨measure, found⟩ := known code List.mem_cons_self
      have later := ih fun code listed => known code (List.mem_cons_of_mem _ listed)
      rw [Database.chosen] at later ⊢
      rw [List.filterMap_cons_some found, List.map_cons, (measureOf?_spec found).2.2, later]

theorem chosen_spec {measureCodes : List String}
    (named : measure ∈ db.chosen referential measureCodes) :
    measure ∈ db.measures ∧ measure.referential = referential ∧
      db.measureOf? referential measure.code = some measure := by
  obtain ⟨code, _, found⟩ := List.mem_filterMap.mp named
  obtain ⟨inside, mine, same⟩ := measureOf?_spec found
  exact ⟨inside, mine, by rw [same, found]⟩

/-- A measure is chosen twice exactly when its code is listed twice. -/
theorem nodup_chosen_iff {measureCodes : List String}
    (known : ∀ code ∈ measureCodes, ∃ measure, db.measureOf? referential code = some measure) :
    ((db.chosen referential measureCodes).map Measure.id).Nodup ↔ measureCodes.Nodup := by
  have codes := map_code_chosen known
  constructor
  · intro apart
    rw [← codes]
    refine apart.of_map.map_on ?_
    intro first named second other same
    have found := (chosen_spec named).2.2
    rw [same, (chosen_spec other).2.2] at found
    exact (Option.some.inj found).symm
  · intro apart
    rw [← codes] at apart
    refine apart.of_map.map_on ?_
    intro first named second other same
    exact Table.ident_injective (chosen_spec named).1 (chosen_spec other).1 same

end Codes

/-! ## The three statements -/

section Statements

variable {db : Database} {referential : Nat} {slug : String} {sheet : SubsetSheet}

theorem CompositionKept.refl (db : Database) (referential : Nat) (slug : String) :
    CompositionKept db db referential slug := ⟨rfl, fun _ _ => rfl⟩

/-- The row that is saved is the composition from then on. -/
theorem subsetOf?_saveSubset :
    (db.saveSubset referential slug sheet).1.subsetOf? referential slug =
      some (db.saveSubset referential slug sheet).2 := by
  have built (key : Nat) : isSubset referential slug (sheet.build referential slug key) = true := by
    simp [isSubset, SubsetSheet.build]
  exact Table.search_updateOrCreate db.subsets (fun _ => rfl) built

theorem saved_of_some {row : MeasureSubset} (found : db.subsetOf? referential slug = some row) :
    (db.saveSubset referential slug sheet).2 = sheet.rewrite row := by
  rw [Database.saveSubset, Table.written]
  rw [Database.subsetOf?] at found
  rw [found]

theorem filter_dropItems (subset : Nat) :
    (db.dropItems subset).items.rows.filter (fun row => row.subset = subset) = [] := by
  refine List.filter_eq_nil_iff.mpr ?_
  intro item inside
  obtain ⟨_, apart⟩ := Table.mem_deleteWhere.mp inside
  simpa using apart

theorem subsetMeasureIds_dropItems (subset : Nat) :
    (db.dropItems subset).subsetMeasureIds subset = [] := by
  rw [Database.subsetMeasureIds, filter_dropItems, List.mergeSort_nil, List.map_nil]

/-- Ranks that follow one another are in order. -/
theorem pairwise_zipIdx {Value : Type*} (values : List Value) (first : Nat) :
    (values.zipIdx first).Pairwise fun earlier later => earlier.2 ≤ later.2 := by
  induction values generalizing first with
  | nil => exact List.Pairwise.nil
  | cons value rest ih =>
      rw [List.zipIdx_cons]
      refine List.pairwise_cons.mpr ⟨fun later inside => ?_, ih (first + 1)⟩
      exact Nat.le_of_succ_le (List.le_snd_of_mem_zipIdx inside)

/-- An emptied composition, once it is filled, lists what it was given in that order. -/
theorem subsetMeasureIds_fillItems (subset : Nat) (chosen : List Measure)
    (known : ∀ measure ∈ chosen, measure ∈ (db.dropItems subset).measures) :
    ((db.dropItems subset).fillItems subset chosen known).subsetMeasureIds subset =
      chosen.map Measure.id := by
  let build (ranked : Measure × Nat) (key : Nat) : SubsetMeasure :=
    ⟨key, subset, ranked.1.id, ranked.2⟩
  let start := (db.dropItems subset).items.next
  have rows : ((db.dropItems subset).fillItems subset chosen known).items.rows =
      (db.dropItems subset).items.rows ++
        ((chosen.zipIdx 1).zipIdx start).map fun entry => build entry.1 entry.2 :=
    Table.rows_createAll _ build (fun _ _ => rfl) _
  have filled : (((chosen.zipIdx 1).zipIdx start).map fun entry => build entry.1 entry.2).filter
      (fun row => row.subset = subset) =
        ((chosen.zipIdx 1).zipIdx start).map fun entry => build entry.1 entry.2 := by
    refine List.filter_eq_self.mpr ?_
    intro item listed
    obtain ⟨entry, _, rfl⟩ := List.mem_map.mp listed
    exact decide_eq_true rfl
  have ordered : (((chosen.zipIdx 1).zipIdx start).map fun entry =>
      build entry.1 entry.2).Pairwise fun first second =>
        decide (first.order ≤ second.order) = true := by
    have ranks := pairwise_zipIdx chosen 1
    rw [← List.zipIdx_map_fst start (chosen.zipIdx 1), List.pairwise_map] at ranks
    rw [List.pairwise_map]
    exact ranks.imp fun below => decide_eq_true below
  rw [Database.subsetMeasureIds, rows, List.filter_append, filter_dropItems, List.nil_append, filled,
    List.mergeSort_of_pairwise ordered, List.map_map]
  calc ((chosen.zipIdx 1).zipIdx start).map (SubsetMeasure.measure ∘ fun entry =>
        build entry.1 entry.2)
      = ((((chosen.zipIdx 1).zipIdx start).map Prod.fst).map Prod.fst).map Measure.id := by
        rw [List.map_map, List.map_map]
        rfl
    _ = chosen.map Measure.id := by rw [List.zipIdx_map_fst, List.zipIdx_map_fst]

/-- The composition that is saved and emptied is the one that was there only where that one was
empty and had the fields that are written. -/
theorem compositionKept_emptied_iff :
    CompositionKept db
        ((db.saveSubset referential slug sheet).1.dropItems
          (db.saveSubset referential slug sheet).2.id) referential slug ↔
      ∃ row, db.subsetOf? referential slug = some row ∧ sheet.rewrite row = row ∧
        db.subsetMeasureIds row.id = [] := by
  have saved : (db.saveSubset referential slug sheet).1.subsetOf? referential slug =
      some (db.saveSubset referential slug sheet).2 := subsetOf?_saveSubset
  constructor
  · intro kept
    have same : some (db.saveSubset referential slug sheet).2 = db.subsetOf? referential slug :=
      saved.symm.trans kept.row
    have emptied := kept.measures _ same.symm
    rw [subsetMeasureIds_dropItems] at emptied
    exact ⟨_, same.symm, (saved_of_some same.symm).symm, emptied.symm⟩
  · rintro ⟨row, found, same, empty⟩
    have written := (saved_of_some found).trans same
    rw [written] at saved ⊢
    refine ⟨saved.trans found.symm, ?_⟩
    intro other known
    obtain rfl := Option.some.inj (found.symm.trans known)
    rw [subsetMeasureIds_dropItems, empty]

end Statements

/-- For every composition and every list of codes, a call that fails leaves the composition as it
was and one that succeeds gives the listed measures in order, exactly when it is refused before it
writes, or no code is listed twice and the ranks fit, or the composition was empty with the fields
that it is given. -/
theorem composes_iff (db : Database) (referential : Referential) (slug : String)
    (sheet : SubsetSheet) (measureCodes : List String) :
    Composes db (createStoredSubset db referential slug sheet measureCodes).1 referential.id slug
        measureCodes (createStoredSubset db referential slug sheet measureCodes).2 ↔
      ComposesCleanly db referential slug sheet measureCodes := by
  have untouched (failure : CompositionFailure) :
      Composes db db referential.id slug measureCodes (.error failure) :=
    ⟨fun _ _ => CompositionKept.refl db referential.id slug, nofun⟩
  have halfway (failure : CompositionFailure) :
      Composes db ((db.saveSubset referential.id slug sheet).1.dropItems
          (db.saveSubset referential.id slug sheet).2.id) referential.id slug measureCodes
          (.error failure) ↔
        ∃ row, db.subsetOf? referential.id slug = some row ∧ sheet.rewrite row = row ∧
          db.subsetMeasureIds row.id = [] := by
    rw [← compositionKept_emptied_iff]
    exact ⟨fun composes => composes.failed failure rfl, fun kept => ⟨fun _ _ => kept, nofun⟩⟩
  rw [createStoredSubset, ComposesCleanly]
  cases checked : checkComposition db referential slug measureCodes sheet.ownerTenant with
  | error error => exact iff_of_true (untouched _) (Or.inl nofun)
  | ok accepted =>
      rw [or_iff_right (not_not.mpr rfl)]
      dsimp only
      cases sheet.fits slug with
      | false => exact iff_of_true (untouched _) (Or.inl rfl)
      | true =>
          rw [if_pos rfl, or_iff_right (by decide)]
          by_cases short : measureCodes.length ≤ maxRank
          · rw [if_pos short, createSubset, checked]
            have known := known_of_checkComposition checked
            dsimp only
            by_cases apart : measureCodes.Nodup
            · rw [if_pos ((nodup_chosen_iff known).mpr apart)]
              refine iff_of_true ⟨?_, ?_⟩ (Or.inl ⟨apart, short⟩)
              · rintro _ ⟨⟩
              · rintro _ ⟨⟩
                refine ⟨subsetOf?_saveSubset, db.chosen referential.id measureCodes,
                  map_code_chosen known, ?_,
                  subsetMeasureIds_fillItems _ _ fun _ => mem_chosen_measures db⟩
                exact fun measure named => ⟨(chosen_spec named).1, (chosen_spec named).2.1⟩
            · rw [if_neg fun nodup => apart ((nodup_chosen_iff known).mp nodup),
                or_iff_right fun both => apart both.1]
              exact halfway .integrity
          · rw [if_neg short, or_iff_right fun both => short both.2]
            exact halfway .integrity

/-- The same code twice. -/
def listedTwice : Database × Except CompositionFailure MeasureSubset :=
  createStoredSubset askingFirst hygiene "essentielles" ⟨"Essentielles", "", none, none⟩ ["1", "1"]

/-- The call fails, and the questionnaire that asked a measure asks none. -/
theorem repeated_code_empties_a_composition :
    ¬ Composes askingFirst listedTwice.1 hygiene.id "essentielles" ["1", "1"] listedTwice.2 := by
  intro composes
  have failed : listedTwice.2 = .error .integrity := by decide +kernel
  have found : askingFirst.subsetOf? hygiene.id "essentielles" = some essentials := by
    decide +kernel
  have kept := (composes.failed .integrity failed).measures essentials found
  exact absurd kept (by decide +kernel)

end RssiService.Assessments
