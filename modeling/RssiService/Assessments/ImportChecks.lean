import RssiService.Assessments.Importers
import RssiService.Foundation.Traversal

/-!
# The two validators

The command line validates a referential and stops at the first problem; the
console collects all of them.  They are written apart, and accept the same
referentials.
-/

namespace RssiService.Assessments.Importers

open Foundation Foundation.Outcome Foundation.Traversal

/-! ## Valid referentials -/

/-- The texts that a measure has to have. -/
structure ParsedMeasure.Complete (mesure : ParsedMeasure) : Prop where
  coded : mesure.code ≠ ""
  titled : mesure.officialTitle ≠ ""
  worded : mesure.plainLanguage ≠ ""

structure ParsedDomain.Complete (domaine : ParsedDomain) : Prop where
  filled : domaine.measures ≠ []
  complete : ∀ mesure ∈ domaine.measures, mesure.Complete

def ParsedReferential.domainCodes (parsed : ParsedReferential) : List String :=
  parsed.domains.map ParsedDomain.code

def ParsedReferential.codes (parsed : ParsedReferential) : List String :=
  parsed.domains.flatMap fun domaine => domaine.measures.map ParsedMeasure.code

/-- What both validators ask. -/
structure ParsedReferential.Valid (parsed : ParsedReferential) : Prop where
  filled : parsed.domains ≠ []
  domainCodes_nodup : parsed.domainCodes.Nodup
  complete : ∀ domaine ∈ parsed.domains, domaine.Complete
  codes_nodup : parsed.codes.Nodup

theorem duplicates_eq_nil_iff {codes : List String} : duplicates codes = [] ↔ codes.Nodup := by
  have sorted (texts : List String) : texts.mergeSort = [] ↔ texts = [] := by
    rw [← List.length_eq_zero_iff, List.length_mergeSort, List.length_eq_zero_iff]
  rw [duplicates, sorted, List.dedup_eq_nil, List.filter_eq_nil_iff, List.nodup_iff_count_le_one]
  constructor
  · intro single code
    by_cases listed : code ∈ codes
    · simpa using single code listed
    · rw [List.count_eq_zero_of_not_mem listed]
      exact Nat.zero_le 1
  · intro single code _
    simpa using single code

/-! ## The command line -/

theorem validateMeasure_eq_ok_iff {domaine code : String} {mesure : ParsedMeasure} :
    validateMeasure domaine mesure = .ok code ↔ mesure.Complete ∧ code = mesure.code := by
  rw [validateMeasure]
  split_ifs with uncoded untitled unworded
  · exact iff_of_false (by rintro ⟨⟩) fun both => both.1.coded uncoded
  · exact iff_of_false (by rintro ⟨⟩) fun both => both.1.titled untitled
  · exact iff_of_false (by rintro ⟨⟩) fun both => both.1.worded unworded
  · constructor
    · intro done
      exact ⟨⟨uncoded, untitled, unworded⟩, (Except.ok.inj done).symm⟩
    · rintro ⟨_, rfl⟩
      rfl

theorem validateDomain_eq_ok_iff {domaine : ParsedDomain} {codes : List String} :
    validateDomain domaine = .ok codes ↔
      domaine.Complete ∧ codes = domaine.measures.map ParsedMeasure.code := by
  rw [validateDomain]
  split_ifs with empty
  · exact iff_of_false (by rintro ⟨⟩) fun both => both.1.filled empty
  · constructor
    · intro done
      have each : ∀ mesure ∈ domaine.measures,
          Succeeds (validateMeasure domaine.code mesure) := succeeds_mapM_iff.mp ⟨codes, done⟩
      refine ⟨⟨empty, fun mesure listed => ?_⟩, ?_⟩
      · obtain ⟨code, passed⟩ := each mesure listed
        exact (validateMeasure_eq_ok_iff.mp passed).1
      · exact mapM_eq_ok_of_map (fun _ _ passed => (validateMeasure_eq_ok_iff.mp passed).2) done
    · rintro ⟨complete, rfl⟩
      rw [mapM_eq_ok_iff, List.forall₂_map_right_iff, List.forall₂_same]
      intro mesure listed
      exact validateMeasure_eq_ok_iff.mpr ⟨complete.complete mesure listed, rfl⟩

/-- The codes that the domains give when they are all complete. -/
theorem validateDomains_eq_ok_iff {domains : List ParsedDomain} {codes : List (List String)} :
    domains.mapM validateDomain = .ok codes ↔
      (∀ domaine ∈ domains, domaine.Complete) ∧
        codes = domains.map fun domaine => domaine.measures.map ParsedMeasure.code := by
  constructor
  · intro done
    refine ⟨fun domaine listed => ?_, ?_⟩
    · obtain ⟨_, passed⟩ := succeeds_mapM_iff.mp ⟨codes, done⟩ domaine listed
      exact (validateDomain_eq_ok_iff.mp passed).1
    · exact mapM_eq_ok_of_map (fun _ _ passed => (validateDomain_eq_ok_iff.mp passed).2) done
  · rintro ⟨complete, rfl⟩
    rw [mapM_eq_ok_iff, List.forall₂_map_right_iff, List.forall₂_same]
    intro domaine listed
    exact validateDomain_eq_ok_iff.mpr ⟨complete domaine listed, rfl⟩

theorem validateCodes_eq_ok_iff {parsed accepted : ParsedReferential} :
    validateCodes parsed = .ok accepted ↔
      ((∀ domaine ∈ parsed.domains, domaine.Complete) ∧ parsed.codes.Nodup) ∧
        accepted = parsed := by
  rw [validateCodes, ParsedReferential.codes, List.flatMap_def, ← duplicates_eq_nil_iff]
  constructor
  · intro done
    obtain ⟨codes, passed, done⟩ := bind_eq_ok.mp done
    obtain ⟨complete, rfl⟩ := validateDomains_eq_ok_iff.mp passed
    dsimp only at done
    split at done
    · cases done
    · rename_i single
      exact ⟨⟨complete, not_not.mp single⟩, (Except.ok.inj done).symm⟩
  · rintro ⟨⟨complete, single⟩, rfl⟩
    exact bind_eq_ok.mpr ⟨_, validateDomains_eq_ok_iff.mpr ⟨complete, rfl⟩,
      if_neg (not_not.mpr single)⟩

/-- The command line accepts what is valid, as it is. -/
theorem validate_eq_ok_iff {parsed accepted : ParsedReferential} :
    validate parsed = .ok accepted ↔ parsed.Valid ∧ accepted = parsed := by
  rw [validate]
  split_ifs with empty double
  · exact iff_of_false (by rintro ⟨⟩) fun both => both.1.filled empty
  · exact iff_of_false (by rintro ⟨⟩)
      fun both => double (duplicates_eq_nil_iff.mpr both.1.domainCodes_nodup)
  · rw [validateCodes_eq_ok_iff]
    have single : parsed.domainCodes.Nodup := duplicates_eq_nil_iff.mp (not_not.mp double)
    constructor
    · rintro ⟨⟨complete, codes⟩, same⟩
      exact ⟨⟨empty, single, complete, codes⟩, same⟩
    · rintro ⟨valid, same⟩
      exact ⟨⟨valid.complete, valid.codes_nodup⟩, same⟩

/-! ## The console -/

theorem erreursMesure_eq_nil_iff {domaine : String} {mesure : ParsedMeasure} :
    erreursMesure domaine mesure = [] ↔ mesure.Complete := by
  rw [erreursMesure]
  split_ifs with uncoded untitled unworded unworded
  · exact iff_of_false (by rintro ⟨⟩) fun complete => complete.coded uncoded
  · exact iff_of_false (by rintro ⟨⟩) fun complete => complete.titled untitled
  · exact iff_of_false (by rintro ⟨⟩) fun complete => complete.titled untitled
  · exact iff_of_false (by rintro ⟨⟩) fun complete => complete.worded unworded
  · exact iff_of_true rfl ⟨uncoded, untitled, unworded⟩

theorem erreursDomaine_eq_nil_iff {domaine : ParsedDomain} :
    erreursDomaine domaine = [] ↔ domaine.Complete := by
  rw [erreursDomaine]
  split_ifs with empty
  · exact iff_of_false (by rintro ⟨⟩) fun complete => complete.filled empty
  · rw [List.flatMap_eq_nil_iff]
    constructor
    · intro none
      exact ⟨empty, fun mesure listed => erreursMesure_eq_nil_iff.mp (none mesure listed)⟩
    · intro complete mesure listed
      exact erreursMesure_eq_nil_iff.mpr (complete.complete mesure listed)

/-- Without a measure that lacks its code all the codes are collected. -/
theorem lignesParCode_codes {parsed : ParsedReferential}
    (complete : ∀ domaine ∈ parsed.domains, domaine.Complete) :
    (lignesParCode parsed).map Prod.fst = parsed.codes := by
  rw [lignesParCode, ParsedReferential.codes, List.map_flatMap]
  refine List.flatMap_congr fun domaine listed => ?_
  rw [List.map_map, List.filter_eq_self.mpr]
  · rfl
  · intro mesure given
    exact decide_eq_true ((complete domaine listed).complete mesure given).coded

theorem collecterErreurs_eq_nil_iff {parsed : ParsedReferential} :
    collecterErreurs parsed = [] ↔ parsed.Valid := by
  rw [collecterErreurs]
  split_ifs with empty
  · exact iff_of_false (by rintro ⟨⟩) fun valid => valid.filled empty
  · rw [List.append_eq_nil_iff, List.append_eq_nil_iff, List.map_eq_nil_iff, List.map_eq_nil_iff,
      duplicates_eq_nil_iff, duplicates_eq_nil_iff, List.flatMap_eq_nil_iff]
    constructor
    · rintro ⟨⟨domains, none⟩, codes⟩
      have complete : ∀ domaine ∈ parsed.domains, domaine.Complete :=
        fun domaine listed => erreursDomaine_eq_nil_iff.mp (none domaine listed)
      rw [lignesParCode_codes complete] at codes
      exact ⟨empty, domains, complete, codes⟩
    · intro valid
      rw [lignesParCode_codes valid.complete]
      refine ⟨⟨valid.domainCodes_nodup, fun domaine listed => ?_⟩, valid.codes_nodup⟩
      exact erreursDomaine_eq_nil_iff.mpr (valid.complete domaine listed)

/-- The console finds no error exactly in the referentials that the command line
accepts, which it leaves as they are. -/
theorem validators_agree (parsed : ParsedReferential) :
    (collecterErreurs parsed = [] ↔ ∃ accepted, validate parsed = .ok accepted) ∧
      ∀ accepted, validate parsed = .ok accepted → accepted = parsed := by
  constructor
  · rw [collecterErreurs_eq_nil_iff]
    constructor
    · intro valid
      exact ⟨parsed, validate_eq_ok_iff.mpr ⟨valid, rfl⟩⟩
    · rintro ⟨accepted, passed⟩
      exact (validate_eq_ok_iff.mp passed).1
  · intro accepted passed
    exact (validate_eq_ok_iff.mp passed).2

end RssiService.Assessments.Importers
