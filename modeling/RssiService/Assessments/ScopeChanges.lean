import RssiService.Foundation.Run
import RssiService.Assessments.Diagnostics

/-!
# The scope under edits of the catalogue

The scope of an assessment is read from the live catalogue, so an edit reaches
the assessments in progress.
-/

namespace RssiService.Assessments

open Foundation Foundation.Run Python

/-! ## Edits -/

inductive CatalogueEvent where
  | compose (referential : Nat) (slug name : String) (measureCodes : List String)
      (description : String) (ownerTenant createdBy : Option Nat)
  | addMeasure (referential : Nat) (domainCode code officialTitle plainLanguage level : String)
      (weight : Float) (effort impact sourceUrl sourceReference : String)
  | importFile (parsed : ParsedReferential) (activate : Bool) (ownerTenant : Option Nat)
  | grant (tenant referential : Nat) (grantedBy : Option Nat) (note : String)
  | revoke (now tenant referential : Nat) (revokedBy : Option Nat)

/-- An unknown referential is not found.  A refusal changes nothing, but a
composition that the store rejects has lost its measures. -/
def catalogueStep (db : Database) : CatalogueEvent → Database
  | .compose referential slug name measureCodes description ownerTenant createdBy =>
      match db.referentials.find? referential with
      | none => db
      | some row =>
          (createSubset db row slug name measureCodes description ownerTenant createdBy).1
  | .addMeasure referential domainCode code officialTitle plainLanguage level weight effort impact
      sourceUrl sourceReference =>
      match db.referentials.find? referential with
      | none => db
      | some row =>
          match addMeasure db row domainCode code officialTitle plainLanguage level weight effort
            impact sourceUrl sourceReference with
          | .error _ => db
          | .ok (after, _) => after
  | .importFile parsed activate ownerTenant =>
      match importReferential db parsed activate ownerTenant with
      | .error _ => db
      | .ok (after, _) => after
  | .grant tenant referential grantedBy note =>
      match db.referentials.find? referential with
      | none => db
      | some row =>
          match assignReferential db tenant row grantedBy note with
          | .error _ => db
          | .ok after => after
  | .revoke now tenant referential revokedBy =>
      match db.referentials.find? referential with
      | none => db
      | some row => revokeReferential db now tenant row revokedBy

/-! ## The claim and its condition -/

/-- The assessment is about the measure of this key. -/
def Database.InScope (db : Database) (assessment : Assessment) (measure : Nat) : Prop :=
  ∃ row ∈ db.assessmentMeasures assessment, row.id = measure

/-- The scopes of the assessments in progress are the same. -/
structure ScopesKept (before after : Database) : Prop where
  assessments : after.assessments = before.assessments
  kept : ∀ assessment ∈ before.assessments, assessment.status = .inProgress →
    ∀ measure, after.InScope assessment measure ↔ before.InScope assessment measure

/-- The measures that a composition lists once it is written: none, when one is
named twice. -/
def Database.recomposed (db : Database) (referential : Nat) (measureCodes : List String) :
    List Measure :=
  if ((db.chosen referential measureCodes).map Measure.id).Nodup then
    db.chosen referential measureCodes
  else []

/-- A composition in use is recomposed of the same measures, and a referential that
is assessed as a whole gets no measure. -/
def KeepsScopes (db : Database) : CatalogueEvent → Prop
  | .compose referential slug _ measureCodes _ ownerTenant _ =>
      ∀ row, db.referentials.find? referential = some row →
        checkComposition db row slug measureCodes ownerTenant = .ok () →
        ∀ composition, db.subsetOf? row.id slug = some composition →
        ∀ assessment ∈ db.assessments, assessment.status = .inProgress →
          assessment.subset = some composition.id →
          ∀ measure ∈ db.measures, measure.referential = assessment.referential →
            (measure ∈ db.recomposed row.id measureCodes ↔
              measure.id ∈ db.subsetMeasureIds composition.id)
  | .addMeasure referential domainCode code officialTitle plainLanguage _ _ effort impact _ _ =>
      ∀ row, db.referentials.find? referential = some row →
        (checkMeasure db row domainCode code officialTitle plainLanguage effort impact).isOk =
          true →
        ∀ assessment ∈ db.assessments, assessment.status = .inProgress →
          assessment.referential = row.id → assessment.subset ≠ none
  | .importFile parsed _ ownerTenant =>
      ∀ row, (db.referentials.rows.find? fun row => row.slug = parsed.slug) = some row →
        row.ownerTenant = ownerTenant →
        ∀ assessment ∈ db.assessments, assessment.status = .inProgress →
          assessment.referential = row.id → assessment.subset = none →
          ∀ domain ∈ parsed.domains, ∀ measure ∈ domain.measures,
            (db.measureOf? row.id measure.code).isSome = true
  | .grant _ _ _ _ | .revoke _ _ _ _ => True

theorem ScopesKept.refl (db : Database) : ScopesKept db db :=
  ⟨rfl, fun _ _ _ _ => Iff.rfl⟩

theorem ScopesKept.trans {first second third : Database} (near : ScopesKept first second)
    (far : ScopesKept second third) : ScopesKept first third where
  assessments := far.assessments.trans near.assessments
  kept := by
    intro assessment inside running measure
    exact (far.kept assessment (near.assessments ▸ inside) running measure).trans
      (near.kept assessment inside running measure)

/-! ## What the scope reads -/

section Reading

variable {db before after : Database} {assessment : Assessment} {key : Nat}

/-- The measure of this key is one of the referential. -/
def Database.Carries (db : Database) (referential key : Nat) : Prop :=
  ∃ row ∈ db.measures, row.referential = referential ∧ row.id = key

theorem inScope_iff : db.InScope assessment key ↔
    db.Carries assessment.referential key ∧ db.Asks assessment.subset key := by
  constructor
  · rintro ⟨row, asked, rfl⟩
    obtain ⟨inside, here, asks⟩ := mem_assessmentMeasures.mp asked
    exact ⟨⟨row, inside, here, rfl⟩, asks⟩
  · rintro ⟨⟨row, inside, here, rfl⟩, asks⟩
    exact ⟨row, mem_assessmentMeasures.mpr ⟨inside, here, asks⟩, rfl⟩

theorem asks_none : db.Asks none key := by
  rintro subset ⟨⟩

theorem asks_some_iff {subset : Nat} :
    db.Asks (some subset) key ↔ ∃ item ∈ db.items, item.subset = subset ∧ item.measure = key := by
  exact ⟨fun asks => asks subset rfl, fun listed other same => Option.some.inj same ▸ listed⟩

/-- What a composition lists is protected by a foreign key. -/
theorem lt_next_of_asks {subset : Nat} (asks : db.Asks (some subset) key) :
    key < db.measures.next := by
  obtain ⟨item, inside, _, rfl⟩ := asks_some_iff.mp asks
  obtain ⟨row, known, same⟩ := db.listed item inside
  exact same ▸ db.measures.allocated row known

theorem lt_next_of_carries {referential : Nat} (carries : db.Carries referential key) :
    key < db.measures.next := by
  obtain ⟨row, inside, _, rfl⟩ := carries
  exact db.measures.allocated row inside

/-- An edit that leaves the measures, the compositions and the assessments alone. -/
theorem scopesKept_of_same (measures : after.measures = before.measures)
    (items : after.items = before.items) (assessments : after.assessments = before.assessments) :
    ScopesKept before after := by
  refine ⟨assessments, fun assessment _ _ key => ?_⟩
  rw [inScope_iff, inScope_iff, Database.Carries, Database.Carries, Database.Asks, Database.Asks,
    measures, items]

end Reading

/-! ## New measures -/

/-- A measure as the scope sees it: its referential, its code and its key. -/
def Measure.signature (measure : Measure) : Nat × String × Nat :=
  (measure.referential, measure.code, measure.id)

def Database.signatures (db : Database) : List (Nat × String × Nat) :=
  db.measures.rows.map Measure.signature

/-- Some measure of the referential has the code. -/
def Database.Knows (db : Database) (referential : Nat) (code : String) : Prop :=
  ∃ key, (referential, code, key) ∈ db.signatures

/-- The codes were written in the referential: the unknown ones became measures
under new keys, and nothing else that a scope reads changed. -/
structure Enlarged (referential : Nat) (codes : List String) (before after : Database) : Prop where
  items : after.items = before.items
  assessments : after.assessments = before.assessments
  grown : before.measures.next ≤ after.measures.next
  added : ∃ added : List (String × Nat),
    after.signatures = before.signatures ++ added.map (Prod.mk referential) ∧
      (∀ pair ∈ added, before.measures.next ≤ pair.2) ∧
      (added = [] ↔ ∀ code ∈ codes, before.Knows referential code)

section Enlargement

variable {db before after : Database} {referential : Nat} {codes : List String}

theorem carries_iff {key : Nat} :
    db.Carries referential key ↔ ∃ code, (referential, code, key) ∈ db.signatures := by
  constructor
  · rintro ⟨row, inside, rfl, rfl⟩
    exact ⟨row.code, List.mem_map.mpr ⟨row, inside, rfl⟩⟩
  · rintro ⟨code, signed⟩
    obtain ⟨row, inside, same⟩ := List.mem_map.mp signed
    obtain ⟨rfl, rfl, rfl⟩ := same
    exact ⟨row, inside, rfl, rfl⟩

theorem knows_iff {code : String} :
    db.Knows referential code ↔ (db.measureOf? referential code).isSome = true := by
  rw [Database.measureOf?, List.find?_isSome]
  constructor
  · rintro ⟨key, signed⟩
    obtain ⟨row, inside, same⟩ := List.mem_map.mp signed
    obtain ⟨rfl, rfl, rfl⟩ := same
    exact ⟨row, inside, by simp⟩
  · rintro ⟨row, inside, named⟩
    obtain ⟨rfl, rfl⟩ : row.referential = referential ∧ row.code = code := by simpa using named
    exact ⟨row.id, List.mem_map.mpr ⟨row, inside, rfl⟩⟩

theorem Enlarged.refl (referential : Nat) (db : Database) : Enlarged referential [] db db where
  items := rfl
  assessments := rfl
  grown := le_rfl
  added := ⟨[], by simp, by simp, by simp⟩

theorem Enlarged.trans {middle : Database} {more : List String}
    (near : Enlarged referential codes before middle)
    (far : Enlarged referential more middle after) :
    Enlarged referential (codes ++ more) before after where
  items := far.items.trans near.items
  assessments := far.assessments.trans near.assessments
  grown := near.grown.trans far.grown
  added := by
    obtain ⟨first, signedFirst, newFirst, knownFirst⟩ := near.added
    obtain ⟨second, signedSecond, newSecond, knownSecond⟩ := far.added
    refine ⟨first ++ second, ?_, ?_, ?_⟩
    · rw [signedSecond, signedFirst, List.map_append, List.append_assoc]
    · intro pair listed
      rcases List.mem_append.mp listed with early | late
      · exact newFirst pair early
      · exact near.grown.trans (newSecond pair late)
    · rw [List.append_eq_nil_iff, List.forall_mem_append, knownFirst]
      refine and_congr_right fun all => ?_
      have same : middle.signatures = before.signatures := by
        rw [signedFirst, knownFirst.mpr all, List.map_nil, List.append_nil]
      simp only [knownSecond, Database.Knows, same]

/-- The measures of a referential after it is enlarged. -/
theorem Enlarged.carries_iff (enlarged : Enlarged referential codes before after) {other key : Nat}
    (old : other ≠ referential ∨ key < before.measures.next) :
    after.Carries other key ↔ before.Carries other key := by
  obtain ⟨added, signed, fresh, _⟩ := enlarged.added
  rw [Assessments.carries_iff, Assessments.carries_iff, signed]
  refine exists_congr fun code => ?_
  rw [List.mem_append]
  refine or_iff_left ?_
  rintro listed
  obtain ⟨pair, new, same⟩ := List.mem_map.mp listed
  obtain ⟨rfl, same⟩ := Prod.ext_iff.mp same
  obtain rfl : pair = (code, key) := same
  rcases old with apart | old
  · exact apart rfl
  · exact absurd (fresh _ new) (Nat.not_le.mpr old)

/-- Only the assessments of the whole referential notice, when a code is new. -/
theorem Enlarged.scopesKept_iff (enlarged : Enlarged referential codes before after) :
    ScopesKept before after ↔
      ∀ assessment ∈ before.assessments, assessment.status = .inProgress →
        assessment.referential = referential → assessment.subset = none →
        ∀ code ∈ codes, before.Knows referential code := by
  obtain ⟨added, signed, fresh, known⟩ := enlarged.added
  have sameAsks (subset : Option Nat) (key : Nat) : after.Asks subset key ↔ before.Asks subset key := by
    rw [Database.Asks, Database.Asks, enlarged.items]
  constructor
  · intro kept assessment inside running here whole
    refine known.mp (List.eq_nil_iff_forall_not_mem.mpr ?_)
    rintro ⟨code, key⟩ new
    have carried : after.Carries referential key := by
      rw [Assessments.carries_iff, signed]
      exact ⟨code, List.mem_append_right _ (List.mem_map.mpr ⟨(code, key), new, rfl⟩)⟩
    have asked : before.InScope assessment key := by
      refine (kept.kept assessment inside running key).mp (inScope_iff.mpr ?_)
      rw [here, whole]
      exact ⟨carried, asks_none⟩
    exact absurd (lt_next_of_carries (inScope_iff.mp asked).1) (Nat.not_lt.mpr (fresh _ new))
  · intro spared
    refine ⟨enlarged.assessments, fun assessment inside running key => ?_⟩
    rw [inScope_iff, inScope_iff, sameAsks]
    refine and_congr_left fun asks => ?_
    cases chosen : assessment.subset with
    | some subset =>
        rw [chosen] at asks
        exact enlarged.carries_iff (Or.inr (lt_next_of_asks asks))
    | none =>
        by_cases here : assessment.referential = referential
        · have nothing := known.mpr (spared assessment inside running here chosen)
          rw [Assessments.carries_iff, Assessments.carries_iff, signed, nothing, List.map_nil,
            List.append_nil]
        · exact enlarged.carries_iff (Or.inl here)

theorem enlarged_of_known (items : after.items = before.items)
    (assessments : after.assessments = before.assessments)
    (next : after.measures.next = before.measures.next)
    (signatures : after.signatures = before.signatures)
    (known : ∀ code ∈ codes, before.Knows referential code) :
    Enlarged referential codes before after where
  items := items
  assessments := assessments
  grown := next.ge
  added := ⟨[], by simp [signatures], by simp, iff_of_true rfl known⟩

theorem enlarged_of_create {code : String} {build : Nat → Measure}
    (items : after.items = before.items) (assessments : after.assessments = before.assessments)
    (rows : after.measures.rows = before.measures.rows ++ [build before.measures.next])
    (grown : before.measures.next ≤ after.measures.next)
    (built : ∀ key, (build key).signature = (referential, code, key))
    (unknown : ¬ before.Knows referential code) : Enlarged referential [code] before after where
  items := items
  assessments := assessments
  grown := grown
  added := by
    refine ⟨[(code, before.measures.next)], ?_, ?_, ?_⟩
    · rw [Database.signatures, rows, List.map_append, List.map_singleton, built]
      rfl
    · intro pair listed
      rw [List.mem_singleton.mp listed]
    · refine iff_of_false (List.cons_ne_nil _ _) fun known => unknown ?_
      exact known code (List.mem_singleton_self code)

theorem enlarged_createMeasure {code : String} {build : Nat → Measure}
    {ident_build : ∀ key, ident (build key) = key}
    (built : ∀ key, (build key).signature = (referential, code, key))
    (unknown : ¬ db.Knows referential code) :
    Enlarged referential [code] db (db.createMeasure build ident_build) :=
  enlarged_of_create rfl rfl rfl (Nat.le_succ _) built unknown

/-- Writing one measure by its code. -/
theorem enlarged_saveMeasure {code : String} {change : Measure → Measure}
    {keeps : ∀ row, ident (change row) = ident row} {build : Nat → Measure}
    {ident_build : ∀ key, ident (build key) = key}
    (changed : ∀ row, (change row).signature = row.signature)
    (built : ∀ key, (build key).signature = (referential, code, key)) :
    Enlarged referential [code] db
      (db.saveMeasure referential code change keeps build ident_build) := by
  cases found : db.measureOf? referential code with
  | none =>
      have unknown : ¬ db.Knows referential code := by
        rw [knows_iff, found]
        rintro ⟨⟩
      have created : (db.saveMeasure referential code change keeps build ident_build).measures =
          db.measures.create build ident_build :=
        Table.updateOrCreate_of_none found
      refine enlarged_of_create rfl rfl ?_ ?_ built unknown
      · rw [created]
        rfl
      · rw [created]
        exact Nat.le_succ _
  | some row =>
      have written : (db.saveMeasure referential code change keeps build ident_build).measures =
          db.measures.modify (ident row) change keeps :=
        Table.updateOrCreate_of_some found
      refine enlarged_of_known rfl rfl ?_ ?_ ?_
      · rw [written]
        rfl
      · rw [Database.signatures, written]
        refine (List.map_map ..).trans (List.map_congr_left fun measure _ => ?_)
        rw [Function.comp_apply]
        split
        · exact changed measure
        · rfl
      · intro other listed
        rw [List.mem_singleton.mp listed, knows_iff, found]
        rfl

end Enlargement

/-! ## One edit -/

section Edits

variable {db : Database}

theorem enlarged_importMeasure (referential domain : Nat) (state : Importing)
    (ranked : ParsedMeasure × Nat) :
    Enlarged referential [ranked.1.code] state.db
      (state.measure referential domain ranked).db :=
  enlarged_saveMeasure (fun _ => rfl) (fun _ => rfl)

theorem enlarged_importMeasures (referential domain : Nat) (state : Importing)
    (ranked : List (ParsedMeasure × Nat)) :
    Enlarged referential (ranked.map fun pair => pair.1.code) state.db
      (ranked.foldl (Importing.measure referential domain) state).db := by
  induction ranked generalizing state with
  | nil => exact Enlarged.refl referential state.db
  | cons pair rest ih =>
      exact (enlarged_importMeasure referential domain state pair).trans (ih _)

theorem enlarged_importDomain (referential : Nat) (state : Importing) (parsed : ParsedDomain) :
    Enlarged referential (parsed.measures.map ParsedMeasure.code) state.db
      (state.domain referential parsed).db := by
  have saved : Enlarged referential [] state.db (state.db.saveDomain referential parsed).1 :=
    enlarged_of_known rfl rfl rfl rfl (by simp)
  have imported := enlarged_importMeasures referential
    (state.db.saveDomain referential parsed).2.id
    { state with db := (state.db.saveDomain referential parsed).1 } (parsed.measures.zipIdx 1)
  have codes : ((parsed.measures.zipIdx 1).map fun pair => pair.1.code) =
      parsed.measures.map ParsedMeasure.code := by
    rw [← List.zipIdx_map_fst 1 parsed.measures, List.map_map]
    simp
  rw [codes] at imported
  exact saved.trans imported

theorem enlarged_importDomains (referential : Nat) (state : Importing)
    (domains : List ParsedDomain) :
    Enlarged referential
      (domains.flatMap fun domain => domain.measures.map ParsedMeasure.code) state.db
      (domains.foldl (Importing.domain referential) state).db := by
  induction domains generalizing state with
  | nil => exact Enlarged.refl referential state.db
  | cons parsed rest ih =>
      rw [List.flatMap_cons]
      exact (enlarged_importDomain referential state parsed).trans (ih _)

/-- An import enlarges the scope of its referential by the codes of its measures. -/
theorem enlarged_importReferential (db : Database) (parsed : ParsedReferential) (activate : Bool)
    (ownerTenant : Option Nat) :
    Enlarged (db.saveReferential parsed ownerTenant activate).2.id
      (parsed.domains.flatMap fun domain => domain.measures.map ParsedMeasure.code) db
      (parsed.domains.foldl (Importing.domain (db.saveReferential parsed ownerTenant activate).2.id)
        { db := (db.saveReferential parsed ownerTenant activate).1
          created := 0
          updated := 0 }).db := by
  have saved : Enlarged (db.saveReferential parsed ownerTenant activate).2.id [] db
      (db.saveReferential parsed ownerTenant activate).1 :=
    enlarged_of_known rfl rfl rfl rfl (by simp)
  have imported := enlarged_importDomains (db.saveReferential parsed ownerTenant activate).2.id
    { db := (db.saveReferential parsed ownerTenant activate).1, created := 0, updated := 0 }
    parsed.domains
  exact saved.trans imported

theorem scopesKept_step_importFile (parsed : ParsedReferential) (activate : Bool)
    (ownerTenant : Option Nat) :
    ScopesKept db (catalogueStep db (.importFile parsed activate ownerTenant)) ↔
      KeepsScopes db (.importFile parsed activate ownerTenant) := by
  rw [catalogueStep, importReferential, KeepsScopes]
  have enlarged := enlarged_importReferential db parsed activate ownerTenant
  cases found : db.referentials.rows.find? fun row => row.slug = parsed.slug with
  | none =>
      have fresh : (db.saveReferential parsed ownerTenant activate).2.id = db.referentials.next := by
        rw [Database.saveReferential, Table.written, found]
      refine iff_of_true (enlarged.scopesKept_iff.mpr ?_) (by rintro row ⟨⟩)
      intro assessment inside _ here
      obtain ⟨row, known, same⟩ := db.assessed assessment inside
      exact absurd (same.trans (here.trans fresh)) (Table.ne_next known)
  | some row =>
      have mine : (db.saveReferential parsed ownerTenant activate).2.id = row.id := by
        rw [Database.saveReferential, Table.written, found]
      by_cases owned : row.ownerTenant = ownerTenant
      · rw [if_neg (by simp [owned])]
        refine enlarged.scopesKept_iff.trans ?_
        rw [mine]
        constructor
        · rintro spared other same _ assessment inside running here whole domain listed measure given
          obtain rfl := Option.some.inj same
          refine knows_iff.mp (spared assessment inside running here whole measure.code ?_)
          exact List.mem_flatMap.mpr ⟨domain, listed, List.mem_map.mpr ⟨measure, given, rfl⟩⟩
        · intro spared assessment inside running here whole code listed
          obtain ⟨domain, mentioned, named⟩ := List.mem_flatMap.mp listed
          obtain ⟨measure, given, rfl⟩ := List.mem_map.mp named
          exact knows_iff.mpr
            (spared row rfl owned assessment inside running here whole domain mentioned measure given)
      · rw [if_pos (by simp [owned])]
        refine iff_of_true (ScopesKept.refl db) ?_
        rintro other same mine'
        exact absurd (Option.some.inj same ▸ mine') owned

theorem scopesKept_step_addMeasure (referential : Nat) (domainCode code officialTitle plainLanguage
    level : String) (weight : Float) (effort impact sourceUrl sourceReference : String) :
    ScopesKept db (catalogueStep db (.addMeasure referential domainCode code officialTitle
        plainLanguage level weight effort impact sourceUrl sourceReference)) ↔
      KeepsScopes db (.addMeasure referential domainCode code officialTitle plainLanguage level weight
        effort impact sourceUrl sourceReference) := by
  rw [catalogueStep, KeepsScopes]
  cases db.referentials.find? referential with
  | none => exact iff_of_true (ScopesKept.refl db) (by rintro row ⟨⟩)
  | some row =>
      simp only [Option.some.injEq, forall_eq']
      rw [addMeasure]
      cases checked : checkMeasure db row domainCode code officialTitle plainLanguage effort impact with
      | error _ => exact iff_of_true (ScopesKept.refl db) (by rintro ⟨⟩)
      | ok domain =>
          have unknown : ¬ db.Knows row.id (strip code) := by
            rw [knows_iff]
            exact unknown_of_checkMeasure checked
          dsimp only
          rw [(enlarged_createMeasure (fun _ => rfl) unknown).scopesKept_iff]
          refine Iff.trans ?_ (imp_iff_right rfl).symm
          refine forall₄_congr fun assessment _ _ here => forall_congr' fun whole => ?_
          exact iff_of_false (fun known => unknown (known _ (List.mem_singleton_self _))) id

theorem asks_dropItems {subset other key : Nat} :
    (db.dropItems subset).Asks (some other) key ↔ other ≠ subset ∧ db.Asks (some other) key := by
  rw [asks_some_iff, asks_some_iff]
  constructor
  · rintro ⟨item, inside, rfl, listed⟩
    obtain ⟨old, apart⟩ := Table.mem_deleteWhere.mp inside
    exact ⟨of_decide_eq_false apart, item, old, rfl, listed⟩
  · rintro ⟨apart, item, old, rfl, listed⟩
    exact ⟨item, Table.mem_deleteWhere.mpr ⟨old, decide_eq_false apart⟩, rfl, listed⟩

theorem asks_fillItems {subset other key : Nat} {chosen : List Measure}
    (known : ∀ measure ∈ chosen, measure ∈ db.measures) :
    (db.fillItems subset chosen known).Asks (some other) key ↔
      db.Asks (some other) key ∨ other = subset ∧ ∃ measure ∈ chosen, measure.id = key := by
  rw [asks_some_iff, asks_some_iff]
  constructor
  · rintro ⟨item, inside, rfl, listed⟩
    rcases Table.mem_createAll inside with old | ⟨ranked, taken, fresh, rfl⟩
    · exact Or.inl ⟨item, old, rfl, listed⟩
    · exact Or.inr ⟨rfl, ranked.1, List.fst_mem_of_mem_zipIdx taken, listed⟩
  · rintro (⟨item, old, same, listed⟩ | ⟨rfl, measure, taken, rfl⟩)
    · exact ⟨item, Table.mem_createAll_of_mem old, same, listed⟩
    · rw [← List.zipIdx_map_fst 1 chosen] at taken
      obtain ⟨ranked, listed, rfl⟩ := List.mem_map.mp taken
      obtain ⟨key, created⟩ : ∃ key, (⟨key, other, ranked.1.id, ranked.2⟩ : SubsetMeasure) ∈
          (db.fillItems other chosen known).items :=
        Table.exists_mem_createAll listed
      exact ⟨_, created, rfl, rfl⟩

/-- The key of the composition that is written. -/
def Database.compositionKey (db : Database) (referential : Nat) (slug : String) : Nat :=
  (db.subsetOf? referential slug).elim db.subsets.next MeasureSubset.id

theorem id_saveSubset {referential : Nat} {slug : String} (sheet : SubsetSheet) :
    (db.saveSubset referential slug sheet).2.id = db.compositionKey referential slug := by
  rw [Database.saveSubset, Table.written, Database.compositionKey, Database.subsetOf?]
  cases db.subsets.rows.find? (isSubset referential slug) <;> rfl

/-- The composition of an assessment is the one written where it is the stored one. -/
theorem eq_compositionKey_iff {assessment : Assessment} {subset referential : Nat} {slug : String}
    (inside : assessment ∈ db.assessments) (chosen : assessment.subset = some subset) :
    subset = db.compositionKey referential slug ↔
      ∃ composition, db.subsetOf? referential slug = some composition ∧
        subset = composition.id := by
  rw [Database.compositionKey]
  cases db.subsetOf? referential slug with
  | none =>
      obtain ⟨composition, stored, same⟩ := db.composed assessment inside subset chosen
      refine iff_of_false (fun next => ?_) (by rintro ⟨_, ⟨⟩, _⟩)
      exact Table.ne_next stored (same.trans next)
  | some composition =>
      simp only [Option.some.injEq, exists_eq_left']
      exact Iff.rfl

/-- The composition past its checks lists what it was given, and no other changed. -/
theorem asks_createSubset {referential : Referential} {slug : String}
    {measureCodes : List String} {ownerTenant : Option Nat}
    (checked : checkComposition db referential slug measureCodes ownerTenant = .ok ())
    (name description : String) (createdBy : Option Nat) (subset key : Nat) :
    (createSubset db referential slug name measureCodes description ownerTenant createdBy).1.Asks
        (some subset) key ↔
      if subset = db.compositionKey referential.id slug then
        ∃ measure ∈ db.recomposed referential.id measureCodes, measure.id = key
      else db.Asks (some subset) key := by
  rw [createSubset, checked, Database.recomposed,
    ← id_saveSubset { name, description, ownerTenant, createdBy }]
  dsimp only
  by_cases apart : ((db.chosen referential.id measureCodes).map Measure.id).Nodup
  · rw [if_pos apart, if_pos apart]
    refine (asks_fillItems ?_).trans ((or_congr_left asks_dropItems).trans ?_)
    · exact fun _ => mem_chosen_measures db
    · split
      · rename_i mine
        simp [mine]
      · rename_i other
        simp only [ne_eq, other, not_false_eq_true, true_and, false_and, or_false]
        exact Iff.rfl
  · rw [if_neg apart, if_neg apart]
    refine asks_dropItems.trans ?_
    split
    · rename_i mine
      simp [mine]
    · rename_i other
      simp only [ne_eq, other, not_false_eq_true, true_and]
      exact Iff.rfl

theorem tables_createSubset {referential : Referential} {slug name description : String}
    {measureCodes : List String} {ownerTenant createdBy : Option Nat} {after : Database}
    (composed : (createSubset db referential slug name measureCodes description ownerTenant
      createdBy).1 = after) :
    after.measures = db.measures ∧ after.assessments = db.assessments := by
  subst composed
  rw [createSubset]
  split
  · exact ⟨rfl, rfl⟩
  · dsimp only
    split <;> exact ⟨rfl, rfl⟩

theorem mem_of_mem_recomposed {referential : Nat} {measureCodes : List String} {measure : Measure}
    (named : measure ∈ db.recomposed referential measureCodes) : measure ∈ db.measures := by
  rw [Database.recomposed] at named
  split at named
  · exact mem_chosen_measures db named
  · cases named

theorem exists_recomposed_iff {referential : Nat} {measureCodes : List String} {measure : Measure}
    (known : measure ∈ db.measures) :
    (∃ other ∈ db.recomposed referential measureCodes, other.id = measure.id) ↔
      measure ∈ db.recomposed referential measureCodes := by
  constructor
  · rintro ⟨other, named, same⟩
    exact Table.ident_injective (mem_of_mem_recomposed named) known same ▸ named
  · intro named
    exact ⟨measure, named, rfl⟩

/-- Only the assessments in progress on the composition notice. -/
theorem scopesKept_createSubset_iff {row : Referential} {slug name description : String}
    {measureCodes : List String} {ownerTenant createdBy : Option Nat}
    (checked : checkComposition db row slug measureCodes ownerTenant = .ok ()) :
    ScopesKept db
        (createSubset db row slug name measureCodes description ownerTenant createdBy).1 ↔
      ∀ composition, db.subsetOf? row.id slug = some composition →
        ∀ assessment ∈ db.assessments, assessment.status = .inProgress →
          assessment.subset = some composition.id →
          ∀ measure ∈ db.measures, measure.referential = assessment.referential →
            (measure ∈ db.recomposed row.id measureCodes ↔
              measure.id ∈ db.subsetMeasureIds composition.id) := by
  have asks := asks_createSubset checked name description createdBy
  generalize composed : (createSubset db row slug name measureCodes description ownerTenant
    createdBy).1 = after at asks ⊢
  obtain ⟨measures, assessments⟩ := tables_createSubset composed
  have carries (referential key : Nat) :
      after.Carries referential key ↔ db.Carries referential key := by
    rw [Database.Carries, Database.Carries, measures]
  constructor
  · intro kept composition found assessment inside running chosen measure known here
    have mine := (eq_compositionKey_iff inside chosen).mpr ⟨composition, found, rfl⟩
    have same := kept.kept assessment inside running measure.id
    rw [inScope_iff, inScope_iff, carries, chosen, asks, if_pos mine,
      exists_recomposed_iff known, and_congr_right_iff] at same
    rw [mem_subsetMeasureIds, ← asks_some_iff]
    exact same ⟨measure, known, here, rfl⟩
  · intro spared
    refine ⟨assessments, fun assessment inside running key => ?_⟩
    rw [inScope_iff, inScope_iff, carries]
    refine and_congr_right fun carried => ?_
    cases chosen : assessment.subset with
    | none => exact iff_of_true asks_none asks_none
    | some subset =>
        rw [asks]
        by_cases mine : subset = db.compositionKey row.id slug
        · rw [if_pos mine]
          obtain ⟨measure, known, here, rfl⟩ := carried
          rw [exists_recomposed_iff known, asks_some_iff, ← mem_subsetMeasureIds]
          obtain ⟨composition, found, rfl⟩ := (eq_compositionKey_iff inside chosen).mp mine
          exact spared composition found assessment inside running chosen measure known here
        · rw [if_neg mine]

theorem scopesKept_step_compose (referential : Nat) (slug name : String)
    (measureCodes : List String) (description : String) (ownerTenant createdBy : Option Nat) :
    ScopesKept db (catalogueStep db (.compose referential slug name measureCodes description
        ownerTenant createdBy)) ↔
      KeepsScopes db (.compose referential slug name measureCodes description ownerTenant
        createdBy) := by
  rw [catalogueStep, KeepsScopes]
  cases db.referentials.find? referential with
  | none => exact iff_of_true (ScopesKept.refl db) (by rintro row ⟨⟩)
  | some row =>
      simp only [Option.some.injEq, forall_eq']
      cases checked : checkComposition db row slug measureCodes ownerTenant with
      | error error =>
          refine iff_of_true ?_ (by rintro ⟨⟩)
          rw [createSubset, checked]
          exact ScopesKept.refl db
      | ok accepted =>
          rw [forall_prop_of_true rfl]
          exact scopesKept_createSubset_iff checked

/-- What one edit does to the scopes of the assessments in progress. -/
theorem scopesKept_step_iff (db : Database) (event : CatalogueEvent) :
    ScopesKept db (catalogueStep db event) ↔ KeepsScopes db event := by
  cases event with
  | compose referential slug name measureCodes description ownerTenant createdBy =>
      exact scopesKept_step_compose referential slug name measureCodes description ownerTenant
        createdBy
  | addMeasure referential domainCode code officialTitle plainLanguage level weight effort impact
      sourceUrl sourceReference =>
      exact scopesKept_step_addMeasure referential domainCode code officialTitle plainLanguage level
        weight effort impact sourceUrl sourceReference
  | importFile parsed activate ownerTenant =>
      exact scopesKept_step_importFile parsed activate ownerTenant
  | grant tenant referential grantedBy note =>
      refine iff_of_true ?_ trivial
      rw [catalogueStep]
      cases db.referentials.find? referential with
      | none => exact ScopesKept.refl db
      | some row =>
          dsimp only
          rw [assignReferential]
          by_cases foreign : row.ownerTenant ≠ none ∧ row.ownerTenant ≠ some tenant
          · rw [if_pos foreign]
            exact ScopesKept.refl db
          · rw [if_neg foreign]
            exact scopesKept_of_same rfl rfl rfl
  | revoke now tenant referential revokedBy =>
      refine iff_of_true ?_ trivial
      rw [catalogueStep]
      cases db.referentials.find? referential with
      | none => exact ScopesKept.refl db
      | some row =>
          dsimp only
          rw [revokeReferential]
          split
          · exact ScopesKept.refl db
          · split
            · exact ScopesKept.refl db
            · exact scopesKept_of_same rfl rfl rfl

end Edits

/-! ## Runs -/

/-- Over any run of edits, no scope of an assessment in progress changes exactly when
each recomposition of a composition in use lists the same measures and no
referential assessed as a whole gets a measure. -/
theorem scopes_kept_iff (start : Database) (events : List CatalogueEvent) :
    Related catalogueStep ScopesKept start events ↔
      EachStep catalogueStep KeepsScopes start events :=
  related_iff_of_step ScopesKept.refl (fun _ _ _ => ScopesKept.trans) scopesKept_step_iff start
    events

/-! The composition of an assessment in progress is replaced. -/

section Replaced

def composeSecond : CatalogueEvent :=
  .compose 0 "essentielles" "Essentielles" ["2"] "" none none

theorem recomposed_scope_changes :
    ¬ Related catalogueStep ScopesKept startedOnFirst [composeSecond] := by
  intro related
  have kept : ScopesKept startedOnFirst (catalogueStep startedOnFirst composeSecond) :=
    related.1.2
  have before : ∀ row ∈ startedOnFirst.assessmentMeasures firstAssessment, row.id ≠ 1 := by
    decide +kernel
  have after : ∃ row ∈ (catalogueStep startedOnFirst composeSecond).assessmentMeasures
      firstAssessment, row.id = 1 := by
    decide +kernel
  obtain ⟨row, asked, same⟩ := (kept.kept firstAssessment (by decide +kernel) rfl 1).mp after
  exact before row asked same

end Replaced

end RssiService.Assessments
