import RssiService.Assessments.ImportChecks

/-!
# What the analysis does not catch

The console promises the errors of a file in a list.  The reader catches its own
refusals and the errors of values, but no error of a type: a value of another type
than the one it goes through ends the analysis, when no refusal comes before it.
-/

namespace RssiService.Assessments.Importers

open Foundation Foundation.Outcome Foundation.Traversal Python

variable (platform : Platform)

/-! ## Values that are not read -/

def Fault.IsUncaught : Fault → Prop
  | .uncaught _ => True
  | .refused _ | .value _ => False

/-- The fields of a dictionary. -/
def fields : Json → List (String × Json)
  | .obj fields => fields
  | _ => []

/-- A part of a measure, which is empty when it is missing. -/
def part (raw : List (String × Json)) (name : String) : Json := Json.getOr raw name (.obj [])

/-- `int` raises no `ValueError` on the value. -/
def notCounted : Json → Bool
  | .null | .arr _ | .obj _ => true
  | .float text => (intOfFloat text).isNone && text ≠ "nan"
  | .bool _ | .int _ | .str _ => false

/-- The items that are gone through, when the value has some. -/
def items? : Json → Option (List Json)
  | .arr items => some items
  | .obj fields => some (fields.map fun field => .str field.1)
  | .str text => some (text.toList.map fun symbol => .str (String.ofList [symbol]))
  | .null | .bool _ | .int _ | .float _ => none

/-- The value is one of the choices, or leaves the choice to the default. -/
def Admitted (choices : List String) (value : Json) : Prop :=
  value.isBlank = true ∨
    platform.unicode.lower (strip (value.toStr platform.unicode)) ∈ choices

/-- The weight is missing or is a number that no comparison refuses. -/
def WeightReads (value : Json) : Prop :=
  value.isBlank = true ∨
    ∃ poids, platform.float value = .ok poids ∧ (Exact.ofFloat poids).le (.finite 0) = false

/-- The weight is an integer that no float reaches. -/
def WeightOverflows (value : Json) : Prop :=
  value.isBlank = false ∧ platform.float value = .error .overflow

/-! ## Measures -/

/-- The values of the inherited form have the types that are gone through. -/
@[mk_iff]
structure InheritedTyped (raw : List (String × Json)) : Prop where
  title : (Json.getOr (fields (part raw "official")) "title" (.str "")).isText = true
  simplified : (part raw "simplified").isDict = true
  question : (Json.getOr (fields (part raw "simplified")) "question" (.str "")).isText = true
  level : (Json.getOr (fields (part raw "official")) "level" (.str "")).isContainer = false
  rating : (part raw "product_rating").isDict = true

structure InheritedReads (raw : List (String × Json)) : Prop extends InheritedTyped raw where
  effort : Admitted platform gradeValues
    (Json.getOr (fields (part raw "product_rating")) "effort" .null)
  impact : Admitted platform gradeValues
    (Json.getOr (fields (part raw "product_rating")) "impact" .null)

/-- The number of a measure is missing or an integer. -/
def NumberReads (raw : List (String × Json)) : Prop :=
  (Json.getOr raw "number" .null).isBlank = true ∨
    (Json.getOr raw "number" .null).toInt?.isSome = true

structure GenericReads (raw : List (String × Json)) : Prop where
  number : NumberReads raw
  weight : WeightReads platform (Json.getOr raw "weight" .null)
  effort : Admitted platform gradeValues (Json.getOr raw "effort" .null)
  impact : Admitted platform gradeValues (Json.getOr raw "impact" .null)

/-- The number of a measure raises, or its weight after a number that is read. -/
def GenericRaises (raw : List (String × Json)) : Prop :=
  (Json.getOr raw "number" .null).isBlank = false ∧
      notCounted (Json.getOr raw "number" .null) = true ∨
    NumberReads raw ∧ WeightOverflows platform (Json.getOr raw "weight" .null)

/-- The domain that a measure declares. -/
def declared (raw : List (String × Json)) : Json :=
  let official := Json.getOr (fields (part raw "official")) "domain" .null
  if official.isTruthy then official else Json.getOr raw "domain" .null

/-- A measure declares another domain than the one it is in. -/
def declaresOther (code : String) (raw : List (String × Json)) : Bool :=
  (declared raw).isTruthy && !(declared raw).equals code

/-- The measure is read. -/
def MeasureReads (code : String) (mesure : Json) : Prop :=
  (mesure.isDict = true ∧ (part (fields mesure) "official").isDict = true) ∧
    declaresOther code (fields mesure) = false ∧
    if isInherited (fields mesure) then InheritedReads platform (fields mesure)
    else GenericReads platform (fields mesure)

/-- The measure is of an unexpected type, or a value of it that is gone through is. -/
def MeasureRaises (code : String) (mesure : Json) : Prop :=
  ¬ (mesure.isDict = true ∧ (part (fields mesure) "official").isDict = true) ∨
    declaresOther code (fields mesure) = false ∧
    if isInherited (fields mesure) then ¬ InheritedTyped (fields mesure)
    else GenericRaises platform (fields mesure)

/-! ## Domains and files -/

def domainCode (domaine : Json) : String :=
  text platform (Json.getOr (fields domaine) "code" (.str ""))

/-- The rank of a domain, by default its position. -/
def domainOrder (ranked : Json × Nat) : Json :=
  Json.getOr (fields ranked.1) "order" (.int ranked.2)

def domainMeasures (domaine : Json) : Json := Json.getOr (fields domaine) "measures" (.arr [])

def DomainReads (ranked : Json × Nat) : Prop :=
  ranked.1.isDict = true ∧ domainCode platform ranked.1 ≠ "" ∧
    (domainOrder ranked).toInt?.isSome = true ∧
    ∃ listed, items? (domainMeasures ranked.1) = some listed ∧
      ∀ mesure ∈ listed, MeasureReads platform (domainCode platform ranked.1) mesure

/-- What stands before the first measure that is not read is read, and that measure
raises. -/
def DomainRaises (ranked : Json × Nat) : Prop :=
  ranked.1.isDict = false ∨
    domainCode platform ranked.1 ≠ "" ∧
      (notCounted (domainOrder ranked) = true ∨
        (domainOrder ranked).toInt?.isSome = true ∧
          (items? (domainMeasures ranked.1) = none ∨
            ∃ listed, items? (domainMeasures ranked.1) = some listed ∧
              Stops (MeasureReads platform (domainCode platform ranked.1))
                (MeasureRaises platform (domainCode platform ranked.1)) listed))

/-- The fields at the root are there, and the kind is one of the declared ones. -/
def RootReads (data : List (String × Json)) : Prop :=
  (∀ champ ∈ ["slug", "name", "version", "domains"],
      (Json.getOr data champ .null).isTruthy = true) ∧
    Admitted platform kindValues (Json.getOr data "kind" .null)

def JsonRaises (data : Json) : Prop :=
  data.isDict = false ∨
    RootReads platform (fields data) ∧
      (items? (Json.getOr (fields data) "domains" .null) = none ∨
        ∃ listed, items? (Json.getOr (fields data) "domains" .null) = some listed ∧
          Stops (DomainReads platform) (DomainRaises platform) (listed.zipIdx 1))

/-- The content ends the analysis: values nested too deep or of another type, or a
line that is not CSV. -/
def ContentRaises (contenu fmt : String) : Prop :=
  if fmt = "json" then
    platform.loads contenu = .error .recursion ∨
      ∃ data, platform.loads contenu = .ok data ∧ JsonRaises platform data
  else ∃ message, Csv.read (separateur contenu) contenu = .error message

/-! ## Converters -/

section Converters

variable {platform}

theorem getOr_of_isInherited {raw : List (String × Json)} (inherited : isInherited raw = true)
    (default : Json) : Json.getOr raw "official" default = part raw "official" := by
  obtain ⟨official, found⟩ := Option.isSome_iff_exists.mp inherited
  rw [part, Json.getOr, Json.getOr, found, Option.getD_some, Option.getD_some]

theorem raising_asDict_eq_ok_iff {value : Json} {found : List (String × Json)} :
    raising value.asDict = .ok found ↔ value.isDict = true ∧ found = fields value := by
  cases value <;> simp [raising, Json.asDict, Json.isDict, fields, Except.mapError, eq_comm]

theorem fails_asDict_iff {value : Json} :
    Fails Fault.IsUncaught (raising value.asDict) ↔ value.isDict = false := by
  cases value <;> simp [raising, Json.asDict, Json.isDict, Fault.ofRaised, Fault.IsUncaught]

/-- What comes after a dictionary goes on with its fields. -/
theorem succeeds_dict_iff {Result : Type} {value : Json}
    {next : List (String × Json) → Except Fault Result} :
    Succeeds (raising value.asDict >>= next) ↔
      value.isDict = true ∧ Succeeds (next (fields value)) := by
  rw [succeeds_bind_iff]
  simp only [raising_asDict_eq_ok_iff, and_assoc, exists_and_left, exists_eq_left]

theorem fails_dict_iff {Result : Type} {value : Json}
    {next : List (String × Json) → Except Fault Result} :
    Fails Fault.IsUncaught (raising value.asDict >>= next) ↔
      value.isDict = false ∨
        value.isDict = true ∧ Fails Fault.IsUncaught (next (fields value)) := by
  rw [fails_bind_iff, fails_asDict_iff]
  simp only [raising_asDict_eq_ok_iff, and_assoc, exists_and_left, exists_eq_left]

theorem succeeds_stripped_iff {value : Json} :
    Succeeds (raising value.stripped) ↔ value.isText = true := by
  cases value <;> simp [raising, Json.stripped, Json.isText]

theorem fails_stripped_iff {value : Json} :
    Fails Fault.IsUncaught (raising value.stripped) ↔ value.isText = false := by
  cases value <;> simp [raising, Json.stripped, Json.isText, Fault.ofRaised, Fault.IsUncaught]

theorem raising_iterate_eq_ok_iff {value : Json} {listed : List Json} :
    raising value.iterate = .ok listed ↔ items? value = some listed := by
  cases value <;> simp [raising, Json.iterate, items?, Except.mapError]

theorem fails_iterate_iff {value : Json} :
    Fails Fault.IsUncaught (raising value.iterate) ↔ items? value = none := by
  cases value <;> simp [raising, Json.iterate, items?, Fault.ofRaised, Fault.IsUncaught]

/-- What comes after the items goes on with them. -/
theorem succeeds_items_iff {Result : Type} {value : Json} {next : List Json → Except Fault Result} :
    Succeeds (raising value.iterate >>= next) ↔
      ∃ listed, items? value = some listed ∧ Succeeds (next listed) := by
  rw [succeeds_bind_iff]
  simp only [raising_iterate_eq_ok_iff]

theorem fails_items_iff {Result : Type} {value : Json} {next : List Json → Except Fault Result} :
    Fails Fault.IsUncaught (raising value.iterate >>= next) ↔ items? value = none ∨
      ∃ listed, items? value = some listed ∧ Fails Fault.IsUncaught (next listed) := by
  rw [fails_bind_iff, fails_iterate_iff]
  simp only [raising_iterate_eq_ok_iff]

theorem succeeds_intOfText_iff {unicode : Unicode} {text : String} :
    Succeeds (Json.intOfText unicode text) ↔ (intOf text).isSome = true := by
  rw [Json.intOfText, intOf]
  cases numeral text with
  | none => simp
  | some written =>
      rw [Option.bind_some]
      dsimp only
      split <;> simp

theorem not_fails_intOfText {unicode : Unicode} {text : String} :
    ¬ Fails Fault.IsUncaught (raising (Json.intOfText unicode text)) := by
  rw [raising, fails_mapError_iff, Json.intOfText]
  split
  · simp [Fault.ofRaised, Fault.IsUncaught]
  · split <;> simp [Fault.ofRaised, Fault.IsUncaught]

theorem succeeds_toInt_iff {unicode : Unicode} {value : Json} :
    Succeeds (raising (value.toInt unicode)) ↔ value.toInt?.isSome = true := by
  rw [raising, succeeds_mapError_iff]
  cases value with
  | str text => exact succeeds_intOfText_iff
  | float text =>
      rw [Json.toInt, Json.toInt?]
      cases intOfFloat text with
      | none =>
          dsimp only
          split <;> simp
      | some value => simp
  | null => simp [Json.toInt, Json.toInt?]
  | bool value => simp [Json.toInt, Json.toInt?]
  | int value => simp [Json.toInt, Json.toInt?]
  | arr items => simp [Json.toInt, Json.toInt?]
  | obj fields => simp [Json.toInt, Json.toInt?]

theorem fails_toInt_iff {unicode : Unicode} {value : Json} :
    Fails Fault.IsUncaught (raising (value.toInt unicode)) ↔ notCounted value = true := by
  cases value with
  | str text => exact iff_of_false not_fails_intOfText Bool.false_ne_true
  | float text =>
      rw [raising, fails_mapError_iff, Json.toInt, notCounted]
      cases intOfFloat text with
      | none =>
          dsimp only
          split <;> simp [Fault.ofRaised, Fault.IsUncaught, *]
      | some value => simp
  | null => simp [raising, Json.toInt, notCounted, Fault.ofRaised, Fault.IsUncaught]
  | bool value => simp [raising, Json.toInt, notCounted]
  | int value => simp [raising, Json.toInt, notCounted]
  | arr items => simp [raising, Json.toInt, notCounted, Fault.ofRaised, Fault.IsUncaught]
  | obj fields => simp [raising, Json.toInt, notCounted, Fault.ofRaised, Fault.IsUncaught]

theorem succeeds_choice_iff {value : Json} {choices : List String} {default label champ : String} :
    Succeeds (choice platform value choices default label champ) ↔
      Admitted platform choices value := by
  rw [choice, Admitted]
  split
  · rename_i blank
    exact iff_of_true (succeeds_ok _) (.inl blank)
  · rename_i given
    rw [or_iff_right given]
    dsimp only
    split
    · rename_i listed
      exact iff_of_true (succeeds_ok _) listed
    · rename_i unknown
      exact iff_of_false (not_succeeds_error _) unknown

theorem not_fails_choice {value : Json} {choices : List String} {default label champ : String} :
    ¬ Fails Fault.IsUncaught (choice platform value choices default label champ) := by
  rw [choice]
  split
  · exact not_fails_ok _
  · dsimp only
    split
    · exact not_fails_ok _
    · exact fun failed => fails_error_iff.mp failed

theorem succeeds_float_iff {value : Json} {label : String} :
    Succeeds (float platform value label) ↔ WeightReads platform value := by
  rw [float, WeightReads]
  split_ifs with blank
  · exact iff_of_true (succeeds_ok _) (.inl blank)
  · rw [or_iff_right blank]
    cases platform.float value with
    | error fault => cases fault <;> simp
    | ok poids =>
        dsimp only
        split <;> simp_all

theorem fails_float_iff {value : Json} {label : String} :
    Fails Fault.IsUncaught (float platform value label) ↔ WeightOverflows platform value := by
  rw [float, WeightOverflows]
  split_ifs with blank
  · exact iff_of_false (not_fails_ok _) fun both => by rw [blank] at both; cases both.1
  · rw [Bool.not_eq_true] at blank
    rw [and_iff_right blank]
    cases platform.float value with
    | error fault => cases fault <;> simp [Fault.IsUncaught]
    | ok poids =>
        dsimp only
        split <;> simp [Fault.IsUncaught]

theorem succeeds_levelWeight_iff {niveau : Json} :
    Succeeds (levelWeight niveau) ↔ niveau.isContainer = false := by
  cases niveau <;> simp [levelWeight, Json.isContainer]

theorem fails_levelWeight_iff {niveau : Json} :
    Fails Fault.IsUncaught (levelWeight niveau) ↔ niveau.isContainer = true := by
  cases niveau <;> simp [levelWeight, Json.isContainer, Fault.IsUncaught]

end Converters

/-! ## One measure -/

section Measure

variable {platform} {raw : List (String × Json)} {code label : String}

/-- The two choices of a measure come last, and only refuse. -/
theorem succeeds_choices_iff {effort impact : Json} {make : String → String → ParsedMeasure} :
    Succeeds (do
      let effort ← choice platform effort gradeValues defaultEffort label "effort"
      let impact ← choice platform impact gradeValues defaultImpact label "impact"
      return make effort impact) ↔
        Admitted platform gradeValues effort ∧ Admitted platform gradeValues impact := by
  rw [succeeds_then_iff fun _ _ => succeeds_then_iff fun _ _ => iff_true_intro (succeeds_pure _),
    succeeds_choice_iff, succeeds_choice_iff, and_true]

theorem not_fails_choices {effort impact : Json} {make : String → String → ParsedMeasure} :
    ¬ Fails Fault.IsUncaught (do
      let effort ← choice platform effort gradeValues defaultEffort label "effort"
      let impact ← choice platform impact gradeValues defaultImpact label "impact"
      return make effort impact) := by
  rw [fails_then_iff fun _ _ => fails_then_iff fun _ _ => iff_false_intro (not_fails_pure _),
    and_false, or_false]
  rintro (failed | ⟨_, failed⟩)
  · exact not_fails_choice failed
  · exact not_fails_choice failed

theorem succeeds_parseInherited_iff (inherited : isInherited raw = true)
    (official : (part raw "official").isDict = true) :
    Succeeds (parseInherited platform raw label) ↔ InheritedReads platform raw := by
  rw [parseInherited, getOr_of_isInherited inherited, succeeds_dict_iff, and_iff_right official,
    succeeds_then_iff fun _ _ => succeeds_dict_iff.trans (and_congr_right fun _ =>
      succeeds_then_iff fun _ _ => succeeds_then_iff fun _ _ => succeeds_dict_iff.trans
        (and_congr_right fun _ => succeeds_choices_iff)),
    succeeds_stripped_iff, succeeds_stripped_iff, succeeds_levelWeight_iff]
  constructor
  · rintro ⟨title, simplified, question, level, rating, effort, impact⟩
    exact ⟨⟨title, simplified, question, level, rating⟩, effort, impact⟩
  · rintro ⟨⟨title, simplified, question, level, rating⟩, effort, impact⟩
    exact ⟨title, simplified, question, level, rating, effort, impact⟩

theorem fails_parseInherited_iff (inherited : isInherited raw = true)
    (official : (part raw "official").isDict = true) :
    Fails Fault.IsUncaught (parseInherited platform raw label) ↔ ¬ InheritedTyped raw := by
  rw [parseInherited, getOr_of_isInherited inherited, fails_dict_iff, official,
    fails_then_iff fun _ _ => fails_dict_iff.trans (or_congr_right (and_congr_right fun _ =>
      fails_then_iff fun _ _ => fails_then_iff fun _ _ => fails_dict_iff.trans
        (or_congr_right (and_congr_right fun _ => iff_false_intro not_fails_choices)))),
    fails_stripped_iff, fails_stripped_iff, fails_levelWeight_iff, succeeds_stripped_iff,
    succeeds_stripped_iff, succeeds_levelWeight_iff, inheritedTyped_iff]
  -- the first value of another type is the one that raises
  simp only [← Bool.not_eq_true]
  tauto

theorem succeeds_parseNumber_iff : Succeeds (parseNumber platform (Json.getOr raw "number" .null)) ↔
    NumberReads raw := by
  rw [parseNumber, NumberReads]
  split_ifs with blank
  · exact iff_of_true (succeeds_ok _) (.inl blank)
  · rw [succeeds_map_iff, succeeds_toInt_iff, or_iff_right blank]

theorem fails_parseNumber_iff {numero : Json} :
    Fails Fault.IsUncaught (parseNumber platform numero) ↔
      numero.isBlank = false ∧ notCounted numero = true := by
  rw [parseNumber]
  split_ifs with blank
  · refine iff_of_false (not_fails_ok _) ?_
    rintro ⟨given, _⟩
    exact Bool.false_ne_true (given.symm.trans blank)
  · rw [fails_map_iff, fails_toInt_iff, and_iff_right (Bool.not_eq_true _ ▸ blank)]

theorem succeeds_parseGeneric_iff :
    Succeeds (parseGeneric platform raw label) ↔ GenericReads platform raw := by
  rw [parseGeneric, succeeds_then_iff fun _ _ => succeeds_then_iff fun _ _ => succeeds_choices_iff,
    succeeds_parseNumber_iff, succeeds_float_iff]
  constructor
  · rintro ⟨number, weight, effort, impact⟩
    exact ⟨number, weight, effort, impact⟩
  · rintro ⟨number, weight, effort, impact⟩
    exact ⟨number, weight, effort, impact⟩

theorem fails_parseGeneric_iff :
    Fails Fault.IsUncaught (parseGeneric platform raw label) ↔ GenericRaises platform raw := by
  rw [parseGeneric, fails_then_iff fun _ _ => fails_then_iff fun _ _ =>
      iff_false_intro not_fails_choices,
    fails_parseNumber_iff, succeeds_parseNumber_iff, fails_float_iff, and_false, or_false,
    GenericRaises]

theorem declaredDomain_eq_ok_iff {declare : Json} :
    declaredDomain raw = .ok declare ↔
      (part raw "official").isDict = true ∧ declare = declared raw := by
  constructor
  · intro done
    obtain ⟨official, given, same⟩ := bind_eq_ok.mp done
    obtain ⟨typed, rfl⟩ := raising_asDict_eq_ok_iff.mp given
    exact ⟨typed, (Except.ok.inj same).symm⟩
  · rintro ⟨typed, rfl⟩
    exact bind_eq_ok.mpr ⟨_, raising_asDict_eq_ok_iff.mpr ⟨typed, rfl⟩, rfl⟩

theorem fails_declaredDomain_iff :
    Fails Fault.IsUncaught (declaredDomain raw) ↔ (part raw "official").isDict = false :=
  fails_dict_iff.trans (or_iff_left fun both => not_fails_pure _ both.2)

/-- The form of a measure that declares no other domain. -/
theorem succeeds_parseMeasure_iff (official : (part raw "official").isDict = true) :
    Succeeds (parseMeasure platform raw label) ↔
      if isInherited raw then InheritedReads platform raw else GenericReads platform raw := by
  rw [parseMeasure]
  split
  · rename_i inherited
    exact succeeds_parseInherited_iff inherited official
  · exact succeeds_parseGeneric_iff

theorem fails_parseMeasure_iff (official : (part raw "official").isDict = true) :
    Fails Fault.IsUncaught (parseMeasure platform raw label) ↔
      if isInherited raw then ¬ InheritedTyped raw else GenericRaises platform raw := by
  rw [parseMeasure]
  split
  · rename_i inherited
    exact fails_parseInherited_iff inherited official
  · exact fails_parseGeneric_iff

theorem succeeds_parseListed_iff {mesure : Json} :
    Succeeds (parseListed platform code mesure) ↔ MeasureReads platform code mesure := by
  rw [parseListed, succeeds_dict_iff, succeeds_bind_iff, MeasureReads, and_assoc]
  refine and_congr_right fun _ => ?_
  simp only [declaredDomain_eq_ok_iff, and_assoc, exists_and_left, exists_eq_left]
  refine and_congr_right fun official => ?_
  rw [declaresOther]
  split
  · rename_i other
    exact iff_of_false (not_succeeds_error _) fun both => Bool.false_ne_true
      (both.1.symm.trans other)
  · rename_i same
    rw [succeeds_parseMeasure_iff official, and_iff_right (Bool.not_eq_true _ ▸ same)]

theorem fails_parseListed_iff {mesure : Json} :
    Fails Fault.IsUncaught (parseListed platform code mesure) ↔
      MeasureRaises platform code mesure := by
  rw [parseListed, fails_dict_iff, fails_bind_iff, fails_declaredDomain_iff, MeasureRaises]
  simp only [declaredDomain_eq_ok_iff, and_assoc, exists_and_left, exists_eq_left]
  cases dict : mesure.isDict with
  | false => exact iff_of_true (.inl rfl) (.inl fun both => Bool.false_ne_true both.1)
  | true =>
      cases official : (part (fields mesure) "official").isDict with
      | false =>
          exact iff_of_true (.inr ⟨rfl, .inl rfl⟩) (.inl fun both => Bool.false_ne_true both.2)
      | true =>
          have given : ¬ true = false := Bool.noConfusion
          rw [or_iff_right given, and_iff_right rfl, or_iff_right given, and_iff_right rfl,
            or_iff_right (not_not.mpr ⟨rfl, rfl⟩), declaresOther]
          split
          · rename_i other
            exact iff_of_false (fun failed => fails_error_iff.mp failed) fun both =>
              Bool.false_ne_true (both.1.symm.trans other)
          · rename_i same
            rw [fails_parseMeasure_iff official, and_iff_right (Bool.not_eq_true _ ▸ same)]

end Measure

/-! ## Domains and files -/

section Files

variable {platform}

theorem succeeds_parseDomain_iff {ranked : Json × Nat} :
    Succeeds (parseDomain platform ranked) ↔ DomainReads platform ranked := by
  rw [parseDomain, succeeds_dict_iff, DomainReads, domainCode, domainOrder, domainMeasures]
  refine and_congr_right fun _ => ?_
  dsimp only
  split
  · rename_i blank
    exact iff_of_false (not_succeeds_error _) fun both => both.1 blank
  · rename_i coded
    rw [and_iff_right coded]
    refine Iff.trans (succeeds_then_iff fun _ _ => succeeds_items_iff.trans
      (exists_congr fun _ => and_congr_right fun _ => succeeds_then_iff fun _ _ =>
        iff_true_intro (succeeds_pure _))) ?_
    simp only [succeeds_toInt_iff, and_true, succeeds_mapM_iff, succeeds_parseListed_iff]

theorem fails_parseDomain_iff {ranked : Json × Nat} :
    Fails Fault.IsUncaught (parseDomain platform ranked) ↔ DomainRaises platform ranked := by
  rw [parseDomain, fails_dict_iff, DomainRaises, domainCode, domainOrder, domainMeasures]
  dsimp only
  cases dict : ranked.1.isDict with
  | false => exact iff_of_true (.inl rfl) (.inl rfl)
  | true =>
      refine or_congr_right ((and_iff_right rfl).trans ?_)
      split
      · rename_i blank
        exact iff_of_false (fun failed => fails_error_iff.mp failed) fun both => both.1 blank
      · rename_i coded
        rw [and_iff_right coded]
        refine Iff.trans (fails_then_iff fun _ _ => fails_items_iff.trans
          (or_congr_right (exists_congr fun _ => and_congr_right fun _ => fails_then_iff
            fun _ _ => iff_false_intro (not_fails_pure _)))) ?_
        rw [fails_toInt_iff, succeeds_toInt_iff]
        refine or_congr_right (and_congr_right fun _ => or_congr_right ?_)
        refine exists_congr fun listed => and_congr_right fun _ => ?_
        rw [and_false, or_false]
        exact fails_mapM_iff (fun _ => succeeds_parseListed_iff) fun _ => fails_parseListed_iff

theorem missingField?_eq_none_iff {data : List (String × Json)} :
    missingField? data = none ↔ ∀ champ ∈ ["slug", "name", "version"],
      (Json.getOr data champ .null).isTruthy = true := by
  rw [missingField?, List.find?_eq_none]
  simp

theorem fails_readRoot_iff {data : List (String × Json)} :
    Fails Fault.IsUncaught (readRoot platform data) ↔
      ((Json.getOr data "domains" .null).isTruthy = true ∧
        Admitted platform kindValues (Json.getOr data "kind" .null)) ∧
      (items? (Json.getOr data "domains" .null) = none ∨
        ∃ listed, items? (Json.getOr data "domains" .null) = some listed ∧
          Stops (DomainReads platform) (DomainRaises platform) (listed.zipIdx 1)) := by
  rw [readRoot]
  split
  · rename_i empty
    refine iff_of_false (fun failed => fails_error_iff.mp failed) ?_
    rintro ⟨⟨given, _⟩, _⟩
    exact Bool.false_ne_true (empty.symm.trans given)
  · rename_i given
    rw [Bool.not_eq_false] at given
    refine Iff.trans (fails_then_iff fun _ _ => fails_items_iff.trans
      (or_congr_right (exists_congr fun _ => and_congr_right fun _ => fails_then_iff
        fun _ _ => iff_false_intro (not_fails_pure _)))) ?_
    rw [succeeds_choice_iff, or_iff_right not_fails_choice, and_iff_right given]
    refine and_congr_right fun _ => or_congr_right ?_
    refine exists_congr fun listed => and_congr_right fun _ => ?_
    rw [and_false, or_false]
    exact fails_mapM_iff (fun _ => succeeds_parseDomain_iff) fun _ => fails_parseDomain_iff

theorem fails_readJson_iff {data : Json} :
    Fails Fault.IsUncaught (readJson platform data) ↔ JsonRaises platform data := by
  rw [readJson, fails_dict_iff, JsonRaises, RootReads]
  cases dict : data.isDict with
  | false => exact iff_of_true (.inl rfl) (.inl rfl)
  | true =>
      refine or_congr_right ((and_iff_right rfl).trans ?_)
      cases missing : missingField? (fields data) with
      | some champ =>
          refine iff_of_false (fun failed => fails_error_iff.mp failed) ?_
          rintro ⟨⟨given, _⟩, _⟩
          have none := missingField?_eq_none_iff.mpr fun champ listed =>
            given champ (by simp only [List.mem_cons] at listed ⊢; tauto)
          cases none.symm.trans missing
      | none =>
          have given := missingField?_eq_none_iff.mp missing
          rw [fails_readRoot_iff]
          simp only [List.forall_mem_cons] at given ⊢
          tauto

/-! ## Spreadsheets -/

theorem not_fails_cellNumber {numero : String} :
    ¬ Fails Fault.IsUncaught (cellNumber platform numero) := by
  rw [cellNumber]
  split
  · exact not_fails_ok _
  · rw [fails_map_iff]
    exact not_fails_intOfText

theorem not_fails_cellOrder {ordre : String} {others : Nat} :
    ¬ Fails Fault.IsUncaught (cellOrder platform ordre others) := by
  rw [cellOrder]
  split
  · exact not_fails_ok _
  · exact not_fails_intOfText

/-- A cell is a text, which no float is too small for. -/
theorem not_fails_cellWeight {row : Csv.Row} {column label : String} :
    ¬ Fails Fault.IsUncaught (float platform (field row column) label) := by
  rw [fails_float_iff, field]
  rintro ⟨given, overflow⟩
  cases found : row.get column with
  | none =>
      rw [found] at given
      cases given
  | some cell =>
      rw [found] at overflow
      exact platform.float_text cell overflow

theorem not_fails_parseRow {domains : List ParsedDomain} {numbered : Csv.Row × Nat} :
    ¬ Fails Fault.IsUncaught (parseRow platform domains numbered) := by
  have opens {row : Csv.Row} {code : String} :
      ¬ Fails Fault.IsUncaught (openDomain platform domains row code) := by
    rw [openDomain]
    split
    · exact not_fails_ok _
    · rw [fails_then_iff fun _ _ => iff_false_intro (not_fails_pure _), and_false, or_false]
      exact not_fails_cellOrder
  have measures {row : Csv.Row} {line : Nat} :
      ¬ Fails Fault.IsUncaught (parseCells platform row line) := by
    rw [parseCells, fails_then_iff fun _ _ => fails_then_iff fun _ _ =>
      iff_false_intro not_fails_choices, and_false, or_false]
    rintro (failed | ⟨_, failed⟩)
    · exact not_fails_cellNumber failed
    · exact not_fails_cellWeight failed
  rw [parseRow]
  dsimp only
  split
  · exact fun failed => fails_error_iff.mp failed
  · rw [fails_then_iff fun _ _ => fails_then_iff fun _ _ => iff_false_intro (not_fails_pure _),
      and_false, or_false]
    rintro (failed | ⟨_, failed⟩)
    · exact opens failed
    · exact measures failed

/-- The rows of a spreadsheet raise nothing that is not caught. -/
theorem not_fails_readCsv {rows : List Csv.Row} {header : Header} :
    ¬ Fails Fault.IsUncaught (readCsv platform rows header) := by
  have loop (numbered : List (Csv.Row × Nat)) (domains : List ParsedDomain) :
      ¬ Fails Fault.IsUncaught (numbered.foldlM (parseRow platform) domains) := by
    induction numbered generalizing domains with
    | nil => exact not_fails_pure _
    | cons first rest ih =>
        rw [List.foldlM_cons, fails_then_iff fun next _ => iff_false_intro (ih next), and_false,
          or_false]
        exact not_fails_parseRow
  rw [readCsv]
  split
  · exact fun failed => fails_error_iff.mp failed
  · rw [fails_then_iff fun _ _ => iff_false_intro (not_fails_pure _), and_false, or_false]
    exact loop _ _

/-! ## The analysis -/

theorem fails_csvOutcome_iff {Result : Type} {outcome : Except String Result} :
    Fails Fault.IsUncaught (csvOutcome outcome) ↔ ∃ message, outcome = .error message := by
  cases outcome <;> simp [csvOutcome, Fault.IsUncaught]

theorem fails_chargerJson_iff {contenu : String} :
    Fails Fault.IsUncaught (chargerJson platform contenu) ↔
      platform.loads contenu = .error .recursion := by
  rw [chargerJson]
  split <;> simp_all [Fault.IsUncaught]

theorem chargerJson_eq_ok_iff {contenu : String} {data : Json} :
    chargerJson platform contenu = .ok data ↔ platform.loads contenu = .ok data := by
  rw [chargerJson]
  split <;> simp_all

theorem fails_lire_iff {contenu fmt : String} {header : Header} :
    Fails Fault.IsUncaught (lire platform contenu fmt header) ↔
      ContentRaises platform contenu fmt := by
  rw [lire, ContentRaises]
  split
  · rw [fails_bind_iff, fails_chargerJson_iff]
    simp only [chargerJson_eq_ok_iff, fails_map_iff, fails_readJson_iff]
  · rw [lireLignes, bind_assoc, fails_then_iff fun records _ => iff_false_intro ?_,
      fails_csvOutcome_iff, and_false, or_false]
    rw [pure_bind]
    dsimp only
    split
    · exact not_fails_ok _
    · rw [fails_map_iff]
      exact not_fails_readCsv

theorem analyser_eq_error_iff {contenu fmt : String} (header : Option Header) :
    (∃ exception, analyser platform contenu fmt header = .error exception) ↔
      ContentRaises platform contenu fmt := by
  rw [← fails_lire_iff, analyser]
  cases read : lire platform contenu fmt (header.getD []) with
  | ok found => cases found <;> simp
  | error fault => cases fault <;> simp [Fault.IsUncaught]

end Files

/-- The analysis returns its report exactly where no value of another type comes
before the first refusal, and where each line is CSV. -/
theorem analyser_returns_iff (platform : Platform) (contenu fmt : String)
    (header : Option Header) :
    (∃ analyse, analyser platform contenu fmt header = .ok analyse) ↔
      ¬ ContentRaises platform contenu fmt := by
  rw [← analyser_eq_error_iff header]
  cases analyser platform contenu fmt header <;> simp

/-! A file that holds a list, and one with a carriage return within a line. -/

section Lists

/-- A platform that decodes the empty list and reads a few weights. -/
def samplePlatform : Platform where
  unicode := ⟨id, id, fun _ => true⟩
  loads text :=
    if text = "[]" then .ok (.arr [])
    else .error (.decode "Expecting value: line 1 column 1 (char 0)")
  float value :=
    match value with
    | .str text =>
        if text = "1" then .ok 1.0
        else if text = "nan" then .ok nan
        else .error .unreadable
    | _ => .error .unreadable
  printFloat _ := "0.0"
  float_text text := by
    dsimp only
    split_ifs <;> simp

theorem list_file_raises :
    ¬ ∀ contenu fmt header, ∃ analyse,
      analyser samplePlatform contenu fmt header = .ok analyse := by
  intro returns
  obtain ⟨analyse, done⟩ := returns "[]" "json" none
  have raised : analyser samplePlatform "[]" "json" none = .error .attributeError := rfl
  cases done.symm.trans raised

example : ∃ message,
    analyser samplePlatform "a\rb" "csv" none = .error (.csvError message) :=
  ⟨_, rfl⟩

end Lists

end RssiService.Assessments.Importers
